import FastPath.Proofs.Enforcement

/-!
# Bindings that are left over

An interface is bound with its first rule and unbound after its last one, and a failure of either is
only noted. So a binding whose deletion was refused is left over, and the next binding, which needs
a new key, collides with it: the interface stays bound to the upstream of before. An interface
without rules is bound for such a reason only, which the journal shows: the binding is `Undeleted`.
What neither binds nor unbinds an interface `Holds` its binding, and the reason why it is left as
well.
-/

namespace FastPath

open Std

/-! ## What the journal tells -/

/-- The requests that delete the binding of an interface. -/
def closings (d : IfIndex) : Reading Unit where
  asked
    | .stopForwarding i _ => if i = d then some () else none
    | _ => none
  stored _ _ := none
  aside _ _ := none

/-- An entry that tells of no request to delete the binding of an interface. -/
def Entry.isSilentAbout (d : IfIndex) (e : Entry) : Bool :=
  ((closings d).pick e).isNone

/-- An entry that tells of an access to a kernel table that was refused. An access that was let
through and collided is none. -/
def Entry.isRefusedAccess : Entry → Bool
  | .call (.table ..) (some (.refused _)) => true
  | _ => false

/-- What is not read is silent. -/
theorem Entry.isSilentAbout_of_isUnread {e : Entry} (d : IfIndex) (h : e.isUnread) :
    e.isSilentAbout d := by
  rw [isSilentAbout, Reading.pick_of_isUnread h]
  rfl

/-- The deletion of the binding of an interface. -/
def deletion (d : IfIndex) : Call :=
  .table .upstream6 (.delete (indexBytes d))

/-- By the journal, the binding of an interface could not be deleted, neither with all others nor by
itself. It was not to be deleted again since. -/
inductive Undeleted (d : IfIndex) : List Entry → Prop
  | uncleared {e : Entry} (he : e.isUncleared .upstream6) (past : List Entry) :
    Undeleted d (e :: past)
  | refused (u : IfIndex) (reason : String) (past : List Entry) :
    Undeleted d (.call (deletion d) (some (.refused reason)) ::
      .call (.request (.stopForwarding d u)) none :: past)
  | later {e : Entry} {past : List Entry} (he : e.isSilentAbout d) (h : Undeleted d past) :
    Undeleted d (e :: past)

namespace Platform

variable {p q r : Platform} {d : IfIndex}

/-- The binding of an interface is at `q` as it is at `p`, and nobody asked to delete it in
between. -/
structure Holds (d : IfIndex) (p q : Platform) : Prop where
  binding : q.kernel.upstream6[d]? = p.kernel.upstream6[d]?
  past : p.Writes (Entry.isSilentAbout d) q

theorem Holds.refl (d : IfIndex) (p : Platform) : p.Holds d p := ⟨rfl, .refl _ p⟩

theorem Holds.trans (h : Holds d p q) (h' : Holds d q r) : Holds d p r :=
  ⟨h'.binding.trans h.binding, h.past.trans h'.past⟩

/-- What is not read holds bindings. -/
theorem holds_push (d : IfIndex) (p : Platform) {e : Entry} (he : e.isUnread) :
    p.Holds d (p.push e) :=
  ⟨rfl, writes_push p (Entry.isSilentAbout_of_isUnread d he)⟩

/-- So does what leaves the stores alone, if it is not read. -/
theorem holds_of_unread (d : IfIndex) (hstores : q.stores = p.stores)
    (hpast : p.Writes Entry.isUnread q) : p.Holds d q where
  binding := by
    show q.stores.kernel.upstream6[d]? = p.stores.kernel.upstream6[d]?
    rw [hstores]
  past := hpast.mono (Entry.isSilentAbout_of_isUnread d)

/-- So does a request that neither binds the interface nor unbinds it. -/
theorem Serves.holds {req : Request} {x : Stores} (h : p.Serves req x q)
    (hreq : (closings d).pick (.call (.request req) none) = none)
    (hx : x.kernel.upstream6[d]? = p.kernel.upstream6[d]?) : p.Holds d q where
  binding := by
    show q.stores.kernel.upstream6[d]? = _
    rw [h.stores, hx]
  past := h.writes_of_pick hreq

/-- An interface is not bound, or the journal shows that its binding could not be deleted. -/
def Frees (d : IfIndex) (p : Platform) : Prop :=
  p.kernel.upstream6[d]? = none ∨ Undeleted d p.past

/-- Either stays so while the binding is held. -/
theorem Frees.held (h : Frees d p) (hq : p.Holds d q) : Frees d q :=
  h.imp hq.binding.trans (hq.past.preserves .later)

/-- A table of bindings that was not cleared leaves the binding of any interface in place. -/
theorem undeleted_of_shows (h : p.Shows (Entry.isUncleared .upstream6) q)
    (hsilent : p.Writes (Entry.isSilentAbout d) q) : Undeleted d q.past :=
  h.preserves hsilent (fun past he => .uncleared he past) .later

end Platform

/-! ## Requests -/

namespace Backend

open Platform

variable {p q : Platform} {d : IfIndex}

/-- A rule that is installed, or not, holds all bindings. -/
theorem holds_addRule {r : Rule} {res : Except Failure Unit}
    (h : p.perform (tables.addRule r) = (res, q)) : p.Holds d q := by
  rcases addRule_cases h with ⟨-, hs, -⟩ | ⟨-, hs⟩ <;> exact hs.holds rfl rfl

/-- So does one that is removed. -/
theorem holds_removeRule {r : Rule} {res : Except Failure Unit}
    (h : p.perform (tables.removeRule r) = (res, q)) : p.Holds d q := by
  rcases removeRule_cases h with ⟨-, hs, -⟩ | ⟨-, hs⟩ <;> exact hs.holds rfl rfl

/-- So does a limit. -/
theorem holds_setQuota {i : IfIndex} {quota : Quota} {isFirst : Bool} {res : Except Failure Unit}
    (h : p.perform (tables.setQuota i quota isFirst) = (res, q)) : p.Holds d q := by
  have hopen : (p.stores.openCounters .tables i).kernel.upstream6 = p.kernel.upstream6 := by
    unfold Stores.openCounters
    dsimp only
    split <;> rfl
  have hread : (closings d).pick (.call (.request (.setQuota i quota isFirst)) none) = none := rfl
  rcases setQuota_cases h with ⟨-, hs, -⟩ | ⟨⟨-, hs, -⟩, -⟩ | ⟨-, hs, -⟩ | ⟨-, -, hs⟩
  · exact hs.holds hread rfl
  · exact hs.holds hread (by rw [hopen])
  · exact hs.holds hread rfl
  · refine hs.holds hread ?_
    cases isFirst with
    | false => rfl
    | true => exact congrArg (·[d]?) hopen

/-- So does a final reading. -/
theorem holds_readAndClear {i : IfIndex} {res : Except Failure InterfaceTraffic}
    (h : p.perform (tables.readAndClear i) = (res, q)) : p.Holds d q := by
  rcases readAndClear_cases h with ⟨-, hs, -⟩ | ⟨-, hs, -⟩ | ⟨-, -, hs | ⟨hs, -⟩⟩ <;>
    exact hs.holds rfl rfl

/-- An interface that is bound holds the bindings of all others. -/
theorem holds_startForwarding {i u : IfIndex} {res : Except Failure Unit} (hother : i ≠ d)
    (h : p.perform (tables.startForwarding i u) = (res, q)) : p.Holds d q := by
  rcases startForwarding_cases h with ⟨-, hs, -⟩ | ⟨-, -, -, m, a, hs, rfl⟩ | ⟨-, -, hs⟩
  · exact hs.holds rfl rfl
  · have hserved : p.Holds d m := hs.holds rfl rfl
    exact hserved.trans (holds_push d m rfl)
  · refine hs.holds rfl ?_
    show (p.kernel.upstream6.insert i _)[d]? = _
    rw [ExtTreeMap.getElem?_insert, if_neg (mt Std.compare_eq_iff_eq.mp hother)]

/-- So does one that is unbound. -/
theorem holds_stopForwarding {i u : IfIndex} {res : Except Failure Unit} (hother : i ≠ d)
    (h : p.perform (tables.stopForwarding i u) = (res, q)) : p.Holds d q := by
  have hread : (closings d).pick (.call (.request (.stopForwarding i u)) none) = none :=
    if_neg hother
  rcases stopForwarding_cases h with ⟨-, hs, -⟩ | ⟨-, hs⟩
  · exact hs.holds hread rfl
  · refine hs.holds hread ?_
    show (p.kernel.upstream6.erase i)[d]? = _
    rw [ExtTreeMap.getElem?_erase, if_neg (mt Std.compare_eq_iff_eq.mp hother)]

/-- After the binding of an interface was to be deleted it is gone, or the journal shows that it
could not be deleted. -/
theorem frees_stopForwarding {u : IfIndex} {res : Except Failure Unit}
    (h : p.perform (tables.stopForwarding d u) = (res, q)) : q.Frees d := by
  have hserve : (p.announce (.request (.stopForwarding d u))).perform
      (TableBackend.stopForwarding d u) = (res, q) := h
  rw [TableBackend.stopForwarding] at hserve
  rcases perform_within_bind_cases hserve with ⟨found, k, hdelete, hrest⟩ | ⟨e, hdelete, -⟩ <;>
    rcases Slot.delete_told hdelete with ⟨reason, e', hres, rfl⟩ | ⟨m, found', -, hres, rfl⟩
  · cases hres
  · obtain ⟨-, hl⟩ := perform_remark_cases rfl hrest
    refine .inl ?_
    show q.stores.kernel.upstream6[d]? = none
    rw [hl.stores]
    exact ExtTreeMap.getElem?_erase_self
  · exact .inr (.refused u reason p.past)
  · cases hres

/-- An interface is bound to an upstream unless it is bound already, or the journal shows that an
access was refused. -/
theorem bound_startForwarding {u : IfIndex} {res : Except Failure Unit}
    (h : p.perform (tables.startForwarding d u) = (res, q)) :
    p.Shows Entry.isRefusedAccess q ∨
      q.kernel.upstream6[d]? = some (p.kernel.upstream6[d]?.getD (.binding u)) := by
  let asked := p.announce (.request (.startForwarding d u))
  have hserve : asked.perform (TableBackend.startForwarding d u) = (res, q) := h
  obtain ⟨res', hinsert, -⟩ := perform_within_cases hserve
  rcases Slot.insert_told hinsert with ⟨reason, e, -, rfl⟩ | ⟨hkey, hkernel⟩ |
    ⟨m, hfree, hkernel, -, -, rfl⟩
  · refine .inl (Shows.mono (shows_push asked ?_) (List.suffix_cons ..) List.suffix_rfl)
    rfl
  · obtain ⟨target, hget⟩ := Option.isSome_iff_exists.mp
      (ExtTreeMap.mem_iff_isSome_getElem?.mp hkey)
    have hfound : p.kernel.upstream6[d]? = some target := hget
    rw [hkernel, hfound]
    exact .inr hget
  · have hnone : p.kernel.upstream6[d]? = none := ExtTreeMap.getElem?_eq_none hfree
    rw [hnone]
    exact .inr ExtTreeMap.getElem?_insert_self

end Backend

/-! ## Every history -/

namespace Controller

open Platform

variable {c c' : Controller} {d : IfIndex}

/-- An interface without rules is not bound, or the journal shows that its binding could not be
deleted. -/
def Vacated (c : Controller) : Prop :=
  ∀ d, c.registry.rulesOn d = 0 → c.platform.Frees d

/-- This stays so where the bindings of interfaces without rules are held and no interface loses its
last rule. -/
theorem Vacated.held (h : Vacated c)
    (hrules : ∀ d, c'.registry.rulesOn d = 0 → c.registry.rulesOn d = 0)
    (hp : ∀ d, c'.registry.rulesOn d = 0 → c.platform.Holds d c'.platform) : Vacated c' :=
  fun d hd => (h d (hrules d hd)).held (hp d hd)

/-- Another rule on an upstream holds all bindings. -/
theorem exists_acquire_holds (u : IfIndex) (c : Controller) :
    ∃ p, c.acquire .tables u = { c with upstreams := c.upstreams.acquire u, platform := p } ∧
      ∀ d, c.platform.Holds d p := by
  unfold acquire
  dsimp only
  split
  · exact exists_attempt { c with upstreams := c.upstreams.acquire u } _
      (.quotaNotInitialized u) (fun hset _ => Backend.holds_setQuota hset)
      fun _ hq d => (hq d).trans (holds_push d _ rfl)
  · exact ⟨c.platform, rfl, fun d => .refl d _⟩

/-- So does one less. -/
theorem exists_release_holds (u : IfIndex) (c : Controller) :
    ∃ t p, c.release .tables u = { c with upstreams := t, platform := p } ∧
      ∀ d, c.platform.Holds d p := by
  obtain ⟨p, hcount, hp⟩ : ∃ p, c.countDown u = { c with
      upstreams := c.upstreams.release u, platform := p } ∧ ∀ d, c.platform.Holds d p :=
    exists_countDown u c (fun d => .refl d _) fun d => holds_push d _ rfl
  unfold release
  simp only [hcount]
  split
  · rcases hread : p.perform (Backend.tables.readAndClear u) with ⟨f | last, q⟩ <;>
      simp only [perform, hread]
    · exact ⟨_, _, rfl, fun d => (hp d).trans
        ((Backend.holds_readAndClear hread).trans (holds_push d q rfl))⟩
    · exact ⟨_, _, rfl, fun d => (hp d).trans (Backend.holds_readAndClear hread)⟩
  · exact ⟨_, _, rfl, hp⟩

/-- A rule that is added binds no interface but its own. The first rule of that binds it unless it
is bound already, or the journal shows that an access was refused. -/
theorem install_told (d : DownstreamId) (rule : Rule) (c : Controller) :
    let x := c.install .tables d rule
    (x.1 = false ∧ x.2.registry = c.registry ∧ ∀ i, c.platform.Holds i x.2.platform) ∨
    x.1 = true ∧ x.2.registry = c.registry.push d rule ∧
      (∀ i, rule.downstream ≠ i → c.platform.Holds i x.2.platform) ∧
      (c.registry.rulesOn rule.downstream = 0 →
        c.platform.Shows Entry.isRefusedAccess x.2.platform ∨
        x.2.platform.kernel.upstream6[rule.downstream]? =
          some (c.platform.kernel.upstream6[rule.downstream]?.getD (.binding rule.upstream))) := by
  dsimp only
  cases hfind : c.registry.find? d rule.neighbor with
  | some old =>
    rw [install_of_some (by rw [hfind]; rfl)]
    exact .inl ⟨rfl, rfl, fun i => holds_push i _ rfl⟩
  | none =>
    rcases hadd : c.platform.perform (Backend.tables.addRule rule) with ⟨f | ⟨⟩, p⟩
    · rw [install_of_error hfind hadd]
      exact .inl ⟨rfl, rfl, fun i => (Backend.holds_addRule hadd).trans (holds_push i p rfl)⟩
    · -- Until the interface is to be bound its binding is as it was.
      obtain ⟨q, hacquire, hq⟩ := exists_acquire_holds rule.upstream (c.added d rule p)
      have hacquired : ∀ i, c.platform.Holds i q := fun i =>
        ((Backend.holds_addRule hadd).trans (holds_push i p rfl)).trans (hq i)
      let counted := { c.added d rule p with
        upstreams := (c.added d rule p).upstreams.acquire rule.upstream, platform := q }
      obtain ⟨r, hbind, hothers, hown⟩ : ∃ r, counted.attempt
          (Backend.tables.startForwarding rule.downstream rule.upstream)
          (.bindingNotStarted rule.downstream rule.upstream) = { counted with platform := r } ∧
            (∀ i, rule.downstream ≠ i → q.Holds i r) ∧
            (q.Shows Entry.isRefusedAccess r ∨ r.kernel.upstream6[rule.downstream]? =
              some (q.kernel.upstream6[rule.downstream]?.getD (.binding rule.upstream))) :=
        exists_attempt counted _ _
          (fun h => ⟨fun i hi => Backend.holds_startForwarding hi h,
            Backend.bound_startForwarding h⟩)
          fun _ hr => ⟨fun i hi => (hr.1 i hi).trans (holds_push i _ rfl),
            hr.2.imp_left (·.mono List.suffix_rfl (List.suffix_cons ..))⟩
      rw [install_of_ok hfind hadd, hacquire]
      refine .inr ⟨rfl, ?_⟩
      dsimp only
      split
      · rw [hbind]
        refine ⟨rfl, fun i hi => (hacquired i).trans (hothers i hi), fun _ => hown.imp
          (·.mono (hacquired rule.downstream).past.past_suffix List.suffix_rfl) fun hbound => ?_⟩
        rw [← (hacquired rule.downstream).binding]
        exact hbound
      · rename_i hmore
        exact ⟨rfl, fun i _ => hacquired i, fun hnone => absurd hnone hmore⟩

/-- A rule that is added leaves the interfaces without rules as they are. -/
theorem Vacated.install (h : Vacated c) (d : DownstreamId) (rule : Rule) :
    Vacated (c.install .tables d rule).2 := by
  rcases install_told d rule c with ⟨-, hregistry, hp⟩ | ⟨-, hregistry, hp, -⟩
  · exact h.held (fun i hi => by rwa [hregistry] at hi) fun i _ => hp i
  · -- What has no rule now had none before, and it is not the interface of the rule.
    have hless : ∀ i, (c.install .tables d rule).2.registry.rulesOn i = 0 →
        c.registry.rulesOn i = 0 ∧ rule.downstream ≠ i := by
      intro i hi
      rw [hregistry, Registry.rulesOn_push] at hi
      split at hi
      · omega
      · exact ⟨hi, ‹_›⟩
    exact h.held (fun i hi => (hless i hi).1) fun i hi => hp i (hless i hi).2

/-- An interface that loses its last rule is unbound, or the journal shows that its binding could
not be deleted. -/
theorem Vacated.uninstall (h : Vacated c) (d : DownstreamId) (n : Ipv6) :
    Vacated (c.uninstall .tables d n).2 := by
  cases hfind : c.registry.find? d n with
  | none =>
    rw [uninstall_of_none hfind]
    exact h.held (fun _ => id) fun i _ => holds_push i _ (by split <;> rfl)
  | some rule =>
    rcases hremove : c.platform.perform (Backend.tables.removeRule rule) with ⟨f | ⟨⟩, p⟩
    · rw [uninstall_of_error hfind hremove]
      exact h.held (fun _ => id) fun i _ =>
        (Backend.holds_removeRule hremove).trans (holds_push i p rfl)
    · have hremoved : ∀ i, c.platform.Holds i (c.removed d n rule p).platform := fun i =>
        (Backend.holds_removeRule hremove).trans (holds_push i p rfl)
      -- Other interfaces have as many rules as before.
      have hothers : ∀ i, rule.downstream ≠ i → (c.registry.erase d n).rulesOn i = 0 →
          c.registry.rulesOn i = 0 := by
        intro i hi hzero
        rw [c.registry.rulesOn_erase hfind, if_neg hi, hzero]
      have hunbound : ∃ q, (if (c.registry.erase d n).rulesOn rule.downstream = 0
          then (c.removed d n rule p).attempt
            (Backend.tables.stopForwarding rule.downstream rule.upstream)
            (.bindingNotStopped rule.downstream rule.upstream)
          else c.removed d n rule p) = { c.removed d n rule p with platform := q } ∧
          ∀ i, (c.registry.erase d n).rulesOn i = 0 → q.Frees i := by
        split
        · refine exists_attempt _ _ _ (fun hunbind i hi => ?_) fun _ hq i hi =>
            (hq i hi).held (holds_push i _ rfl)
          by_cases hown : rule.downstream = i
          · subst hown
            exact Backend.frees_stopForwarding hunbind
          · exact ((h i (hothers i hown hi)).held (hremoved i)).held
              (Backend.holds_stopForwarding hown hunbind)
        · rename_i hmore
          refine ⟨_, rfl, fun i hi => ?_⟩
          have hown : rule.downstream ≠ i := by
            rintro rfl
            exact hmore hi
          exact (h i (hothers i hown hi)).held (hremoved i)
      obtain ⟨q, hunbind, hq⟩ := hunbound
      obtain ⟨t, r, hrelease, hr⟩ := exists_release_holds rule.upstream
        { c.removed d n rule p with platform := q }
      rw [uninstall_of_ok hfind hremove, hunbind, hrelease]
      exact fun i hi => (hq i hi).held (hr i)

/-- A limit that is applied binds no interface. -/
theorem Vacated.applyLimit (h : Vacated c) (i : IfIndex) (q : Quota) :
    Vacated (c.applyLimit .tables i q) := by
  obtain ⟨p, happly, hp⟩ := exists_applyLimit (R := fun p => ∀ d, c.platform.Holds d p) .tables i q
    c (fun _ d => ⟨rfl, writes_push _ rfl⟩) (fun _ _ _ hset d => Backend.holds_setQuota hset)
    fun _ hp d => (hp d).trans (holds_push d _ rfl)
  rw [happly]
  exact h.held (fun _ => id) fun d _ => hp d

/-- Nor does what is calm. -/
theorem Vacated.calm (h : Vacated c) (hcalm : Calm c c') : Vacated c' :=
  h.held (fun d hd => by rwa [hcalm.registry] at hd)
    fun d _ => holds_of_unread d hcalm.stores hcalm.platform

/-- Nor does what is still. -/
theorem Vacated.still (h : Vacated c) (hstill : Still c c') : Vacated c' := by
  have hidle := hstill.idle
  refine h.held (fun d hd => by rwa [hidle.registry] at hd) fun d _ =>
    ⟨?_, hstill.writes_nil (closings d) fun _ _ => rfl⟩
  show c'.platform.stores.kernel.upstream6[d]? = _
  rw [hidle.platform.stores]
  rfl

/-- In every step interfaces without rules stay as they are, and those that lose their last rule are
unbound if that is not refused. -/
theorem Vacated.step {names : IfIndex → String → Prop} (h : Vacated c)
    (hstep : Step .tables names c c') : Vacated c' := by
  cases hstep with
  | chore hchore =>
    cases hchore with
    | install d rule => exact h.install d rule
    | uninstall d n => exact h.uninstall d n
    | forget d hnone =>
      have hcount : ∀ i, (c.registry.forget d).rulesOn i = c.registry.rulesOn i := fun i =>
        c.registry.countP_live_forget hnone _
      exact h.held (fun i hi => by rwa [← hcount i]) fun i _ => .refl i _
    | poll => exact h.calm (calm_poll .tables c)
    | publish => exact h.calm (calm_publish c)
    | still hstill => exact h.still hstill
  | nameUpstream i name =>
    obtain ⟨c₁, hcalm, hname | ⟨q, hname⟩⟩ := nameUpstream_calm_cases .tables i name c <;>
      rw [hname]
    · exact h.calm hcalm
    · exact (h.calm hcalm).applyLimit i q
  | limit iface q =>
    rcases limit_calm_cases .tables iface q c with hcalm | ⟨i, hlimit⟩
    · exact h.calm hcalm
    · rw [hlimit]
      exact h.applyLimit i q

/-- At any time an interface without rules is not bound, or its binding could not be deleted. -/
theorem vacated_of_reachable {p : Platform} (h : Reachable .tables p c) : Vacated c := by
  refine h.preserves_steps (fun {q _ ms attacher} hblank _ _ d _ => ?_)
    (fun hstep hc => hc.step hstep) fun {c} i more hc d hd => ?_
  · obtain ⟨cleared, hstores, hshown⟩ := hblank.stores
    rcases hshown rfl .upstream6 with hcleared | hleft
    · have hempty : q.stores.kernel.upstream6 = ∅ := by
        show (idle q (some .tables) ms attacher).platform.stores.kernel.upstream6 = ∅
        rw [hstores]
        exact if_pos hcleared
      refine .inl ?_
      show q.stores.kernel.upstream6[d]? = none
      rw [hempty]
      exact ExtTreeMap.getElem?_empty
    · exact .inr (undeleted_of_shows hleft (hblank.opening.mono fun he =>
        Entry.isSilentAbout_of_isUnread d (Entry.isUnread_of_isOpening he)))
  · obtain ⟨stats, daemonStats, hcount, -⟩ := c.platform.count_cases .tables i more
    show Frees d (c.platform.count .tables i more)
    rw [hcount]
    exact hc d hd

/-! ## The first rule of an interface -/

/-- Where no access is refused the first rule of an interface binds it to its upstream, except that
a binding that is there already stays as it is. Such a binding could not be deleted before, or it
was there at the start and could not be cleared. -/
theorem first_rule_bound {p : Platform} (h : Reachable .tables p c) {d : DownstreamId} {rule : Rule}
    (hadded : (c.addRule d rule).1 = true)
    (hfirst : ∀ d', ∀ r ∈ c.rulesFor d', r.downstream ≠ rule.downstream)
    (hserved : c.platform.Writes (fun e => !e.isRefusedAccess) (c.addRule d rule).2.platform) :
    let found := c.platform.kernel.upstream6[rule.downstream]?
    (c.addRule d rule).2.platform.kernel.upstream6[rule.downstream]? =
      some (found.getD (.binding rule.upstream)) ∧
    (found ≠ none → Undeleted rule.downstream c.platform.past) := by
  have hinstall : c.addRule d rule = c.install .tables d rule := by
    rw [addRule, h.backend]
  have hrules : c.registry.rulesOn rule.downstream = 0 := c.registry.rulesOn_eq_zero.mpr hfirst
  rw [hinstall] at hadded hserved ⊢
  -- Whatever is found there was left over, and nothing but a refusal keeps the rule from binding.
  refine ⟨?_, (vacated_of_reachable h rule.downstream hrules).resolve_left⟩
  rcases install_told d rule c with ⟨hfailed, -, -⟩ | ⟨-, -, -, hown⟩
  · cases hfailed.symm.trans hadded
  · exact (hown hrules).resolve_left fun hshown => hshown.not_writes hserved

/-- A rule that is added takes nothing out of the journal. -/
theorem past_suffix_addRule (d : DownstreamId) (rule : Rule) (c : Controller) :
    c.platform.past <:+ (c.addRule d rule).2.platform.past := by
  unfold addRule
  split
  · rename_i b _
    have hstep : Step b (fun _ _ => True) c (c.install b d rule).2 := .chore (.install c d rule)
    exact hstep.past_suffix
  · exact List.suffix_rfl

/-- A controller that has added and removed a rule, on a platform that fails the first of certain
calls. -/
def tornDown (broken : Call → Bool) : Controller :=
  (start .default (.tables fun _ => true) true (.failing (failsFirst broken) .sorted)).runAll [
    .event (.addRule "wlan0" (sharedRule 10)), .event (.removeRule "wlan0" (sharedRule 10))]

theorem reachable_tornDown (broken : Call → Bool) :
    Reachable .tables (.failing (failsFirst broken) .sorted) (tornDown broken) :=
  ⟨_, _, ⟨_, _, _, backend_start .., rfl⟩, (undergoAll_operations ..).symm⟩

/-- The next rule of the interface, on another upstream. -/
def nextRule : Rule :=
  { sharedRule 10 with upstream := 101 }

/-- The call deletes the binding of an interface. -/
def isBindingDelete : Call → Bool
  | .table .upstream6 (.delete _) => true
  | _ => false

/-- After a failure that has nothing to do with the binding the next rule binds the interface to its
upstream. After a deletion that was refused the interface stays bound to the upstream of before. -/
theorem first_rule_bound_tornDown :
    (Reachable .tables (.failing (failsFirst isLimitUpdate) .sorted) (tornDown isLimitUpdate) ∧
      ((tornDown isLimitUpdate).addRule "wlan0" nextRule).2.platform.kernel.upstream6[
        (10 : IfIndex)]? = some (.binding 101)) ∧
    Reachable .tables (.failing (failsFirst isBindingDelete) .sorted) (tornDown isBindingDelete) ∧
      ((tornDown isBindingDelete).addRule "wlan0" nextRule).2.platform.kernel.upstream6[
        (10 : IfIndex)]? = some (.binding 100) ∧
      Undeleted 10 (tornDown isBindingDelete).platform.past := by
  have hlimit : (tornDown isLimitUpdate).platform.kernel.upstream6[(10 : IfIndex)]? = none := by
    decide +kernel
  have hdelete : (tornDown isBindingDelete).platform.kernel.upstream6[(10 : IfIndex)]? =
      some (.binding 100) := by
    decide +kernel
  obtain ⟨hbound, -⟩ := first_rule_bound (reachable_tornDown isLimitUpdate)
    (show ((tornDown isLimitUpdate).addRule "wlan0" nextRule).1 = true by decide +kernel)
    ((tornDown isLimitUpdate).registry.rulesOn_eq_zero.mp (by decide +kernel))
    (writes_of_suffix (past_suffix_addRule ..) (by decide +kernel))
  obtain ⟨hstale, hleft⟩ := first_rule_bound (reachable_tornDown isBindingDelete)
    (show ((tornDown isBindingDelete).addRule "wlan0" nextRule).1 = true by decide +kernel)
    ((tornDown isBindingDelete).registry.rulesOn_eq_zero.mp (by decide +kernel))
    (writes_of_suffix (past_suffix_addRule ..) (by decide +kernel))
  refine ⟨⟨reachable_tornDown _, hbound.trans ?_⟩, reachable_tornDown _, hstale.trans ?_, hleft ?_⟩
  · exact congrArg (fun found : Option Target => some (found.getD (.binding 101))) hlimit
  · exact congrArg (fun found : Option Target => some (found.getD (.binding 101))) hdelete
  · intro hnone
    cases hdelete.symm.trans hnone

/-- So the first rule of an interface can be added, while no access is refused, and the kernel still
sends the traffic of the interface to another upstream. -/
theorem first_rule_not_bound :
    Reachable .tables (.failing (failsFirst isBindingDelete) .sorted) (tornDown isBindingDelete) ∧
      ((tornDown isBindingDelete).addRule "wlan0" nextRule).1 = true ∧
      (∀ d, ∀ r ∈ (tornDown isBindingDelete).rulesFor d, r.downstream ≠ nextRule.downstream) ∧
      (tornDown isBindingDelete).platform.Writes (fun e => !e.isRefusedAccess)
        ((tornDown isBindingDelete).addRule "wlan0" nextRule).2.platform ∧
      ∀ target, ((tornDown isBindingDelete).addRule "wlan0" nextRule).2.platform.kernel.upstream6[
        nextRule.downstream]? = some target → target.ifIndex ≠ nextRule.upstream := by
  have hstale : ((tornDown isBindingDelete).addRule "wlan0" nextRule).2.platform.kernel.upstream6[
      nextRule.downstream]? = some (.binding 100) := by
    decide +kernel
  refine ⟨reachable_tornDown isBindingDelete, by decide +kernel,
    (tornDown isBindingDelete).registry.rulesOn_eq_zero.mp (by decide +kernel),
    (writes_of_suffix (past_suffix_addRule ..) (by decide +kernel)), fun target htarget => ?_⟩
  obtain rfl := Option.some.inj (hstale.symm.trans htarget)
  decide

end Controller

end FastPath
