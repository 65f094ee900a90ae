import FastPath.Proofs.History

/-!
# Limits of names and limits of upstreams

A caller sets a limit by name, while an upstream has its limit under its index. Of all that happens
only two things bear on limits, the `Directive`s: a limit that is accepted for a name, and a name
that is given to an upstream. The functions after it read off the directives so far, the latest
first, what becomes of limits. A limit is granted to the lowest index that has the name. While there
is none it waits, and the next index that gets the name has it granted. Once granted it stays with
the index, even if the name moves on.

`quota_eq_granted` shows that this is what a controller does, whatever is asked besides and whatever
fails. Where a name and an index belong to each other only, the limit follows the name.
-/

namespace FastPath

open Std

/-- Something that bears on limits. -/
inductive Directive
  /-- A limit is accepted for a name. -/
  | limit (iface : String) (q : Quota)
  /-- An upstream is given a name. -/
  | name (i : IfIndex) (name : String)
deriving DecidableEq

namespace Directive

/-- The directive of a limit that is asked for. A limit that is not acceptable is refused. -/
def ofLimit? (iface : String) (q : Quota) : Option Directive :=
  if q.Acceptable then some (.limit iface q) else none

/-- The directive of a name that is told. An index or a name that stands for none is ignored. -/
def ofName? (i : IfIndex) (name : String) : Option Directive :=
  if i = 0 ∨ name.isEmpty then none else some (.name i name)

/-- The upstream that is given a name. -/
def index? : Directive → Option IfIndex
  | limit .. => none
  | name i _ => some i

end Directive

/-- What an operation has to do with limits. -/
def Operation.directive? : Operation → Option Directive
  | .event (.setLimit iface q) => Directive.ofLimit? iface q
  | .event (.upstreamName i name) => Directive.ofName? i name
  | .event (.upstreamChanged _ (some info)) => Directive.ofName? info.ifIndex info.name
  | _ => none

/-- Traffic has nothing to do with limits. -/
def Happening.directive? : Happening → Option Directive
  | .operation op => op.directive?
  | .traffic .. => none

/-- The directives of a history, the latest first. Configured limits come before all others. -/
def directives (config : Config) (hs : List Happening) : List Directive :=
  (config.dataLimits.toList.filterMap (fun l => Directive.ofLimit? l.1 l.2) ++
    hs.filterMap Happening.directive?).reverse

/-- The name that an upstream has by now. -/
def nameIn : List Directive → IfIndex → Option String
  | [], _ => none
  | .name j n :: past, i => if j = i then some n else nameIn past i
  | .limit .. :: past, i => nameIn past i

/-- The lowest upstream that has a name by now. -/
def bearer (past : List Directive) (n : String) : Option IfIndex :=
  ((past.filterMap Directive.index?).filter fun i => nameIn past i = some n).min?

/-- The limit that waits for an upstream with a name. A later limit replaces it, and an upstream
that newly gets the name takes it away. -/
def waiting : List Directive → String → Option Quota
  | [], _ => none
  | .limit m q :: past, n => if m = n ∧ bearer past n = none then some q else waiting past n
  | .name i m :: past, n => if m = n ∧ nameIn past i ≠ some n then none else waiting past n

/-- The limit that was granted to an upstream last. -/
def granted : List Directive → IfIndex → Option Quota
  | [], _ => none
  | .limit m q :: past, i => if bearer past m = some i then some q else granted past i
  | .name j m :: past, i =>
    if j = i ∧ nameIn past i ≠ some m then (waiting past m).or (granted past i)
    else granted past i

/-- The limit that was accepted for a name last. -/
def lastLimit : List Directive → String → Option Quota
  | [], _ => none
  | .limit m q :: past, n => if m = n then some q else lastLimit past n
  | .name .. :: past, n => lastLimit past n

/-! ## Names that tell upstreams apart -/

section

variable {past : List Directive} {i : IfIndex} {n : String}

/-- A name that an upstream has was given to it. -/
theorem mem_of_nameIn (h : nameIn past i = some n) : .name i n ∈ past := by
  fun_induction nameIn past i with
  | case1 => cases h
  | case2 j m past =>
    rw [Option.some.inj h]
    exact List.mem_cons_self
  | case3 i j m past hij ih => exact List.mem_cons_of_mem _ (ih h)
  | case4 past i m q ih => exact List.mem_cons_of_mem _ (ih h)

/-- The bearer of a name is the first upstream that has it. -/
theorem bearer_eq_some_iff :
    bearer past n = some i ↔ nameIn past i = some n ∧ ∀ j, nameIn past j = some n → i ≤ j := by
  have hmem : ∀ j, j ∈ (past.filterMap Directive.index?).filter (fun i => nameIn past i = some n) ↔
      nameIn past j = some n := by
    intro j
    rw [List.mem_filter, decide_eq_true_iff, and_iff_right_iff_imp]
    exact fun hj => List.mem_filterMap.mpr ⟨.name j n, mem_of_nameIn hj, rfl⟩
  rw [bearer, List.min?_eq_some_iff, hmem]
  exact and_congr_right fun _ => forall_congr' fun j => by rw [hmem]

/-- Where a name and an upstream belong to each other, the upstream is the bearer once it has the
name. -/
theorem bearer_of_only (honly : ∀ j m, .name j m ∈ past → (j = i ↔ m = n)) :
    bearer past n = if nameIn past i = some n then some i else none := by
  have hbearer : ∀ {j}, nameIn past j = some n → j = i := fun hj =>
    (honly _ _ (mem_of_nameIn hj)).mpr rfl
  split
  · rename_i hi
    exact bearer_eq_some_iff.mpr ⟨hi, fun j hj => by rw [hbearer hj]; exact UInt32.le_refl i⟩
  · rename_i hi
    rw [Option.eq_none_iff_forall_ne_some]
    intro j hj
    have hname := (bearer_eq_some_iff.mp hj).1
    exact hi (hbearer hname ▸ hname)

/-- A new name of an upstream uses up the limit that waits for the name. -/
theorem waiting_newName (hname : nameIn past i ≠ some n) (m : String) :
    waiting (.name i n :: past) m = if n = m then none else waiting past m := by
  rw [waiting]
  by_cases hm : n = m
  · subst hm
    rw [if_pos ⟨rfl, hname⟩, if_pos rfl]
  · rw [if_neg fun h => hm h.1, if_neg hm]

/-- A new name of an upstream grants it the limit that waits for the name. -/
theorem granted_newName (hname : nameIn past i ≠ some n) (j : IfIndex) :
    granted (.name i n :: past) j =
      if i = j then (waiting past n).or (granted past j) else granted past j := by
  rw [granted]
  by_cases hj : i = j
  · subst hj
    rw [if_pos ⟨rfl, hname⟩, if_pos rfl]
  · rw [if_neg fun h => hj h.1, if_neg hj]

/-- Where a name and an upstream belong to each other, the last limit of the name is granted to the
upstream, or it still waits for it. -/
theorem granted_of_only (honly : ∀ j m, .name j m ∈ past → (j = i ↔ m = n)) :
    if nameIn past i = some n then granted past i = lastLimit past n
    else granted past i = none ∧ waiting past n = lastLimit past n := by
  induction past with
  | nil => exact ⟨rfl, rfl⟩
  | cons d past ih =>
    have hrest : ∀ j m, .name j m ∈ past → (j = i ↔ m = n) := fun j m h =>
      honly j m (List.mem_cons_of_mem _ h)
    have hn := bearer_of_only hrest
    have ih := ih hrest
    cases d with
    | limit m q =>
      simp only [nameIn, granted, waiting, lastLimit]
      by_cases hm : m = n
      · -- The limit is granted or waits, as the upstream has the name or not.
        subst hm
        rw [hn]
        split <;> rename_i hi
        · simp
        · rw [if_neg hi] at ih
          simpa [hi] using ih.1
      · have hi : bearer past m ≠ some i := fun h =>
          hm ((hrest _ _ (mem_of_nameIn (bearer_eq_some_iff.mp h).1)).mp rfl)
        simpa only [hi, hm, if_false, false_and] using ih
    | name j m =>
      simp only [nameIn, granted, waiting, lastLimit]
      have hjm := honly j m List.mem_cons_self
      by_cases hj : j = i
      · -- The upstream gets the name, unless it has it already.
        obtain rfl := hjm.mp hj
        subst hj
        by_cases hi : nameIn past j = some m
        · simpa only [hi, if_true, ne_eq, not_true_eq_false, and_false, if_false] using ih
        · rw [if_neg hi] at ih
          simp [hi, ih.1, ih.2]
      · simpa only [hj, mt hjm.mpr hj, if_false, false_and] using ih

end

namespace Controller

variable {b : Backend} {c c' : Controller} {past : List Directive}

/-! ## What keeps limits -/

/-- From `c` to `c'` names and limits stay as they are, and so do the limits that wait. -/
structure KeepsLimits (c c' : Controller) : Prop where
  pending : c'.pendingLimits = c.pendingLimits
  name : ∀ i, (c'.upstreams.account i).name = (c.upstreams.account i).name
  quota : ∀ i, c'.upstreams.quota i = c.upstreams.quota i

theorem KeepsLimits.refl (c : Controller) : KeepsLimits c c :=
  ⟨rfl, fun _ => rfl, fun _ => rfl⟩

theorem KeepsLimits.trans {c'' : Controller} (h : KeepsLimits c c') (h' : KeepsLimits c' c'') :
    KeepsLimits c c'' where
  pending := h'.pending.trans h.pending
  name i := (h'.name i).trans (h.name i)
  quota i := (h'.quota i).trans (h.quota i)

/-- Names and limits are kept by what leaves upstreams alone. -/
theorem KeepsLimits.of_eq (hpending : c'.pendingLimits = c.pendingLimits)
    (hupstreams : c'.upstreams = c.upstreams) : KeepsLimits c c' :=
  ⟨hpending, fun i => by rw [hupstreams], fun i => by rw [hupstreams]⟩

/-- An idle controller keeps limits. -/
theorem KeepsLimits.of_idle (h : Idle c c') : KeepsLimits c c' :=
  ⟨h.pendingLimits, fun i => by rw [h.account], h.quota⟩

/-- A rule that is added keeps limits. -/
theorem keepsLimits_install (d : DownstreamId) (rule : Rule) (c : Controller) :
    KeepsLimits c (c.install b d rule).2 := by
  rcases install_cases b d rule c with ⟨p, h, -⟩ | ⟨-, p, q, -, -, h⟩ <;> rw [h]
  · exact .of_eq rfl rfl
  · refine ⟨rfl, fun i => ?_, c.upstreams.quota_acquire _⟩
    obtain ⟨count, haccount⟩ := c.upstreams.exists_account_acquire rule.upstream i
    rw [haccount]

/-- One rule less keeps limits. -/
theorem keepsLimits_release (u : IfIndex) (c : Controller) : KeepsLimits c (c.release b u) := by
  have hname : ∀ i, ((c.upstreams.release u).account i).name = (c.upstreams.account i).name := by
    intro i
    obtain ⟨count, haccount⟩ := c.upstreams.exists_account_release u i
    rw [haccount]
  obtain ⟨p, -, h | ⟨-, q, -, h⟩⟩ := release_cases b u c <;> rw [h]
  · exact ⟨rfl, hname, c.upstreams.quota_release u⟩
  · refine ⟨rfl, fun i => ?_, fun i => ?_⟩
    · rw [← hname, UpstreamTable.account_foldFinal]
      split
      · rename_i hu
        rw [← hu]
        rfl
      · rfl
    · rw [UpstreamTable.quota_foldFinal, UpstreamTable.quota_release]

/-- A rule that is removed keeps limits. -/
theorem keepsLimits_uninstall (d : DownstreamId) (n : Ipv6) (c : Controller) :
    KeepsLimits c (c.uninstall b d n).2 := by
  rcases uninstall_cases b d n c with ⟨p, h, -⟩ | ⟨rule, -, p, q, -, -, h⟩ <;> rw [h]
  · exact .of_eq rfl rfl
  · refine .trans ?_ (keepsLimits_release rule.upstream _)
    exact .of_eq rfl rfl

/-- A chore keeps limits. -/
theorem Chore.keepsLimits (h : Chore b c c') : KeepsLimits c c' := by
  cases h with
  | install d rule => exact keepsLimits_install d rule c
  | uninstall d n => exact keepsLimits_uninstall d n c
  | forget => exact .of_eq rfl rfl
  | poll =>
    rcases poll_cases b c with h | ⟨p, -, h⟩
    · exact .of_idle h
    · refine .trans ?_ (.of_idle h)
      refine ⟨rfl, fun i => ?_, fun i => c.upstreams.quota_foldl_recordReading i _⟩
      obtain ⟨last, haccount⟩ := c.upstreams.exists_account_foldl_recordReading i
        (c.platform.stores.readings b)
      rw [haccount]
  | publish =>
    obtain ⟨p, h, -⟩ := publish_cases c
    rw [h]
    refine ⟨rfl, fun i => ?_, c.upstreams.quota_settle⟩
    rw [UpstreamTable.account_settle]
    split <;> rfl
  | still h => exact .of_idle h.idle

/-- Any number of chores keep limits. -/
theorem Chores.keepsLimits (h : Chores b c c') : KeepsLimits c c' := by
  induction h with
  | refl => exact .refl c
  | tail _ h ih => exact ih.trans h.keepsLimits

/-! ## What directives do -/

/-- Names and limits are as the directives so far have it. -/
structure Limited (past : List Directive) (c : Controller) : Prop where
  name : ∀ i, (c.upstreams.account i).name = nameIn past i
  pending : ∀ n, c.pendingLimits[n]? = waiting past n
  quota : ∀ i, c.upstreams.quota i = (granted past i).getD .unlimited

/-- What keeps limits leaves them as the directives have it. -/
theorem Limited.keep (h : Limited past c) (hkeep : KeepsLimits c c') : Limited past c' where
  name i := by rw [hkeep.name, h.name]
  pending n := by rw [hkeep.pending, h.pending]
  quota i := by rw [hkeep.quota, h.quota]

/-- The upstream that is found by a name is the bearer of the name. -/
theorem Limited.findByName (h : Limited past c) (n : String) :
    c.upstreams.findByName n = bearer past n := by
  have hname : ∀ i, c.upstreams.nameOf i = nameIn past i := fun i => by
    rw [UpstreamTable.nameOf_eq, h.name]
  ext i
  rw [UpstreamTable.findByName_eq_some_iff, bearer_eq_some_iff, hname]
  simp only [hname]

/-- A limit that is applied is remembered, whatever the backend makes of it. -/
theorem applyLimit_eq (b : Backend) (i : IfIndex) (q : Quota) (c : Controller) :
    ∃ p, c.applyLimit b i q = { c with
      upstreams := c.upstreams.modify i fun u => { u with quota := q }
      platform := p } := by
  obtain ⟨p, happly, -⟩ := exists_applyLimit (R := fun _ => True) b i q c (fun _ => trivial)
    (fun _ _ _ _ => trivial) fun _ _ => trivial
  exact ⟨p, happly⟩

/-- A limit for a name with a bearer is granted to the bearer. -/
theorem Limited.grant (h : Limited past c) {iface : String} {i : IfIndex} (q : Quota)
    (hbearer : bearer past iface = some i) :
    Limited (.limit iface q :: past) (c.applyLimit b i q) := by
  obtain ⟨p, happly⟩ := applyLimit_eq b i q c
  rw [happly]
  refine ⟨fun j => ?_, fun n => ?_, fun j => ?_⟩
  · rw [UpstreamTable.account_modify_quota]
    exact h.name j
  · -- Nothing waits for a name that has a bearer.
    have hnone : ¬(iface = n ∧ bearer past n = none) := by
      rintro ⟨rfl, hnone⟩
      rw [hbearer] at hnone
      cases hnone
    rw [waiting, if_neg hnone]
    exact h.pending n
  · rw [UpstreamTable.quota_modify, granted, hbearer]
    by_cases hij : i = j
    · rw [if_pos hij, if_pos (congrArg some hij), Option.getD_some]
    · rw [if_neg hij, if_neg fun heq => hij (Option.some.inj heq), h.quota]

/-- A limit for a name without a bearer waits. -/
theorem Limited.wait (h : Limited past c) {iface : String} (q : Quota)
    (hbearer : bearer past iface = none) :
    Limited (.limit iface q :: past) ({ c with
      pendingLimits := c.pendingLimits.insert iface q }.note (.limitPending iface q)) := by
  refine ⟨h.name, fun n => ?_, fun j => ?_⟩
  · show (c.pendingLimits.insert iface q)[n]? = _
    rw [ExtTreeMap.getElem?_insert, h.pending, waiting]
    by_cases hn : iface = n
    · subst hn
      simp [hbearer]
    · simp [hn]
  · rw [granted, hbearer, if_neg nofun]
    exact h.quota j

/-- A limit that is accepted is granted to the bearer of the name, or waits for one. -/
theorem Limited.limit (h : Limited past c) (iface : String) (q : Quota) :
    Limited ((Directive.ofLimit? iface q).toList ++ past) (c.limit b iface q).2 := by
  unfold Controller.limit Quota.check Directive.ofLimit?
  by_cases hq : q.Acceptable
  · rw [if_pos hq, if_pos hq]
    have hfind := h.findByName iface
    cases hbearer : bearer past iface with
    | some i =>
      rw [hbearer] at hfind
      simp only [hfind]
      exact h.grant q hbearer
    | none =>
      rw [hbearer] at hfind
      simp only [hfind]
      exact h.wait q hbearer
  · rw [if_neg hq, if_neg hq]
    exact h

/-- A name that an upstream has already is not news. -/
theorem Limited.sameName (h : Limited past c) {i : IfIndex} {n : String}
    (hname : nameIn past i = some n) : Limited (.name i n :: past) c where
  name j := by
    rw [h.name, nameIn]
    split
    · rename_i hij
      rw [← hij, hname]
    · rfl
  pending m := by
    have hold : ¬(n = m ∧ nameIn past i ≠ some m) := fun hm => hm.2 (hm.1 ▸ hname)
    rw [h.pending, waiting, if_neg hold]
  quota j := by
    have hold : ¬(i = j ∧ nameIn past j ≠ some n) := fun hj => hj.2 (hj.1 ▸ hname)
    rw [h.quota, granted, if_neg hold]

/-- A new name for an upstream comes with the limit that waits for the name. -/
theorem Limited.newName (h : Limited past c) {i : IfIndex} {n : String}
    (hname : nameIn past i ≠ some n) :
    Limited (.name i n :: past)
      ({ c with upstreams := c.upstreams.setName i n }.resolveLimit b i n) := by
  have hname' : ∀ j, ((c.upstreams.setName i n).account j).name = nameIn (.name i n :: past) j := by
    intro j
    rw [UpstreamTable.account_setName, nameIn]
    split
    · rfl
    · exact h.name j
  have hquota : ∀ j, (granted (.name i n :: past) j).getD .unlimited =
      if i = j then (waiting past n).getD ((c.upstreams.setName i n).quota j)
      else (c.upstreams.setName i n).quota j := by
    intro j
    rw [UpstreamTable.quota_setName, h.quota, granted_newName hname]
    split
    · cases waiting past n <;> rfl
    · rfl
  have hpending : c.pendingLimits[n]? = waiting past n := h.pending n
  unfold resolveLimit
  cases hlimit : waiting past n with
  | none =>
    rw [hlimit] at hpending
    simp only [hpending]
    refine ⟨hname', fun m => ?_, fun j => ?_⟩
    · rw [h.pending, waiting_newName hname]
      split
      · rename_i hm
        rw [← hm, hlimit]
      · rfl
    · rw [hquota, hlimit, Option.getD_none, ite_self]
  | some q =>
    rw [hlimit] at hpending
    simp only [hpending]
    obtain ⟨p, happly⟩ := applyLimit_eq b i q ({ c with
      upstreams := c.upstreams.setName i n
      pendingLimits := c.pendingLimits.erase n }.note (.pendingLimitApplied n q))
    rw [happly]
    refine ⟨fun j => ?_, fun m => ?_, fun j => ?_⟩
    · rw [UpstreamTable.account_modify]
      · exact hname' j
      · exact fun _ => rfl
    · show (c.pendingLimits.erase n)[m]? = _
      rw [ExtTreeMap.getElem?_erase, waiting_newName hname, h.pending]
      simp only [Std.compare_eq_iff_eq]
    · rw [UpstreamTable.quota_modify, hquota, hlimit, Option.getD_some]
      rfl

/-- A name for an upstream comes with the limit that waits for the name, unless it is no news. -/
theorem Limited.nameUpstream (h : Limited past c) (i : IfIndex) (n : String) :
    Limited ((Directive.ofName? i n).toList ++ past) (c.nameUpstream b i n) := by
  unfold Controller.nameUpstream Directive.ofName?
  by_cases hi : i = 0 ∨ n.isEmpty
  · rw [if_pos hi, if_pos hi]
    exact h.keep (.of_eq rfl rfl)
  · rw [if_neg hi, if_neg hi]
    have hname : c.upstreams.nameOf i = nameIn past i := by
      rw [UpstreamTable.nameOf_eq, h.name]
    unfold rename
    cases hold : nameIn past i with
    | none =>
      rw [hold] at hname
      simp only [hname]
      have hnamed : Limited past (c.note (.upstreamNamed i n)) := h.keep (.of_eq rfl rfl)
      exact hnamed.newName (by rw [hold]; nofun)
    | some old =>
      rw [hold] at hname
      simp only [hname]
      by_cases heq : old = n
      · rw [if_pos heq]
        exact h.sameName (by rw [hold, heq])
      · rw [if_neg heq]
        have hnamed : Limited past
            ((c.note (.upstreamRenamed i old n)).note (.upstreamNamed i n)) :=
          h.keep (.of_eq rfl rfl)
        exact hnamed.newName fun hn => heq (Option.some.inj (hold.symm.trans hn))

/-! ## Every history -/

/-- Whatever is asked, limits are as the directives have it. -/
theorem Limited.run (h : Limited past c) (op : Operation) (hb : c.backend = some b) :
    Limited (op.directive?.toList ++ past) (c.run op).2 := by
  have hname : ∀ i n, c.addUpstreamName i n = c.nameUpstream b i n := fun i n => by
    rw [addUpstreamName, withBackend, hb]
  by_cases hop : op.isChore
  · have hnone : op.directive? = none := by
      cases op with
      | event e =>
        cases e with
        | upstreamChanged d u => cases u <;> first | rfl | cases hop
        | _ => first | rfl | cases hop
      | _ => rfl
    rw [hnone]
    exact h.keep (chores_run c hop hb).keepsLimits
  · cases op with
    | event e =>
      cases e with
      | upstreamName i n =>
        show Limited _ (c.addUpstreamName i n)
        rw [hname]
        exact h.nameUpstream i n
      | upstreamChanged d u =>
        cases u with
        | none => exact absurd rfl hop
        | some info =>
          have hb' := backend_addUpstreamName c info.ifIndex info.name hb
          have hmove := (errands_updateRules _ d info.ifIndex hb').chores.keepsLimits
          rw [hname] at hmove
          show Limited _ ((c.addUpstreamName info.ifIndex info.name).updateRules d info.ifIndex)
          rw [hname]
          exact (h.nameUpstream info.ifIndex info.name).keep hmove
      | setLimit iface q =>
        show Limited _ (c.setLimit iface q).2
        rw [setLimit, hb]
        exact h.limit iface q
      | _ => exact absurd rfl hop
    | _ => exact absurd rfl hop

/-- Over a history limits are as its directives have it. -/
theorem Limited.undergoAll (h : Limited past c) (hb : c.backend = some b) (hs : List Happening) :
    Limited ((hs.filterMap Happening.directive?).reverse ++ past) (c.undergoAll b hs) := by
  induction hs generalizing c past with
  | nil => exact h
  | cons e hs ih =>
    have he : Limited (e.directive?.toList ++ past) (c.undergo b e) := by
      cases e with
      | operation op => exact h.run op hb
      | traffic i more => exact h.keep (.of_eq rfl rfl)
    have hpast : ((e :: hs).filterMap Happening.directive?).reverse ++ past =
        (hs.filterMap Happening.directive?).reverse ++ (e.directive?.toList ++ past) := by
      rw [List.filterMap_cons]
      cases e.directive? <;> simp
    rw [hpast]
    exact ih he (backend_undergo e hb)

/-- Configured limits are set one after the other. -/
theorem Limited.configure (h : Limited past c) (hb : c.backend = some b)
    (limits : List (String × Quota)) :
    Limited ((limits.filterMap fun l => Directive.ofLimit? l.1 l.2).reverse ++ past)
      (limits.foldl configureLimit c) := by
  induction limits generalizing c past with
  | nil => exact h
  | cons l limits ih =>
    have hset : (c.setLimit l.1 l.2) = c.limit b l.1 l.2 := by rw [setLimit, hb]
    have hl : Limited ((Directive.ofLimit? l.1 l.2).toList ++ past) (c.configureLimit l) := by
      have hlimit := h.limit l.1 l.2 (b := b)
      unfold configureLimit
      rw [hset]
      split <;> rename_i heq <;> rw [heq] at hlimit
      · exact hlimit
      · exact hlimit.keep (.of_eq rfl rfl)
    have hsteps : Steps b (fun _ _ => True) c (c.configureLimit l) := steps_configureLimit c l hb
    have hb' : (c.configureLimit l).backend = some b := hsteps.backend_eq.trans hb
    have hpast : ((l :: limits).filterMap fun l => Directive.ofLimit? l.1 l.2).reverse ++
        past = (limits.filterMap fun l => Directive.ofLimit? l.1 l.2).reverse ++
          ((Directive.ofLimit? l.1 l.2).toList ++ past) := by
      rw [List.filterMap_cons]
      cases Directive.ofLimit? l.1 l.2 <;> simp
    rw [hpast]
    exact ih hl hb'

/-- Over a history limits are as its directives have it, those of the configuration included. -/
theorem limited_directives {config : Config} {source : Source} {attacher : Bool} {p : Platform}
    (hb : (start config source attacher p).backend = some b) (hs : List Happening) :
    Limited (directives config hs) ((start config source attacher p).undergoAll b hs) := by
  obtain ⟨p', cleared, hstart, -⟩ := exists_start hb
  have hidle : Limited [] (idle p' (some b) config.pollIntervalMs attacher) :=
    ⟨fun _ => rfl, fun _ => rfl, fun _ => rfl⟩
  have hconfigured := hidle.configure rfl config.dataLimits.toList
  rw [← hstart] at hconfigured
  have hend := hconfigured.undergoAll hb hs
  rwa [List.append_nil, ← List.reverse_append] at hend

/-- The limit of an upstream is the one that was granted to it last, if any. Where a name and an
upstream belong to each other, this is the one that was accepted last for the name. -/
theorem quota_eq_granted {config : Config} {source : Source} {attacher : Bool} {p : Platform}
    (hb : (start config source attacher p).backend = some b) (hs : List Happening) {i : IfIndex}
    {u : Upstream}
    (hu : ((start config source attacher p).undergoAll b hs).upstreams.records[i]? = some u) :
    u.quota = (granted (directives config hs) i).getD .unlimited ∧
      ∀ n, u.name = some n →
        (∀ j m, .name j m ∈ directives config hs → (j = i ↔ m = n)) →
        u.quota = (lastLimit (directives config hs) n).getD .unlimited := by
  have hlimited := limited_directives hb hs
  have hquota := hlimited.quota i
  have hname := hlimited.name i
  rw [UpstreamTable.quota, UpstreamTable.findOrFresh, hu] at hquota
  rw [UpstreamTable.account, UpstreamTable.findOrFresh, hu] at hname
  refine ⟨hquota, fun n hn honly => ?_⟩
  have hgranted := granted_of_only honly
  rw [if_pos (hname.symm.trans hn)] at hgranted
  rw [← hgranted]
  exact hquota

/-- A limit waits for its name, and once the upstream has the name and a rule it is changed. -/
def capped : List Happening :=
  [.operation (.event (.setLimit "rmnet0" 7000)),
    .operation (.event (.upstreamName 100 "rmnet0")),
    .operation (.event (.addRule "wlan0" (sharedRule 10))),
    .operation (.event (.setLimit "rmnet0" 5000))]

theorem only_capped (j : IfIndex) (m : String) (h : .name j m ∈ directives .default capped) :
    j = 100 ↔ m = "rmnet0" := by
  have hall : directives .default capped =
      [.limit "rmnet0" 5000, .name 100 "rmnet0", .limit "rmnet0" 7000] := by decide +kernel
  rw [hall] at h
  simp_all

/-- The upstream has the limit that was accepted last for its name. -/
theorem quota_capped :
    ∃ u : Upstream, ((start .default (.tables fun _ => true) true .empty).undergoAll .tables
        capped).upstreams.records[(100 : IfIndex)]? = some u ∧
      u.name = some "rmnet0" ∧
      u.quota = (granted (directives .default capped) 100).getD .unlimited ∧
      u.quota = (lastLimit (directives .default capped) "rmnet0").getD .unlimited ∧
      u.quota = 5000 := by
  have hu : ((start .default (.tables fun _ => true) true .empty).undergoAll .tables
      capped).upstreams.records[(100 : IfIndex)]? =
        some ⟨some "rmnet0", .zero, .zero, .zero, 5000, .unlimited, false, 1⟩ := by decide +kernel
  have hquota := quota_eq_granted rfl capped hu
  exact ⟨_, hu, rfl, hquota.1, hquota.2 "rmnet0" rfl only_capped, rfl⟩

/-- The name of an upstream changes, and only the old name ever had a limit. -/
def renamed : List Happening :=
  [.operation (.event (.upstreamName 100 "rmnet0")),
    .operation (.event (.setLimit "rmnet0" 5000)),
    .operation (.event (.upstreamName 100 "rmnet1"))]

/-- The limit of an upstream need not be that of its name: it stays when the upstream gets a name
for which no limit was ever accepted. -/
theorem quota_ne_lastLimit_renamed :
    let c := (start .default (.tables fun _ => true) true .empty).undergoAll .tables renamed
    c.backend = some .tables ∧ c.upstreams.nameOf 100 = some "rmnet1" ∧
      lastLimit (directives .default renamed) "rmnet1" = none ∧
      c.upstreams.quota 100 ≠
        (lastLimit (directives .default renamed) "rmnet1").getD .unlimited := by
  decide +kernel

end Controller

end FastPath
