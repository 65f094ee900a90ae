import FastPath.Attachment
import FastPath.Monitoring
import FastPath.Proofs.Platform

/-!
# Steps that are deaf to the log

The log is for people to read. A `View` of the journal leaves some entries out and can blur others.
Two platforms `Agree` under a view if they keep and list the same, if the same is seen of what
happened on them, and if what they refuse goes by what is seen. A step is deaf if, under any view,
platforms that agree give it the same result and agree afterwards. The steps that operations take
against the backends are, and so are those of programs and of the monitor.
-/

namespace FastPath

open Std

/-- A way to look at the journal: what is seen of an entry, if anything. -/
abbrev View := Entry → Option Entry

/-- The calls alone are seen. -/
def View.calls : View
  | .call c refusal => some (.call c refusal)
  | .notice _ | .shown _ => none

/-- All is seen but the log. -/
def View.unlogged : View
  | .notice _ => none
  | .call c refusal => some (.call c refusal)
  | .shown text => some (.shown text)

namespace Platform

/-- What is refused goes by what is seen of the past. -/
def Discreet (v : View) (p : Platform) : Prop :=
  ∀ past past', past.filterMap v = past'.filterMap v → p.refuses past = p.refuses past'

/-- Who goes by the calls alone goes by any view that shows them. -/
theorem Discreet.mono {v : View} {p : Platform} (h : p.Discreet .calls)
    (hv : ∀ e, View.calls e = (v e).bind View.calls) : p.Discreet v := by
  intro past past' hseen
  have hcalls : View.calls = fun e => (v e).bind View.calls := funext hv
  refine h past past' ?_
  rw [hcalls, ← List.filterMap_filterMap, ← List.filterMap_filterMap, hseen]

/-- The platforms differ in their journals alone, and the same is seen of these. -/
structure Agree (v : View) (p q : Platform) : Prop where
  discreet : p.Discreet v
  refuses : q.refuses = p.refuses
  listing : q.listing = p.listing
  stores : q.stores = p.stores
  seen : q.past.filterMap v = p.past.filterMap v

/-- Platforms that agree, after a step with the same result. -/
def AgreeOn (v : View) (x y : α × Platform) : Prop :=
  y.1 = x.1 ∧ x.2.Agree v y.2

variable {v : View} {p q r : Platform}

theorem Agree.refl (h : p.Discreet v) : p.Agree v p :=
  ⟨h, rfl, rfl, rfl, rfl⟩

theorem Agree.symm (h : p.Agree v q) : q.Agree v p where
  discreet := by
    unfold Discreet
    rw [h.refuses]
    exact h.discreet
  refuses := h.refuses.symm
  listing := h.listing.symm
  stores := h.stores.symm
  seen := h.seen.symm

theorem Agree.trans (h : p.Agree v q) (h' : q.Agree v r) : p.Agree v r :=
  ⟨h.discreet, h'.refuses.trans h.refuses, h'.listing.trans h.listing, h'.stores.trans h.stores,
    h'.seen.trans h.seen⟩

/-- Both refuse the same. -/
theorem Agree.refuses_eq (h : p.Agree v q) (c : Call) :
    q.refuses q.past c = p.refuses p.past c := by
  rw [h.refuses, h.discreet _ _ h.seen]

/-- The same is written down on both. -/
theorem Agree.push (h : p.Agree v q) (e : Entry) : (p.push e).Agree v (q.push e) :=
  ⟨h.discreet, h.refuses, h.listing, h.stores,
    by simp only [Platform.push, List.filterMap_cons, h.seen]⟩

/-- The same change is made to what both keep. -/
theorem Agree.change (h : p.Agree v q) {f : Platform → Platform}
    (hpast : ∀ p, (f p).past = p.past) (hrefuses : ∀ p, (f p).refuses = p.refuses)
    (hlisting : ∀ p, (f p).listing = p.listing)
    (hstores : ∀ p q : Platform, q.stores = p.stores → (f q).stores = (f p).stores) :
    (f p).Agree v (f q) where
  discreet := by
    unfold Discreet
    rw [hrefuses]
    exact h.discreet
  refuses := by rw [hrefuses, hrefuses, h.refuses]
  listing := by rw [hlisting, hlisting, h.listing]
  stores := hstores p q h.stores
  seen := by rw [hpast, hpast, h.seen]

/-- What is done for each element of a list keeps platforms in agreement if it does so each time. -/
theorem AgreeOn.foldl {f : α × Platform → β → α × Platform}
    (hf : ∀ {x y} b, AgreeOn v x y → AgreeOn v (f x b) (f y b)) (l : List β) {x y : α × Platform}
    (h : AgreeOn v x y) : AgreeOn v (l.foldl f x) (l.foldl f y) := by
  induction l generalizing x y with
  | nil => exact h
  | cons b l ih => exact ih (hf b h)

end Platform

/-! ## Chains of steps -/

namespace Act

open Platform

/-- The step goes by what is seen of the past, whatever that is. -/
def IsDeaf (a : Act α) : Prop :=
  ∀ (v : View) (p q : Platform), p.Agree v q → AgreeOn v (p.perform a) (q.perform a)

variable {v : View} {x : Act α}

/-- A deaf step, seen on both platforms. -/
theorem IsDeaf.both (hx : x.IsDeaf) {p q : Platform} (h : p.Agree v q) :
    ∃ r p' q', p.perform x = (r, p') ∧ q.perform x = (r, q') ∧ p'.Agree v q' := by
  obtain ⟨hresult, hplatforms⟩ := hx v p q h
  exact ⟨(p.perform x).1, (p.perform x).2, (q.perform x).2, rfl, Prod.ext hresult rfl, hplatforms⟩

/-- A chain is deaf if its steps are. -/
theorem IsDeaf.bind {f : α → Act β} (hx : x.IsDeaf) (hf : ∀ y, (f y).IsDeaf) :
    (x >>= f).IsDeaf := by
  intro v p q h
  obtain ⟨r, p', q', hp, hq, hplatforms⟩ := hx.both h
  rw [perform_bind, perform_bind, hp, hq]
  cases r with
  | ok y => exact hf y v _ _ hplatforms
  | error e => exact ⟨rfl, hplatforms⟩

/-- What is said of a failure goes by the failure. -/
theorem IsDeaf.within (hx : x.IsDeaf) (a : Attempt) : (x.within a).IsDeaf := by
  intro v p q h
  obtain ⟨r, p', q', hp, hq, hplatforms⟩ := hx.both h
  rw [Act.within, perform_tryCatch, perform_tryCatch, hp, hq]
  cases r <;> exact ⟨rfl, hplatforms⟩

theorem IsDeaf.outcome (hx : x.IsDeaf) : x.outcome.IsDeaf := by
  intro v p q h
  obtain ⟨r, p', q', hp, hq, hplatforms⟩ := hx.both h
  rw [perform_outcome, perform_outcome, hp, hq]
  exact ⟨rfl, hplatforms⟩

theorem isDeaf_pure (y : α) : (pure y : Act α).IsDeaf :=
  fun _ _ _ h => ⟨rfl, h⟩

theorem isDeaf_throw (f : Failure) : (throw f : Act α).IsDeaf :=
  fun _ _ _ h => ⟨rfl, h⟩

theorem isDeaf_note (n : Notice) : (Act.note n).IsDeaf :=
  fun _ _ _ h => ⟨rfl, h.push _⟩

theorem isDeaf_announce (c : Call) : (Act.announce c).IsDeaf :=
  fun _ _ _ h => ⟨rfl, h.push _⟩

/-- A step may look at the platform if it does the same on those that agree. -/
theorem isDeaf_get_bind {f : Platform → Act α}
    (hf : ∀ (v : View) (p q : Platform), p.Agree v q →
      AgreeOn v (p.perform (f p)) (q.perform (f q))) :
    ((MonadState.get : Act Platform) >>= f).IsDeaf := by
  intro v p q h
  rw [perform_bind, perform_bind, perform_get, perform_get]
  exact hf v p q h

theorem isDeaf_look {g : Platform → α}
    (hg : ∀ (v : View) (p q : Platform), p.Agree v q → g q = g p) :
    ((MonadState.get : Act Platform) >>= fun p => pure (g p)).IsDeaf :=
  isDeaf_get_bind fun v p q h => ⟨congrArg Except.ok (hg v p q h), h⟩

/-- A step may change what is kept by what is kept. -/
theorem isDeaf_modify {f : Platform → Platform} (hpast : ∀ p, (f p).past = p.past)
    (hrefuses : ∀ p, (f p).refuses = p.refuses) (hlisting : ∀ p, (f p).listing = p.listing)
    (hstores : ∀ p q : Platform, q.stores = p.stores → (f q).stores = (f p).stores) :
    (modify f : Act PUnit).IsDeaf :=
  fun _ _ _ h => ⟨rfl, h.change hpast hrefuses hlisting hstores⟩

/-- A call is refused by both or by neither. -/
theorem isDeaf_ask (c : Call) : (Act.ask c).IsDeaf := by
  intro v p q h
  rw [Act.ask, perform_bind, perform_bind, perform_get, perform_get]
  dsimp only
  rw [h.refuses_eq]
  split
  · exact ⟨rfl, h.push _⟩
  · exact ⟨rfl, h.push _⟩

end Act

/-! ## Accesses to the tables -/

namespace Slot

open Act Platform

variable {κ ν : Type} [Ord κ] (s : Slot κ ν)

/-- Platforms that agree hold the same in a table. -/
theorem content_eq {p q : Platform} (h : p.Agree v q) : s.content q = s.content p :=
  congrArg (fun x : Stores => s.read x.kernel) h.stores

/-- The same change is made to a table. -/
theorem isDeaf_store (f : ExtTreeMap κ ν → ExtTreeMap κ ν) :
    (modify fun p => s.store (f (s.content p)) p : Act PUnit).IsDeaf := by
  refine isDeaf_modify (f := fun p => s.store (f (s.content p)) p) (fun _ => rfl) (fun _ => rfl)
    (fun _ => rfl) fun p q h => ?_
  have hkernel : q.kernel = p.kernel := congrArg Stores.kernel h
  have hdaemon : q.daemon = p.daemon := congrArg Stores.daemon h
  simp only [store, content, stores, hkernel, hdaemon]

variable [TransOrd κ]

theorem isDeaf_get (key : κ) : (s.get key).IsDeaf :=
  (isDeaf_ask _).bind fun _ => isDeaf_look fun v p q h => by rw [s.content_eq h]

theorem isDeaf_update (key : κ) (value : ν) : (s.update key value).IsDeaf :=
  (isDeaf_ask _).bind fun _ => s.isDeaf_store (·.insert key value)

theorem isDeaf_entries : s.entries.IsDeaf :=
  (isDeaf_ask _).bind fun _ => isDeaf_look fun v p q h => by rw [s.content_eq h]

/-- A key is new to both or to neither. -/
theorem isDeaf_insert (key : κ) (value : ν) : (s.insert key value).IsDeaf := by
  refine isDeaf_get_bind fun v p q h => ?_
  dsimp only
  rw [h.refuses_eq, s.content_eq h]
  split
  · exact ⟨rfl, h.push _⟩
  · exact ((isDeaf_ask _).bind fun _ => s.isDeaf_store (·.insert key value)) v p q h

/-- A key is there for both or for neither. -/
theorem isDeaf_delete (key : κ) : (s.delete key).IsDeaf := by
  refine (isDeaf_ask _).bind fun _ => isDeaf_get_bind fun v p q h => ?_
  obtain ⟨-, hplatforms⟩ := s.isDeaf_store (·.erase key) v p q h
  rw [s.content_eq h]
  exact ⟨rfl, hplatforms⟩

end Slot

/-! ## Calls to the daemon -/

namespace Daemon

open Act Platform

/-- Platforms that agree have a daemon that keeps the same. -/
theorem daemon_eq {p q : Platform} (h : p.Agree v q) : q.daemon = p.daemon :=
  congrArg Stores.daemon h.stores

theorem isDeaf_change (f : DaemonTables → DaemonTables) : (change f).IsDeaf := by
  refine isDeaf_modify (fun _ => rfl) (fun _ => rfl) (fun _ => rfl) fun p q h => ?_
  have hkernel : q.kernel = p.kernel := congrArg Stores.kernel h
  have hdaemon : q.daemon = p.daemon := congrArg Stores.daemon h
  simp only [stores, hkernel, hdaemon]

theorem isDeaf_ruleAdd (parcel : Parcel) : (ruleAdd parcel).IsDeaf :=
  (isDeaf_ask _).bind fun _ => isDeaf_change _

theorem isDeaf_ruleRemove (parcel : Parcel) : (ruleRemove parcel).IsDeaf :=
  (isDeaf_ask _).bind fun _ => isDeaf_change _

theorem isDeaf_getStats : getStats.IsDeaf :=
  (isDeaf_ask _).bind fun _ => isDeaf_look fun v p q h => by rw [daemon_eq h]

theorem isDeaf_setQuota (i : IfIndex) (q : Quota) : (setQuota i q).IsDeaf :=
  (isDeaf_ask _).bind fun _ => isDeaf_change _

theorem isDeaf_getAndClear (i : IfIndex) : (getAndClear i).IsDeaf := by
  refine (isDeaf_ask _).bind fun _ => isDeaf_get_bind fun v p q h => ?_
  rw [daemon_eq h]
  exact ((isDeaf_change _).bind fun _ => isDeaf_pure _) v p q h

end Daemon

/-! ## Requests -/

namespace TableBackend

open Act Slot

theorem isDeaf_removeRule (r : Rule) : (removeRule r).IsDeaf := by
  refine ((isDeaf_delete _ _).within _).bind fun found => ?_
  cases found
  · exact isDeaf_note _
  · exact isDeaf_pure _

theorem isDeaf_stopForwarding (d u : IfIndex) : (stopForwarding d u).IsDeaf := by
  refine ((isDeaf_delete _ _).within _).bind fun found => ?_
  cases found
  · exact isDeaf_note _
  · exact isDeaf_pure _

theorem isDeaf_readAll : readAll.IsDeaf :=
  ((isDeaf_entries _).within _).bind fun _ => isDeaf_pure _

theorem isDeaf_setQuota (i : IfIndex) (q : Quota) (isFirst : Bool) :
    (setQuota i q isFirst).IsDeaf := by
  refine ((isDeaf_get _ _).within _).bind fun existing => ?_
  have hlimit : ((Slot.limit.update i q).within (.updateLimit i)).IsDeaf :=
    (isDeaf_update _ _ _).within _
  cases isFirst <;> cases existing
  · exact (isDeaf_throw _).bind fun _ => hlimit
  · exact (isDeaf_pure ()).bind fun _ => hlimit
  · exact ((isDeaf_insert _ _ _).within _).bind fun _ => hlimit
  · exact (isDeaf_note _).bind fun _ => hlimit

theorem isDeaf_readAndClear (i : IfIndex) : (readAndClear i).IsDeaf := by
  refine ((isDeaf_get _ _).within _).bind fun existing => ?_
  cases existing with
  | none => exact isDeaf_throw _
  | some counters =>
    refine ((isDeaf_delete _ _).within _).bind fun _ => ?_
    refine (isDeaf_delete _ _).outcome.bind fun result => ?_
    have hend : (pure ⟨i, counters.traffic⟩ : Act InterfaceTraffic).IsDeaf := isDeaf_pure _
    rcases result with f | _ | _
    · exact (isDeaf_note _).bind fun _ => hend
    · exact (isDeaf_note _).bind fun _ => hend
    · exact (isDeaf_pure ()).bind fun _ => hend

end TableBackend

namespace Backend

open Act

variable (b : Backend)

theorem isDeaf_receive (r : Request) : (b.receive r).IsDeaf := by
  cases b with
  | tables | daemon => exact isDeaf_announce _
  | rehearsal => exact isDeaf_ask _

theorem isDeaf_addRule (r : Rule) : (b.addRule r).IsDeaf := by
  refine (b.isDeaf_receive _).bind fun _ => ?_
  cases b with
  | tables => exact (Slot.isDeaf_update _ _ _).within _
  | daemon => exact (Daemon.isDeaf_ruleAdd _).within _
  | rehearsal => exact isDeaf_pure _

theorem isDeaf_removeRule (r : Rule) : (b.removeRule r).IsDeaf := by
  refine (b.isDeaf_receive _).bind fun _ => ?_
  cases b with
  | tables => exact TableBackend.isDeaf_removeRule r
  | daemon => exact (Daemon.isDeaf_ruleRemove _).within _
  | rehearsal => exact isDeaf_pure _

theorem isDeaf_startForwarding (d u : IfIndex) : (b.startForwarding d u).IsDeaf := by
  refine (b.isDeaf_receive _).bind fun _ => ?_
  cases b with
  | tables => exact (Slot.isDeaf_insert _ _ _).within _
  | daemon | rehearsal => exact isDeaf_pure _

theorem isDeaf_stopForwarding (d u : IfIndex) : (b.stopForwarding d u).IsDeaf := by
  refine (b.isDeaf_receive _).bind fun _ => ?_
  cases b with
  | tables => exact TableBackend.isDeaf_stopForwarding d u
  | daemon | rehearsal => exact isDeaf_pure _

theorem isDeaf_readAll : b.readAll.IsDeaf := by
  refine (b.isDeaf_receive _).bind fun _ => ?_
  cases b with
  | tables => exact TableBackend.isDeaf_readAll
  | daemon => exact Daemon.isDeaf_getStats.within _
  | rehearsal =>
    exact isDeaf_look fun v p q h => by rw [Daemon.daemon_eq h]

theorem isDeaf_setQuota (i : IfIndex) (q : Quota) (isFirst : Bool) :
    (b.setQuota i q isFirst).IsDeaf := by
  refine (b.isDeaf_receive _).bind fun _ => ?_
  cases b with
  | tables => exact TableBackend.isDeaf_setQuota i q isFirst
  | daemon => exact (Daemon.isDeaf_setQuota _ _).within _
  | rehearsal => exact isDeaf_pure _

theorem isDeaf_readAndClear (i : IfIndex) : (b.readAndClear i).IsDeaf := by
  refine (b.isDeaf_receive _).bind fun _ => ?_
  cases b with
  | tables => exact TableBackend.isDeaf_readAndClear i
  | daemon => exact (Daemon.isDeaf_getAndClear _).within _
  | rehearsal =>
    refine isDeaf_get_bind fun v p q h => ?_
    rw [Daemon.daemon_eq h]
    exact ((Daemon.isDeaf_change _).bind fun _ => isDeaf_pure _) v p q h

end Backend

/-! ## Programs and the monitor -/

namespace Attachments

open Act Platform

variable {v : View} {p q : Platform}

theorem agree_attachProgram (h : p.Agree v q) (attacher : Bool) (iface : String) (d : Direction) :
    (attachProgram attacher iface d p).Agree v (attachProgram attacher iface d q) := by
  unfold attachProgram
  split
  · obtain ⟨r, p', q', hp, hq, hplatforms⟩ := (isDeaf_ask (.attach iface d)).both h
    rw [hp, hq]
    cases r with
    | ok => exact hplatforms
    | error f => exact hplatforms.push _
  · exact h.push _

theorem agree_detachProgram (h : p.Agree v q) (attacher : Bool) (iface : String) :
    (detachProgram attacher iface p).Agree v (detachProgram attacher iface q) := by
  unfold detachProgram
  split
  · obtain ⟨r, p', q', hp, hq, hplatforms⟩ := (isDeaf_ask (.detach iface)).both h
    rw [hp, hq]
    cases r with
    | ok => exact hplatforms
    | error f => exact hplatforms.push _
  · exact h

theorem agree_acquire (h : p.Agree v q) (iface : String) (d : Direction) (a : Attachments) :
    AgreeOn v (acquire iface d a p) (acquire iface d a q) := by
  unfold acquire
  dsimp only
  split
  · exact ⟨rfl, agree_attachProgram h _ _ _⟩
  · exact ⟨rfl, h.push _⟩

theorem agree_release (h : p.Agree v q) (iface : String) (a : Attachments) :
    AgreeOn v (release iface a p) (release iface a q) := by
  unfold release
  split
  · exact ⟨rfl, h⟩
  · split
    · exact ⟨rfl, agree_detachProgram h _ _⟩
    · exact ⟨rfl, h⟩

theorem agree_attach (h : p.Agree v q) (pair : Pair) (a : Attachments) :
    AgreeOn v (attach pair a p) (attach pair a q) := by
  unfold attach
  split
  · exact ⟨rfl, h.push _⟩
  · obtain ⟨hsame, hnext⟩ :=
      agree_acquire h pair.external .downstream { a with pairs := a.pairs.insert pair }
    dsimp only
    rw [hsame]
    exact agree_acquire hnext _ _ _

theorem agree_detach (h : p.Agree v q) (pair : Pair) (a : Attachments) :
    AgreeOn v (detach pair a p) (detach pair a q) := by
  unfold detach
  split
  · obtain ⟨hsame, hnext⟩ :=
      agree_release h pair.external { a with pairs := a.pairs.erase pair }
    dsimp only
    rw [hsame]
    exact agree_release hnext _ _
  · exact ⟨rfl, h.push _⟩

theorem agree_detachAll (h : p.Agree v q) (a : Attachments) :
    AgreeOn v (a.detachAll p) (a.detachAll q) := by
  refine AgreeOn.foldl (fun {x y} pair hxy => ?_) _ ⟨rfl, h⟩
  obtain ⟨hsame, hplatforms⟩ := hxy
  dsimp only
  rw [hsame]
  exact agree_detach hplatforms pair x.1

end Attachments

namespace Monitoring

open Act Platform

variable {v : View} {p q : Platform}

theorem agree_add (h : p.Agree v q) (d : DownstreamId) (m : Monitoring) :
    AgreeOn v (m.add d p) (m.add d q) := by
  unfold add
  split
  · exact ⟨rfl, h.push _⟩
  · dsimp only
    split
    · obtain ⟨r, p', q', hp, hq, hplatforms⟩ := (isDeaf_ask .startMonitor).both h
      rw [hp, hq]
      cases r with
      | ok => exact ⟨rfl, hplatforms⟩
      | error f => exact ⟨rfl, hplatforms.push _⟩
    · exact ⟨rfl, h⟩

theorem agree_remove (h : p.Agree v q) (d : DownstreamId) (m : Monitoring) :
    AgreeOn v (m.remove d p) (m.remove d q) := by
  unfold remove
  split
  · dsimp only
    split
    · exact ⟨rfl, h.push _⟩
    · exact ⟨rfl, h⟩
  · exact ⟨rfl, h.push _⟩

theorem agree_removeAll (h : p.Agree v q) (m : Monitoring) :
    AgreeOn v (m.removeAll p) (m.removeAll q) := by
  refine AgreeOn.foldl (fun {x y} d hxy => ?_) _ ⟨rfl, h⟩
  obtain ⟨hsame, hplatforms⟩ := hxy
  dsimp only
  rw [hsame]
  exact agree_remove hplatforms d x.1

end Monitoring

end FastPath
