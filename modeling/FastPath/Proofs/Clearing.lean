import FastPath.Proofs.Frame
import FastPath.Proofs.Layouts

/-!
# When counters are cleared

Every backend clears the counters of an interface by one call of its own, so that the journal tells
whether that was done: a final reading is given if and only if the call was let through
(`readAndClear_eventful`). All other requests are `Uneventful`: they write neither such a call nor
an alert, and they leave the index alone under which the daemon reports. That a step is uneventful
is shown part by part, along the chain of steps it is made of.
-/

namespace FastPath

open Std

/-- The backend clears counters by this call. -/
def Backend.clears (b : Backend) (c : Call) : Bool :=
  match b, c with
  | .tables, .table .stats (.delete _) => true
  | .daemon, .daemon (.getAndClear _) => true
  | .rehearsal, .request (.readAndClear _) => true
  | _, _ => false

/-- What is written when the counters of an interface are cleared. -/
def Backend.clearing (b : Backend) (u : IfIndex) : Entry :=
  match b with
  | .tables => .call (.table .stats (.delete (indexBytes u))) none
  | .daemon => .call (.daemon (.getAndClear u)) none
  | .rehearsal => .call (.request (.readAndClear u)) none

/-- An entry that tells of counters that were cleared. -/
def Entry.tellsClearing (b : Backend) : Entry → Bool
  | .call c none => b.clears c
  | _ => false

/-- An entry that tells of the alert. -/
def Entry.tellsAlert : Entry → Bool
  | .call .alert _ => true
  | _ => false

/-- An entry that tells neither of counters that were cleared nor of the alert. -/
def Entry.isUneventful (b : Backend) (e : Entry) : Bool :=
  !e.tellsClearing b && !e.tellsAlert

/-- Where there is no event, nobody is told of the alert. -/
theorem Entry.not_tellsAlert_of_isUneventful {b : Backend} {e : Entry} (h : e.isUneventful b) :
    !e.tellsAlert :=
  (Bool.and_eq_true_iff.mp h).2

/-- A call is no event, refused or not, unless it clears counters or tells of the alert. -/
theorem Entry.isUneventful_call {b : Backend} (c : Call) (halert : c ≠ .alert)
    (hclears : b.clears c = false) (refusal : Option Cause) :
    (Entry.call c refusal).isUneventful b := by
  have htells : !(Entry.call c refusal).tellsAlert := by
    cases c <;> first | rfl | exact absurd rfl halert
  have hclearing : (Entry.call c refusal).tellsClearing b = false := by
    cases refusal <;> first | rfl | exact hclears
  rw [isUneventful, hclearing]
  exact htells

/-- What is written when counters are cleared tells of that. -/
theorem Backend.tellsClearing_clearing (b : Backend) (u : IfIndex) :
    (b.clearing u).tellsClearing b := by
  cases b <;> rfl

/-- That counters were cleared is an event. -/
theorem Backend.clearing_eventful (b : Backend) (u : IfIndex) :
    (b.clearing u).isUneventful b = false := by
  rw [Entry.isUneventful, b.tellsClearing_clearing]
  rfl

/-- Nobody is told of the alert by it. -/
theorem Backend.not_tellsAlert_clearing (b : Backend) (u : IfIndex) :
    !(b.clearing u).tellsAlert := by
  cases b <;> rfl

/-- The journal tells of which interface the counters were cleared. -/
theorem Backend.eq_of_clearing_eq {b : Backend} {u v : IfIndex} (h : b.clearing u = b.clearing v) :
    u = v := by
  cases b <;> simp only [clearing, Entry.call.injEq, Call.table.injEq, Access.delete.injEq,
    Call.daemon.injEq, DaemonCall.getAndClear.injEq, Call.request.injEq,
    Request.readAndClear.injEq, and_true, true_and] at h
  · exact eq_of_indexBytes_eq h
  · exact h
  · exact h

namespace Platform

/-- The platform `q` comes after `p` without an event, and final readings are reported as before. -/
structure Uneventful (b : Backend) (p q : Platform) : Prop where
  writes : p.Writes (Entry.isUneventful b) q
  reportedAs : q.daemon.reportedAs = p.daemon.reportedAs

variable {b : Backend} {p q r : Platform}

theorem Uneventful.refl (b : Backend) (p : Platform) : p.Uneventful b p := ⟨.refl _ p, rfl⟩

theorem Uneventful.trans (h : p.Uneventful b q) (h' : q.Uneventful b r) : p.Uneventful b r :=
  ⟨h.writes.trans h'.writes, h'.reportedAs.trans h.reportedAs⟩

/-- An entry is written that is no event. -/
theorem uneventful_push (p : Platform) {e : Entry} (he : e.isUneventful b) :
    p.Uneventful b (p.push e) :=
  ⟨writes_push p he, rfl⟩

/-- A notice is no event. -/
theorem uneventful_note (b : Backend) (p : Platform) (n : Notice) : p.Uneventful b (p.note n) :=
  uneventful_push p rfl

end Platform

/-! ## Chains of steps -/

namespace Act

open Platform

/-- The step is no event wherever it is taken. -/
def IsUneventful (b : Backend) (a : Act α) : Prop :=
  ∀ p : Platform, p.Uneventful b (p.perform a).2

variable {b : Backend} {x : Act α}

/-- A step that leaves the platform alone. -/
theorem isUneventful_of_eq (h : ∀ p : Platform, (p.perform x).2 = p) : x.IsUneventful b := by
  intro p
  rw [h]
  exact .refl b p

/-- A chain is uneventful if its steps are. -/
theorem IsUneventful.bind {f : α → Act β} (hx : x.IsUneventful b)
    (hf : ∀ v, (f v).IsUneventful b) : (x >>= f).IsUneventful b := by
  intro p
  have hstep := hx p
  rw [perform_bind]
  rcases h : p.perform x with ⟨_ | v, q⟩ <;> rw [h] at hstep
  · exact hstep
  · exact hstep.trans (hf v q)

/-- What is said of a failure is no event. -/
theorem IsUneventful.within (hx : x.IsUneventful b) (a : Attempt) :
    (x.within a).IsUneventful b := by
  intro p
  have hstep := hx p
  rw [Act.within, perform_tryCatch]
  rcases h : p.perform x with ⟨_ | v, q⟩ <;> rw [h] at hstep <;> exact hstep

/-- Nor is it an event that the outcome is looked at. -/
theorem IsUneventful.outcome (hx : x.IsUneventful b) : x.outcome.IsUneventful b := by
  intro p
  rw [perform_outcome]
  exact hx p

/-- A step may depend on the platform as it is. -/
theorem isUneventful_get_bind {f : Platform → Act α}
    (hf : ∀ p : Platform, p.Uneventful b (p.perform (f p)).2) :
    ((MonadState.get : Act Platform) >>= f).IsUneventful b := by
  intro p
  rw [perform_bind, perform_get]
  exact hf p

theorem isUneventful_pure (v : α) : (pure v : Act α).IsUneventful b :=
  isUneventful_of_eq fun _ => rfl

theorem isUneventful_throw (f : Failure) : (throw f : Act α).IsUneventful b :=
  isUneventful_of_eq fun _ => rfl

theorem isUneventful_note (n : Notice) : (Act.note n).IsUneventful b :=
  fun p => p.uneventful_note b n

/-- A change of stores writes nothing. -/
theorem isUneventful_modify {f : Platform → Platform} (hpast : ∀ p, (f p).past = p.past)
    (hreported : ∀ p, (f p).daemon.reportedAs = p.daemon.reportedAs) :
    (modify f : Act PUnit).IsUneventful b :=
  fun p => ⟨⟨[], by simp, hpast p⟩, hreported p⟩

/-- A call is no event, refused or not, unless it clears counters or tells of the alert. -/
theorem isUneventful_ask (c : Call) (halert : c ≠ .alert) (hclears : b.clears c = false) :
    (Act.ask c).IsUneventful b := by
  intro p
  rcases hask : p.perform (Act.ask c) with ⟨res, q⟩
  rcases perform_ask_cases hask with ⟨-, -, rfl⟩ | ⟨reason, -, -, rfl⟩ <;>
    exact uneventful_push p (Entry.isUneventful_call c halert hclears _)

end Act

/-! ## Accesses to the tables -/

namespace Slot

open Act Platform

variable {κ ν : Type} [Ord κ] [TransOrd κ] {b : Backend} {s : Slot κ ν}

/-- Only deleting an entry can clear counters. -/
theorem isUneventful_access (b : Backend) (label : TableLabel) (a : Access)
    (ha : ∀ key, a ≠ .delete key) : (Act.ask (.table label a)).IsUneventful b := by
  refine isUneventful_ask (.table label a) nofun ?_
  cases b <;> cases label <;> cases a <;> first | rfl | exact absurd rfl (ha _)

theorem isUneventful_get (key : κ) : (s.get key).IsUneventful b :=
  (isUneventful_access b s.label (.get _) nofun).bind fun _ =>
    isUneventful_get_bind fun p => isUneventful_pure _ p

theorem isUneventful_update (key : κ) (value : ν) : (s.update key value).IsUneventful b :=
  (isUneventful_access b s.label (.update ..) nofun).bind fun _ =>
    isUneventful_modify (fun _ => rfl) fun _ => rfl

theorem isUneventful_entries : s.entries.IsUneventful b :=
  (isUneventful_access b s.label .forEach nofun).bind fun _ =>
    isUneventful_get_bind fun p => isUneventful_pure _ p

/-- An insertion is no event, also where it collides. -/
theorem isUneventful_insert (key : κ) (value : ν) : (s.insert key value).IsUneventful b := by
  refine isUneventful_get_bind fun p => ?_
  dsimp only
  split
  · exact uneventful_push p rfl
  · have hput : (modify (s.put key value) : Act PUnit).IsUneventful b :=
      isUneventful_modify (fun _ => rfl) fun _ => rfl
    have hasked := isUneventful_access b s.label (.insert (s.keyBytes key) (s.valueBytes value))
    exact ((hasked fun _ => Access.noConfusion).bind fun _ => hput) p

/-- A deletion is no event where it clears no counters. -/
theorem isUneventful_delete (key : κ)
    (hclears : b.clears (.table s.label (.delete (s.keyBytes key))) = false) :
    (s.delete key).IsUneventful b :=
  (isUneventful_ask (.table s.label (.delete _)) nofun hclears).bind fun _ =>
    isUneventful_get_bind fun p => ⟨.refl _ p, rfl⟩

end Slot

/-! ## Requests -/

namespace Backend

open Act Platform

variable (b : Backend)

/-- A request is no event by itself, unless it is the one that clears counters. -/
theorem isUneventful_receive (r : Request) (hr : ∀ u, r ≠ .readAndClear u) :
    (b.receive r).IsUneventful b := by
  have hclears : b.clears (.request r) = false := by
    cases b <;> cases r <;> first | rfl | exact absurd rfl (hr _)
  cases b with
  | tables | daemon =>
    exact fun p => uneventful_push p (Entry.isUneventful_call (.request r) nofun hclears none)
  | rehearsal => exact isUneventful_ask _ nofun hclears

/-- A call to the daemon that only changes what it keeps is no event. -/
theorem isUneventful_change (d : DaemonCall) {f : DaemonTables → DaemonTables}
    (hd : ∀ u, d ≠ .getAndClear u) (hf : ∀ t, (f t).reportedAs = t.reportedAs) :
    (do Act.ask (.daemon d); Daemon.change f : Act Unit).IsUneventful b := by
  have hclears : b.clears (.daemon d) = false := by
    cases b <;> cases d <;> first | rfl | exact absurd rfl (hd _)
  have hchange : (Daemon.change f).IsUneventful b :=
    isUneventful_modify (fun _ => rfl) fun p => hf p.daemon
  exact (isUneventful_ask (.daemon d) nofun hclears).bind fun _ => hchange

theorem isUneventful_addRule (r : Rule) : (b.addRule r).IsUneventful b := by
  refine (b.isUneventful_receive (.addRule r) nofun).bind fun _ => ?_
  cases b with
  | tables => exact (Slot.isUneventful_update _ _).within _
  | daemon =>
    have hadd : (Daemon.ruleAdd r.parcel).IsUneventful .daemon :=
      isUneventful_change _ (.ruleAdd _) nofun fun _ => rfl
    exact hadd.within _
  | rehearsal => exact isUneventful_pure _

theorem isUneventful_removeRule (r : Rule) : (b.removeRule r).IsUneventful b := by
  refine (b.isUneventful_receive (.removeRule r) nofun).bind fun _ => ?_
  cases b with
  | tables =>
    refine ((Slot.isUneventful_delete _ rfl).within _).bind fun found => ?_
    cases found
    · exact isUneventful_note _
    · exact isUneventful_pure _
  | daemon =>
    have hremove : (Daemon.ruleRemove r.parcel).IsUneventful .daemon :=
      isUneventful_change _ (.ruleRemove _) nofun fun _ => rfl
    exact hremove.within _
  | rehearsal => exact isUneventful_pure _

theorem isUneventful_startForwarding (d u : IfIndex) : (b.startForwarding d u).IsUneventful b := by
  refine (b.isUneventful_receive (.startForwarding d u) nofun).bind fun _ => ?_
  cases b with
  | tables => exact (Slot.isUneventful_insert _ _).within _
  | daemon | rehearsal => exact isUneventful_pure _

theorem isUneventful_stopForwarding (d u : IfIndex) : (b.stopForwarding d u).IsUneventful b := by
  refine (b.isUneventful_receive (.stopForwarding d u) nofun).bind fun _ => ?_
  cases b with
  | tables =>
    refine ((Slot.isUneventful_delete _ rfl).within _).bind fun found => ?_
    cases found
    · exact isUneventful_note _
    · exact isUneventful_pure _
  | daemon | rehearsal => exact isUneventful_pure _

theorem isUneventful_readAll : b.readAll.IsUneventful b := by
  refine (b.isUneventful_receive .readAll nofun).bind fun _ => ?_
  cases b with
  | tables => exact (Slot.isUneventful_entries.within _).bind fun _ => isUneventful_pure _
  | daemon =>
    have hstats : Daemon.getStats.IsUneventful .daemon :=
      (isUneventful_ask (.daemon .getStats) nofun rfl).bind fun _ =>
        isUneventful_get_bind fun p => isUneventful_pure _ p
    exact hstats.within _
  | rehearsal => exact isUneventful_get_bind fun p => isUneventful_pure _ p

/-- A limit is no event, whether counters are created with it or not. -/
theorem isUneventful_setQuota (i : IfIndex) (q : Quota) (isFirst : Bool) :
    (b.setQuota i q isFirst).IsUneventful b := by
  refine (b.isUneventful_receive (.setQuota i q isFirst) nofun).bind fun _ => ?_
  cases b with
  | tables =>
    refine ((Slot.isUneventful_get _).within _).bind fun existing => ?_
    have hlimit : ((Slot.limit.update i q).within (.updateLimit i)).IsUneventful .tables :=
      (Slot.isUneventful_update _ _).within _
    cases isFirst <;> cases existing
    · exact (isUneventful_throw _).bind fun _ => hlimit
    · exact (isUneventful_pure ()).bind fun _ => hlimit
    · exact ((Slot.isUneventful_insert _ _).within _).bind fun _ => hlimit
    · exact (isUneventful_note _).bind fun _ => hlimit
  | daemon =>
    have hset : (Daemon.setQuota i q).IsUneventful .daemon :=
      isUneventful_change _ (.setQuota ..) nofun fun _ => rfl
    exact hset.within _
  | rehearsal => exact isUneventful_pure _

end Backend

/-! ## Clearing counters -/

namespace Act

open Platform

/-- The step fails without an event, or it does not fail and its one event is that the counters of
`u` are cleared. -/
def Clears (b : Backend) (u : IfIndex) (x : Act α) : Prop :=
  ∀ (p q : Platform) (res : Except Failure α), p.perform x = (res, q) →
    (∃ f, res = .error f) ∧ p.Uneventful b q ∨
      (∃ v, res = .ok v) ∧ ∃ m, p.Uneventful b m ∧ (m.push (b.clearing u)).Uneventful b q

variable {b : Backend} {u : IfIndex} {x : Act α} {f : α → Act β}

/-- The call by which counters are cleared. -/
theorem clears_ask (b : Backend) (u : IfIndex) (c : Call) (hc : b.clearing u = .call c none) :
    (Act.ask c).Clears b u := by
  intro p q res h
  rcases perform_ask_cases h with ⟨-, rfl, rfl⟩ | ⟨reason, -, rfl, rfl⟩
  · refine .inr ⟨⟨(), rfl⟩, p, .refl b p, ?_⟩
    rw [hc]
    exact .refl b _
  · have hrefused : (Entry.call c (some (.refused reason))).isUneventful b := by
      cases c <;> first | rfl | (cases b <;> cases hc)
    exact .inl ⟨⟨_, rfl⟩, uneventful_push p hrefused⟩

/-- What is said of a failure is no event. -/
theorem Clears.within (hx : x.Clears b u) (a : Attempt) : (x.within a).Clears b u := by
  intro p q res h
  obtain ⟨res', hx', hok, hfailed⟩ := perform_within_cases h
  rcases hx p q res' hx' with ⟨⟨f, hf⟩, hu⟩ | ⟨⟨v, hv⟩, hu⟩
  · exact .inl ⟨hfailed f hf, hu⟩
  · exact .inr ⟨⟨v, hok v hv⟩, hu⟩

/-- Counters may be cleared after steps without an event. -/
theorem IsUneventful.bind_clears (hx : x.IsUneventful b) (hf : ∀ v, (f v).Clears b u) :
    (x >>= f).Clears b u := by
  intro p q res h
  have hstep := hx p
  rcases perform_bind_cases h with ⟨v, m, hm, h⟩ | ⟨e, hq, rfl⟩
  · rw [hm] at hstep
    rcases hf v m q res h with ⟨hfailed, hu⟩ | ⟨hok, m', hm', hq⟩
    · exact .inl ⟨hfailed, hstep.trans hu⟩
    · exact .inr ⟨hok, m', hstep.trans hm', hq⟩
  · rw [hq] at hstep
    exact .inl ⟨⟨e, rfl⟩, hstep⟩

/-- Steps without an event may follow, if they do not fail. -/
theorem Clears.bind (hx : x.Clears b u) (hf : ∀ v, (f v).IsUneventful b)
    (hok : ∀ v (p : Platform), ∃ w, (p.perform (f v)).1 = .ok w) : (x >>= f).Clears b u := by
  intro p q res h
  rcases perform_bind_cases h with ⟨v, m, hm, h⟩ | ⟨e, hq, rfl⟩
  · have hstep := hf v m
    obtain ⟨w, hw⟩ := hok v m
    rw [h] at hstep hw
    rcases hx p m _ hm with ⟨⟨e, hfailed⟩, -⟩ | ⟨-, m', hm', hm''⟩
    · cases hfailed
    · exact .inr ⟨⟨w, hw⟩, m', hm', hm''.trans hstep⟩
  · rcases hx p q _ hq with ⟨-, hu⟩ | ⟨⟨v, hv⟩, -⟩
    · exact .inl ⟨⟨e, rfl⟩, hu⟩
    · cases hv

end Act

namespace Backend

open Act Platform

/-- A final reading clears counters. -/
theorem clears_readAndClear (b : Backend) (u : IfIndex) : (b.readAndClear u).Clears b u := by
  cases b with
  | tables =>
    have hreceive : (tables.receive (.readAndClear u)).IsUneventful tables := fun p =>
      uneventful_push p rfl
    have hget : ((Slot.stats.get u).within (.readStats u)).IsUneventful tables :=
      (Slot.isUneventful_get u).within _
    refine hreceive.bind_clears fun _ => hget.bind_clears fun counters => ?_
    cases counters with
    | none =>
      intro p q res h
      obtain ⟨rfl, rfl⟩ := Prod.mk.inj h
      exact .inl ⟨⟨_, rfl⟩, .refl _ p⟩
    | some counters =>
      have hdelete : (Slot.stats.delete u).Clears tables u :=
        (clears_ask _ u (.table .stats (.delete (indexBytes u))) rfl).bind
          (fun _ => isUneventful_get_bind fun p => ⟨.refl _ p, rfl⟩) fun _ _ => ⟨_, rfl⟩
      -- The counters are gone by then, and the limit is only looked after.
      refine (hdelete.within _).bind (fun _ => ?_) fun _ p => ?_
      · refine (Slot.isUneventful_delete u rfl).outcome.bind fun found => ?_
        rcases found with f | found
        · exact (isUneventful_note _).bind fun _ => isUneventful_pure _
        · cases found
          · exact (isUneventful_note _).bind fun _ => isUneventful_pure _
          · exact (isUneventful_pure ()).bind fun _ => isUneventful_pure _
      · rw [perform_bind, perform_outcome]
        dsimp only
        rcases (p.perform (Slot.limit.delete u)).1 with f | _ | _ <;> exact ⟨_, rfl⟩
  | daemon =>
    have hreceive : (daemon.receive (.readAndClear u)).IsUneventful daemon := fun p =>
      uneventful_push p rfl
    have hclear : (Daemon.getAndClear u).Clears daemon u :=
      (clears_ask _ u (.daemon (.getAndClear u)) rfl).bind
        (fun _ => isUneventful_get_bind fun p => ⟨.refl _ p, rfl⟩) fun _ _ => ⟨_, rfl⟩
    exact hreceive.bind_clears fun _ => hclear.within _
  | rehearsal =>
    exact (clears_ask _ u (.request (.readAndClear u)) rfl).bind
      (fun _ => isUneventful_get_bind fun p => ⟨.refl _ p, rfl⟩) fun _ _ => ⟨_, rfl⟩

/-- A final reading is given if and only if counters were cleared, and then under the index under
which the backend reports them. -/
theorem readAndClear_eventful {b : Backend} {u : IfIndex} {p q : Platform}
    {res : Except Failure InterfaceTraffic} (h : p.perform (b.readAndClear u) = (res, q)) :
    (∃ f, res = .error f) ∧ p.Uneventful b q ∨
      (∃ last, res = .ok last ∧ last.ifIndex = p.stores.reportedAs b u) ∧
        ∃ m, p.Uneventful b m ∧ (m.push (b.clearing u)).Uneventful b q := by
  rcases clears_readAndClear b u p q res h with hfailed | ⟨⟨v, rfl⟩, hq⟩
  · exact .inl hfailed
  · refine .inr ⟨⟨v, rfl, ?_⟩, hq⟩
    rcases readAndClear_cases h with ⟨⟨f, hf⟩, -⟩ | ⟨⟨f, hf⟩, -⟩ | ⟨hv, -⟩
    · cases hf
    · cases hf
    · rw [Except.ok.inj hv]

end Backend

end FastPath
