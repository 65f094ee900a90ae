import FastPath.Proofs.Platform

/-!
# What a backend does with a request

Each request has one effect on the stores, given here as a function of them for every backend, and a
lemma that says when it takes effect: a request that is let through `Serves`, one that is refused is
`Denied` and changes nothing. Two requests can be served in part. The first limit of an upstream can
fail after its counters were created, and the limit can stay behind when counters are cleared.
-/

namespace FastPath

open Std

/-- One answer for each table. -/
def TableLabel.pick (downstream4 upstream4 downstream6 upstream6 stats limit : Bool) :
    TableLabel → Bool
  | .downstream4 => downstream4
  | .upstream4 => upstream4
  | .downstream6 => downstream6
  | .upstream6 => upstream6
  | .stats => stats
  | .limit => limit

namespace Stores

/-- The stores with a rule installed. -/
def install (b : Backend) (r : Rule) (x : Stores) : Stores :=
  match b with
  | .tables => x.edit .downstream6 (·.insert r.key r.target)
  | .daemon =>
    { x with daemon := { x.daemon with rules := x.daemon.rules.insert r.parcel.key r.parcel } }
  | .rehearsal => x

/-- The stores with a rule removed. -/
def uninstall (b : Backend) (r : Rule) (x : Stores) : Stores :=
  match b with
  | .tables => x.edit .downstream6 (·.erase r.key)
  | .daemon => { x with daemon := { x.daemon with rules := x.daemon.rules.erase r.parcel.key } }
  | .rehearsal => x

/-- The stores with a downstream interface bound to an upstream. -/
def bind (b : Backend) (d u : IfIndex) (x : Stores) : Stores :=
  match b with
  | .tables => x.edit .upstream6 (·.insert d (.binding u))
  | _ => x

/-- The stores without the binding of a downstream interface. -/
def unbind (b : Backend) (d : IfIndex) (x : Stores) : Stores :=
  match b with
  | .tables => x.edit .upstream6 (·.erase d)
  | _ => x

/-- The stores with counters for an interface; those that exist go on. -/
def openCounters (b : Backend) (i : IfIndex) (x : Stores) : Stores :=
  match b with
  | .tables => if i ∈ x.kernel.stats then x else x.edit .stats (·.insert i .zero)
  | _ => x

/-- The stores with a limit on an interface. -/
def setLimit (b : Backend) (i : IfIndex) (quota : Quota) (x : Stores) : Stores :=
  match b with
  | .tables => x.edit .limit (·.insert i quota)
  | .daemon => { x with daemon := { x.daemon with quotas := x.daemon.quotas.insert i quota } }
  | .rehearsal => x

/-- The stores without the counters of an interface. The daemon forgets its limit with them. -/
def closeCounters (b : Backend) (i : IfIndex) (x : Stores) : Stores :=
  match b with
  | .tables => x.edit .stats (·.erase i)
  | .daemon => { x with daemon := { x.daemon with
      stats := x.daemon.stats.erase i, quotas := x.daemon.quotas.erase i } }
  | .rehearsal => { x with daemon := { x.daemon with stats := x.daemon.stats.erase i } }

/-- The stores without the limit of an interface, where limits are kept apart from counters. -/
def dropLimit (b : Backend) (i : IfIndex) (x : Stores) : Stores :=
  match b with
  | .tables => x.edit .limit (·.erase i)
  | _ => x

/-- The stores with some tables cleared. The daemon keeps its own. -/
def clear (b : Backend) (cleared : TableLabel → Bool) (x : Stores) : Stores :=
  match b with
  | .tables => { x with kernel := {
      downstream4 := if cleared .downstream4 then ∅ else x.kernel.downstream4
      upstream4 := if cleared .upstream4 then ∅ else x.kernel.upstream4
      downstream6 := if cleared .downstream6 then ∅ else x.kernel.downstream6
      upstream6 := if cleared .upstream6 then ∅ else x.kernel.upstream6
      stats := if cleared .stats then ∅ else x.kernel.stats
      limit := if cleared .limit then ∅ else x.kernel.limit } }
  | _ => x

/-- The interface has counters that a limit can stand beside. -/
def HasCounters (b : Backend) (i : IfIndex) (x : Stores) : Prop :=
  b = .tables → i ∈ x.kernel.stats

/-- The traffic that has been counted for an interface; without counters there is none. -/
def counted (b : Backend) (i : IfIndex) (x : Stores) : Traffic :=
  match b with
  | .tables => (x.kernel.stats[i]?.map Counters.traffic).getD .zero
  | _ => x.daemon.stats.getD i .zero

/-- The readings of all interfaces with counters. -/
def readings (b : Backend) (x : Stores) : List InterfaceTraffic :=
  match b with
  | .tables => x.kernel.stats.toList.map fun (i, c) => ⟨i, c.traffic⟩
  | _ => x.daemon.stats.toList.map fun (i, t) => ⟨i, t⟩

/-- The index under which the final reading of an interface is reported. -/
def reportedAs (b : Backend) (i : IfIndex) (x : Stores) : IfIndex :=
  match b with
  | .daemon => x.daemon.reportedAs.getD i i
  | _ => i

/-- Counters that are there have counted the traffic that they stand for. -/
theorem counted_of_getElem? {i : IfIndex} {c : Counters} {x : Stores}
    (h : x.kernel.stats[i]? = some c) : x.counted .tables i = c.traffic := by
  show (x.kernel.stats[i]?.map Counters.traffic).getD .zero = c.traffic
  rw [h]
  rfl

end Stores

namespace Platform

variable {p q : Platform}

/-- The platform `q` comes after `p` and keeps the stores `x`, and what was written in between is
the request, refused or not, and the inner entries of serving it. -/
structure Serves (p : Platform) (r : Request) (x : Stores) (q : Platform) : Prop where
  stores : q.stores = x
  refuses : q.refuses = p.refuses
  past : ∃ (es : List Entry) (refusal : Option String), (∀ e ∈ es, e.isInner) ∧
    q.past = es ++ .call (.request r) (refusal.map .refused) :: p.past

/-- A request failed since a call was refused, and left the stores `x`. -/
def Denied (p : Platform) (r : Request) (x : Stores) (res : Except Failure α) (q : Platform) :
    Prop :=
  (∃ f, res = .error f) ∧ p.Serves r x q ∧ p.Refuses

/-- The steps after a request are part of serving it. -/
theorem Serves.trans {r : Request} {m : Platform} {x y : Stores} (h : p.Serves r x m)
    (h' : m.Leads y q) : p.Serves r y q := by
  obtain ⟨es, refusal, hes, hm⟩ := h.past
  obtain ⟨es', hes', hq⟩ := h'.past
  refine ⟨h'.stores, h'.refuses.trans h.refuses, es' ++ es, refusal, ?_, ?_⟩
  · exact List.forall_mem_append.mpr ⟨hes', hes⟩
  · rw [hq, hm, List.append_assoc]

/-- A remark is part of serving a request. -/
theorem Serves.note {r : Request} {m : Platform} {x : Stores} {n : Notice} (h : p.Serves r x m)
    (hn : n.isRemark) : p.Serves r x (m.note n) := by
  obtain rfl := h.stores
  exact h.trans (leads_push m hn)

/-- A refusal while a request is served is a refusal of the platform before it. -/
theorem Serves.refuses_of {r : Request} {x : Stores} (h : p.Serves r x q) (hq : q.Refuses) :
    p.Refuses := by
  obtain ⟨es, refusal, -, hpast⟩ := h.past
  obtain ⟨es', c, hbackend, hc⟩ := hq
  refine ⟨es' ++ (es ++ [.call (.request r) (refusal.map .refused)]), c, hbackend, ?_⟩
  rwa [List.append_assoc, List.append_assoc, List.singleton_append, ← hpast, ← h.refuses]

/-- A request is denied if a call is refused while it is served. -/
theorem Serves.denied {r : Request} {m : Platform} {x : Stores} {res : Except Failure α}
    (h : p.Serves r x m) (h' : m.Refused res q) : p.Denied r x res q := by
  obtain ⟨hf, hl, hr⟩ := h'
  rw [h.stores] at hl
  exact ⟨hf, h.trans hl, h.refuses_of hr⟩

/-- A step in serving a request is refused or leads to the stores `y`. -/
theorem Serves.within_cases {r : Request} {m : Platform} {y z : Stores} {a : Attempt} {x : Act α}
    {v : α} {res : Except Failure α} (hm : p.Serves r y m)
    (hx : ∀ {res'}, m.perform x = (res', q) → m.Refused res' q ∨ (res' = .ok v ∧ m.Leads z q))
    (h : m.perform (x.within a) = (res, q)) :
    p.Denied r y res q ∨ (res = .ok v ∧ p.Serves r z q) := by
  obtain ⟨res', h, hok, herror⟩ := perform_within_cases h
  rcases hx h with ⟨⟨e, he⟩, hl, hr⟩ | ⟨hv, hl⟩
  · exact .inl (hm.denied ⟨herror e he, hl, hr⟩)
  · exact .inr ⟨hok v hv, hm.trans hl⟩

/-- A step in serving a request is refused, or the steps after it follow with the stores `z`. -/
theorem Serves.within_bind_cases {r : Request} {m : Platform} {y z : Stores} {a : Attempt}
    {x : Act α} {v : α} {f : α → Act β} {res : Except Failure β} (hm : p.Serves r y m)
    (hx : ∀ {res' k}, m.perform x = (res', k) → m.Refused res' k ∨ (res' = .ok v ∧ m.Leads z k))
    (h : m.perform (x.within a >>= f) = (res, q)) :
    p.Denied r y res q ∨ ∃ k, p.Serves r z k ∧ k.perform (f v) = (res, q) := by
  rcases hstep : m.perform (x.within a) with ⟨res', k⟩
  rw [perform_bind, hstep] at h
  rcases hm.within_cases hx hstep with ⟨⟨e, rfl⟩, hs, hr⟩ | ⟨rfl, hs⟩
  · obtain ⟨rfl, rfl⟩ := Prod.mk.inj h
    exact .inl ⟨⟨e, rfl⟩, hs, hr⟩
  · exact .inr ⟨k, hs, h⟩

end Platform

namespace TableBackend

open Platform

variable {p q m : Platform} {r : Request} {x : Stores}

/-- A deletion in a table that is remarked on when there was nothing to delete. -/
theorem delete_remark_cases {κ ν : Type} [Ord κ] [TransOrd κ] {s : Slot κ ν} {key : κ}
    {a : Attempt} {n : Notice} {res : Except Failure PUnit}
    (hm : p.Serves r x m) (hn : n.isRemark)
    (h : m.perform (do
      let found ← (s.delete key).within a
      if !found then Act.note n) = (res, q)) :
    p.Denied r x res q ∨ (res = .ok ⟨⟩ ∧ p.Serves r (x.edit s (·.erase key)) q) := by
  obtain rfl := hm.stores
  rcases hm.within_bind_cases Slot.delete_cases h with hd | ⟨k, hs, h⟩
  · exact .inl hd
  · obtain ⟨rfl, hl⟩ := perform_remark_cases hn h
    rw [hs.stores] at hl
    exact .inr ⟨rfl, hs.trans hl⟩

/-- The limit is updated last. -/
theorem updateLimit_cases {r : Request} {m : Platform} {x : Stores} {i : IfIndex} {quota : Quota}
    {res : Except Failure Unit} (hm : p.Serves r x m)
    (h : m.perform ((Slot.limit.update i quota).within (.updateLimit i)) = (res, q)) :
    p.Denied r x res q ∨
      (res = .ok () ∧ p.Serves r (x.setLimit .tables i quota) q) := by
  obtain rfl := hm.stores
  exact hm.within_cases Slot.update_cases h

/-- An interface without counters gets them, unless that is refused. -/
theorem insertStats_cases {i : IfIndex} {res : Except Failure Unit} (hfree : i ∉ p.kernel.stats)
    (h : p.perform (Slot.stats.insert i .zero) = (res, q)) :
    p.Refused res q ∨ (res = .ok () ∧ p.Leads (p.stores.openCounters .tables i) q) := by
  have hopen : p.stores.openCounters .tables i = p.stores.edit .stats (·.insert i .zero) :=
    if_neg hfree
  rw [hopen]
  rcases Slot.insert_cases h with hr | ⟨-, hkey, -⟩ | ⟨hr, -, hl⟩
  · exact .inl hr
  · exact absurd hkey hfree
  · exact .inr ⟨hr, hl⟩

/-- A limit is set beside counters, which have to be there except for the first limit. -/
theorem setQuota_cases {i : IfIndex} {quota : Quota} {isFirst : Bool} {res : Except Failure Unit}
    (hm : p.Serves r x m) (h : m.perform (setQuota i quota isFirst) = (res, q)) :
    p.Denied r x res q ∨ (p.Denied r (x.openCounters .tables i) res q ∧ isFirst) ∨
      ((∃ f, res = .error f) ∧ p.Serves r x q ∧ i ∉ x.kernel.stats ∧ !isFirst) ∨
      (res = .ok () ∧ (isFirst ∨ i ∈ x.kernel.stats) ∧ p.Serves r
        ((if isFirst then x.openCounters .tables i else x).setLimit .tables i quota) q) := by
  obtain rfl := hm.stores
  rw [setQuota] at h
  rcases hm.within_bind_cases Slot.get_cases h with hd | ⟨k, hs, h⟩
  · exact .inl hd
  -- The rest goes by whether there are counters, and whether there have to be.
  by_cases hc : i ∈ m.stores.kernel.stats
  · obtain ⟨c, hget⟩ : ∃ c, (Slot.stats.read m.stores.kernel)[i]? = some c :=
      Option.isSome_iff_exists.mp (ExtTreeMap.mem_iff_isSome_getElem?.mp hc)
    rw [hget] at h
    have hlast : ∃ l, p.Serves r m.stores l ∧
        l.perform ((Slot.limit.update i quota).within (.updateLimit i)) = (res, q) := by
      cases isFirst
      · exact ⟨k, hs, h⟩
      · exact ⟨k.note (.statsEntryKept i), hs.note rfl, h⟩
    obtain ⟨l, hl, h⟩ := hlast
    have hopen : m.stores.openCounters .tables i = m.stores := if_pos hc
    rw [hopen, ite_self]
    rcases updateLimit_cases hl h with hd | ⟨hr, hq⟩
    · exact .inl hd
    · exact .inr (.inr (.inr ⟨hr, .inr hc, hq⟩))
  · have hget : (Slot.stats.read m.stores.kernel)[i]? = none := ExtTreeMap.getElem?_eq_none hc
    rw [hget] at h
    cases isFirst with
    | false =>
      obtain ⟨rfl, rfl⟩ := Prod.mk.inj h
      exact .inr (.inr (.inl ⟨⟨_, rfl⟩, hs, hc, rfl⟩))
    | true =>
      -- The counters come before the limit, so a refused limit leaves them behind.
      generalize m.stores = x at hs hc ⊢
      obtain rfl := hs.stores
      rcases hs.within_bind_cases (insertStats_cases hc) h with hd | ⟨l, hl, h⟩
      · exact .inl hd
      · rcases updateLimit_cases hl h with hd | ⟨hr, hq⟩
        · exact .inr (.inl ⟨hd, rfl⟩)
        · exact .inr (.inr (.inr ⟨hr, .inl rfl, hq⟩))

/-- Deleting the limit of an interface never fails, but the limit can stay. -/
theorem dropLimit_cases {i : IfIndex} {t : InterfaceTraffic} {res : Except Failure InterfaceTraffic}
    (hm : p.Serves r x m)
    (h : m.perform (do
      match ← (Slot.limit.delete i).outcome with
      | .ok true => pure ()
      | .ok false => Act.note (.noLimitEntry i)
      | .error f => Act.note (.limitNotDeleted i f)
      return t) = (res, q)) :
    res = .ok t ∧ (p.Serves r (x.dropLimit .tables i) q ∨ p.Serves r x q ∧ p.Refuses) := by
  obtain rfl := hm.stores
  rw [perform_bind, perform_outcome] at h
  rcases hdelete : m.perform (Slot.limit.delete i) with ⟨res', k⟩
  rw [hdelete] at h
  rcases Slot.delete_cases hdelete with ⟨⟨f, rfl⟩, hl, hr⟩ | ⟨rfl, hl⟩
  · obtain ⟨rfl, rfl⟩ := Prod.mk.inj h
    exact ⟨rfl, .inr ⟨(hm.trans hl).note rfl, hm.refuses_of hr⟩⟩
  · generalize decide (i ∈ Slot.limit.read m.stores.kernel) = found at h
    cases found
    · obtain ⟨rfl, rfl⟩ := Prod.mk.inj h
      exact ⟨rfl, .inl ((hm.trans hl).note rfl)⟩
    · obtain ⟨rfl, rfl⟩ := Prod.mk.inj h
      exact ⟨rfl, .inl (hm.trans hl)⟩

/-- The final reading of counters is given once they are deleted, whatever becomes of the limit. -/
theorem readAndClear_cases {i : IfIndex} {res : Except Failure InterfaceTraffic}
    (hm : p.Serves r x m) (h : m.perform (readAndClear i) = (res, q)) :
    p.Denied r x res q ∨
      ((∃ f, res = .error f) ∧ p.Serves r x q ∧ i ∉ x.kernel.stats) ∨
      (res = .ok ⟨i, x.counted .tables i⟩ ∧ i ∈ x.kernel.stats ∧
        (p.Serves r ((x.closeCounters .tables i).dropLimit .tables i) q ∨
          p.Serves r (x.closeCounters .tables i) q ∧ p.Refuses)) := by
  obtain rfl := hm.stores
  rw [readAndClear] at h
  rcases hm.within_bind_cases Slot.get_cases h with hd | ⟨k, hs, h⟩
  · exact .inl hd
  by_cases hc : i ∈ m.stores.kernel.stats
  · obtain ⟨c, hget⟩ : ∃ c, (Slot.stats.read m.stores.kernel)[i]? = some c :=
      Option.isSome_iff_exists.mp (ExtTreeMap.mem_iff_isSome_getElem?.mp hc)
    rw [hget] at h
    rw [Stores.counted_of_getElem? hget]
    generalize m.stores = x at hs hc ⊢
    obtain rfl := hs.stores
    rcases hs.within_bind_cases Slot.delete_cases h with hd | ⟨l, hl, h⟩
    · exact .inl hd
    · obtain ⟨hr, hq⟩ := dropLimit_cases hl h
      exact .inr (.inr ⟨hr, hc, hq⟩)
  · have hget : (Slot.stats.read m.stores.kernel)[i]? = none := ExtTreeMap.getElem?_eq_none hc
    rw [hget] at h
    obtain ⟨rfl, rfl⟩ := Prod.mk.inj h
    exact .inr (.inl ⟨⟨_, rfl⟩, hs, hc⟩)

/-- A table is cleared, or it is as it was since that was refused, as the journal shows. The steps
after it follow either way. -/
theorem clearTable_bind_cases {κ ν : Type} [Ord κ] [TransOrd κ] {s : Slot κ ν} {label : TableLabel}
    {f : List (TableLabel × String) → Act Unit} {res : Except Failure Unit}
    (hwrite : ∀ k, s.write (s.read k) k = k) (hm : p.Serves r x m)
    (h : m.perform (clearTable label s.clear >>= f) = (res, q)) :
    ∃ refusals k, p.Serves r (x.edit s fun t => if refusals.isEmpty then ∅ else t) k ∧
      m.past <:+ k.past ∧
      (refusals = [] ∨ p.Refuses ∧ m.Shows (Entry.isUncleared s.label) k) ∧
      k.perform (f refusals) = (res, q) := by
  obtain rfl := hm.stores
  rw [perform_bind, clearTable, perform_bind, perform_outcome] at h
  rcases hclear : m.perform s.clear with ⟨res', k⟩
  rw [hclear] at h
  rcases Slot.clear_cases hclear with ⟨⟨⟨e, rfl⟩, hl, hr⟩, hshown⟩ | ⟨rfl, hl⟩
  · -- A table that was not cleared is as if it had been written back.
    have hkeep : (m.stores.edit s fun t => if false then ∅ else t) = m.stores :=
      congrArg (Stores.mk · m.stores.daemon) (hwrite _)
    rw [← hkeep] at hl
    exact ⟨[(label, e.text)], k, hm.trans hl, hl.past.past_suffix, .inr ⟨hm.refuses_of hr, hshown⟩,
      h⟩
  · exact ⟨[], k, hm.trans hl, hl.past.past_suffix, .inl rfl, h⟩

/-- Each table is cleared whatever becomes of the others, or the journal shows that it was not. The
request fails if one was not. -/
theorem clearAll_cases {res : Except Failure Unit} (hm : p.Serves r x m)
    (h : m.perform clearAll = (res, q)) :
    ∃ cleared, p.Serves r (x.clear .tables cleared) q ∧
      (∀ t, cleared t ∨ m.Shows (Entry.isUncleared t) q) ∧
      ((res = .ok () ∧ ∀ t, cleared t) ∨ ((∃ f, res = .error f) ∧ p.Refuses)) := by
  rw [clearAll] at h
  -- Of each table `rₙ` are the refusals and `eₙ` says that there are none but for a refused call.
  obtain ⟨r₁, k₁, h₁, p₁, e₁, h⟩ := clearTable_bind_cases (fun _ => rfl) hm h
  obtain ⟨r₂, k₂, h₂, p₂, e₂, h⟩ := clearTable_bind_cases (fun _ => rfl) h₁ h
  obtain ⟨r₃, k₃, h₃, p₃, e₃, h⟩ := clearTable_bind_cases (fun _ => rfl) h₂ h
  obtain ⟨r₄, k₄, h₄, p₄, e₄, h⟩ := clearTable_bind_cases (fun _ => rfl) h₃ h
  obtain ⟨r₅, k₅, h₅, p₅, e₅, h⟩ := clearTable_bind_cases (fun _ => rfl) h₄ h
  obtain ⟨r₆, k₆, h₆, p₆, e₆, h⟩ := clearTable_bind_cases (fun _ => rfl) h₅ h
  dsimp only at h
  have hend : p.Serves r (x.clear .tables
      (TableLabel.pick r₁.isEmpty r₂.isEmpty r₃.isEmpty r₄.isEmpty r₅.isEmpty r₆.isEmpty)) q ∧
      k₆.past <:+ q.past ∧ ((res = .ok () ∧ [r₁, r₂, r₃, r₄, r₅, r₆].flatten = []) ∨
        ((∃ f, res = .error f) ∧ [r₁, r₂, r₃, r₄, r₅, r₆].flatten ≠ [])) := by
    split at h
    · rename_i hnone
      obtain ⟨rfl, rfl⟩ := Prod.mk.inj h
      exact ⟨h₆.note rfl, List.suffix_cons .., .inl ⟨rfl, List.isEmpty_iff.mp hnone⟩⟩
    · rename_i hsome
      obtain ⟨rfl, rfl⟩ := Prod.mk.inj h
      exact ⟨h₆, List.suffix_rfl, .inr ⟨⟨_, rfl⟩, mt List.isEmpty_iff.mpr hsome⟩⟩
  obtain ⟨hserves, p₇, hres⟩ := hend
  refine ⟨_, hserves, fun t => ?_, ?_⟩
  · have hshown : ∀ {refusals : List (TableLabel × String)} {k l : Platform},
        m.past <:+ k.past → l.past <:+ q.past →
        (refusals = [] ∨ p.Refuses ∧ k.Shows (Entry.isUncleared t) l) →
        refusals.isEmpty ∨ m.Shows (Entry.isUncleared t) q :=
      fun hk hl he => he.imp List.isEmpty_iff.mpr fun hs => hs.2.mono hk hl
    have q₅ := p₆.trans p₇
    have q₄ := p₅.trans q₅
    have q₃ := p₄.trans q₄
    have m₃ := (p₁.trans p₂).trans p₃
    cases t with
    | downstream4 => exact hshown List.suffix_rfl (p₂.trans (p₃.trans q₃)) e₁
    | upstream4 => exact hshown p₁ (p₃.trans q₃) e₂
    | downstream6 => exact hshown (p₁.trans p₂) q₃ e₃
    | upstream6 => exact hshown m₃ q₄ e₄
    | stats => exact hshown (m₃.trans p₄) q₅ e₅
    | limit => exact hshown ((m₃.trans p₄).trans p₅) p₇ e₆
  · refine hres.imp (fun ⟨hok, hnone⟩ => ⟨hok, fun t => ?_⟩) fun ⟨hf, hsome⟩ => ⟨hf, ?_⟩
    · have hempty := List.flatten_eq_nil_iff.mp hnone
      cases t <;> exact List.isEmpty_iff.mpr (hempty _ (by simp))
    · refine Classical.byContradiction fun hr => hsome ?_
      have hnone : ∀ {refusals : List (TableLabel × String)} {shown : Prop},
          (refusals = [] ∨ p.Refuses ∧ shown) → refusals = [] :=
        fun he => he.resolve_right fun hs => hr hs.1
      rw [hnone e₁, hnone e₂, hnone e₃, hnone e₄, hnone e₅, hnone e₆]
      rfl

end TableBackend

namespace Backend

open Platform

variable {b : Backend} {p q : Platform}

/-- A request is written down before it is served; it can be refused there only in a rehearsal. -/
theorem receive_bind_cases {r : Request} {f : PUnit → Act β} {res : Except Failure β}
    (h : p.perform (b.receive r >>= f) = (res, q)) :
    p.Denied r p.stores res q ∨ ∃ m, p.Serves r p.stores m ∧ m.perform (f ⟨⟩) = (res, q) := by
  cases b with
  | tables | daemon =>
    exact .inr ⟨p.announce (.request r), ⟨rfl, rfl, [], none, by simp, rfl⟩, h⟩
  | rehearsal =>
    rcases perform_bind_cases h with ⟨⟨⟩, m, ha, h⟩ | ⟨e, ha, rfl⟩ <;>
      rcases perform_ask_cases ha with ⟨-, hr, rfl⟩ | ⟨reason, hrefuse, hr, rfl⟩
    · exact .inr ⟨p.push (.call (.request r) none), ⟨rfl, rfl, [], none, by simp, rfl⟩, h⟩
    · cases hr
    · cases hr
    · refine .inl ⟨⟨e, rfl⟩, ⟨rfl, rfl, [], some reason, by simp, rfl⟩, [], .request r, rfl, ?_⟩
      rw [List.nil_append, hrefuse]
      rfl

/-- A rule is installed, unless that is refused. -/
theorem addRule_cases {r : Rule} {res : Except Failure Unit}
    (h : p.perform (b.addRule r) = (res, q)) :
    p.Denied (.addRule r) p.stores res q ∨
      (res = .ok () ∧ p.Serves (.addRule r) (p.stores.install b r) q) := by
  rcases receive_bind_cases h with hd | ⟨m, hm, h⟩
  · exact .inl hd
  generalize p.stores = x at hm ⊢
  obtain rfl := hm.stores
  cases b with
  | tables => exact hm.within_cases Slot.update_cases h
  | daemon => exact hm.within_cases Daemon.change_cases h
  | rehearsal =>
    obtain ⟨rfl, rfl⟩ := Prod.mk.inj h
    exact .inr ⟨rfl, hm.trans (.refl m)⟩

/-- A rule is removed, unless that is refused. It need not have been there. -/
theorem removeRule_cases {r : Rule} {res : Except Failure Unit}
    (h : p.perform (b.removeRule r) = (res, q)) :
    p.Denied (.removeRule r) p.stores res q ∨
      (res = .ok () ∧ p.Serves (.removeRule r) (p.stores.uninstall b r) q) := by
  rcases receive_bind_cases h with hd | ⟨m, hm, h⟩
  · exact .inl hd
  cases b with
  | tables => exact TableBackend.delete_remark_cases hm rfl h
  | daemon =>
    generalize p.stores = x at hm ⊢
    obtain rfl := hm.stores
    exact hm.within_cases Daemon.change_cases h
  | rehearsal =>
    obtain ⟨rfl, rfl⟩ := Prod.mk.inj h
    exact .inr ⟨rfl, hm⟩

/-- An interface is bound, unless that is refused or collides with a binding that the table has of
it already. -/
theorem startForwarding_cases {d u : IfIndex} {res : Except Failure Unit}
    (h : p.perform (b.startForwarding d u) = (res, q)) :
    p.Denied (.startForwarding d u) p.stores res q ∨
      ((∃ f, res = .error f) ∧ b = .tables ∧ d ∈ p.stores.kernel.upstream6 ∧
        ∃ m a, p.Serves (.startForwarding d u) p.stores m ∧
          q = m.push (.call (.table .upstream6 a) (some (.keyExists .upstream6)))) ∨
      (res = .ok () ∧ (b = .tables → d ∉ p.stores.kernel.upstream6) ∧
        p.Serves (.startForwarding d u) (p.stores.bind b d u) q) := by
  rcases receive_bind_cases h with hd | ⟨m, hm, h⟩
  · exact .inl hd
  cases b with
  | tables =>
    obtain ⟨res', h, hok, herror⟩ := perform_within_cases h
    rcases Slot.insert_cases h with ⟨⟨e, he⟩, hl, hr⟩ | ⟨⟨e, he⟩, hkey, hq⟩ | ⟨hr, hkey, hl⟩
    · exact .inl (hm.denied ⟨herror e he, hl, hr⟩)
    · rw [hm.stores] at hkey
      exact .inr (.inl ⟨herror e he, rfl, hkey, m, _, hm, hq⟩)
    · rw [hm.stores] at hkey hl
      exact .inr (.inr ⟨hok _ hr, fun _ => hkey, hm.trans hl⟩)
  | daemon | rehearsal =>
    obtain ⟨rfl, rfl⟩ := Prod.mk.inj h
    exact .inr (.inr ⟨rfl, nofun, hm⟩)

/-- A binding is removed, unless that is refused. It need not have been there. -/
theorem stopForwarding_cases {d u : IfIndex} {res : Except Failure Unit}
    (h : p.perform (b.stopForwarding d u) = (res, q)) :
    p.Denied (.stopForwarding d u) p.stores res q ∨
      (res = .ok () ∧ p.Serves (.stopForwarding d u) (p.stores.unbind b d) q) := by
  rcases receive_bind_cases h with hd | ⟨m, hm, h⟩
  · exact .inl hd
  cases b with
  | tables => exact TableBackend.delete_remark_cases hm rfl h
  | daemon | rehearsal =>
    obtain ⟨rfl, rfl⟩ := Prod.mk.inj h
    exact .inr ⟨rfl, hm⟩

/-- Reading gives every counter and changes none, unless it is refused. -/
theorem readAll_cases {res : Except Failure (List InterfaceTraffic)}
    (h : p.perform b.readAll = (res, q)) :
    p.Denied .readAll p.stores res q ∨
      (res = .ok (p.stores.readings b) ∧ p.Serves .readAll p.stores q) := by
  rcases receive_bind_cases h with hd | ⟨m, hm, h⟩
  · exact .inl hd
  generalize p.stores = x at hm ⊢
  obtain rfl := hm.stores
  cases b with
  | tables =>
    rcases hm.within_bind_cases Slot.entries_cases h with hd | ⟨k, hs, h⟩
    · exact .inl hd
    · obtain ⟨rfl, rfl⟩ := Prod.mk.inj h
      exact .inr ⟨rfl, hs⟩
  | daemon => exact hm.within_cases Daemon.getStats_cases h
  | rehearsal =>
    rw [perform_bind, perform_get] at h
    obtain ⟨rfl, rfl⟩ := Prod.mk.inj h
    exact .inr ⟨rfl, hm.trans (.refl m)⟩

/-- A limit is set, unless that is refused or the counters that it should stand beside are missing.
The first limit of an interface creates them, and they stay when the limit itself is refused. -/
theorem setQuota_cases {i : IfIndex} {quota : Quota} {isFirst : Bool} {res : Except Failure Unit}
    (h : p.perform (b.setQuota i quota isFirst) = (res, q)) :
    p.Denied (.setQuota i quota isFirst) p.stores res q ∨
      (p.Denied (.setQuota i quota isFirst) (p.stores.openCounters b i) res q ∧ isFirst) ∨
      ((∃ f, res = .error f) ∧ p.Serves (.setQuota i quota isFirst) p.stores q ∧
        ¬p.stores.HasCounters b i ∧ !isFirst) ∨
      (res = .ok () ∧ (isFirst ∨ p.stores.HasCounters b i) ∧
        p.Serves (.setQuota i quota isFirst)
          ((if isFirst then p.stores.openCounters b i else p.stores).setLimit b i quota) q) := by
  rcases receive_bind_cases h with hd | ⟨m, hm, h⟩
  · exact .inl hd
  cases b with
  | tables =>
    simp only [Stores.HasCounters, true_imp_iff]
    exact TableBackend.setQuota_cases hm h
  | daemon =>
    rcases hm.within_cases Daemon.change_cases h with hd | ⟨hr, hs⟩
    · exact .inl hd
    · refine .inr (.inr (.inr ⟨hr, .inr nofun, ?_⟩))
      rw [hm.stores] at hs
      cases isFirst <;> exact hs
  | rehearsal =>
    obtain ⟨rfl, rfl⟩ := Prod.mk.inj h
    refine .inr (.inr (.inr ⟨rfl, .inr nofun, ?_⟩))
    cases isFirst <;> exact hm

/-- The final reading of an interface is given once its counters are gone, unless that is refused
or there are none. The limit may stay. -/
theorem readAndClear_cases {i : IfIndex} {res : Except Failure InterfaceTraffic}
    (h : p.perform (b.readAndClear i) = (res, q)) :
    p.Denied (.readAndClear i) p.stores res q ∨
      ((∃ f, res = .error f) ∧ p.Serves (.readAndClear i) p.stores q ∧
        ¬p.stores.HasCounters b i) ∨
      (res = .ok ⟨p.stores.reportedAs b i, p.stores.counted b i⟩ ∧ p.stores.HasCounters b i ∧
        (p.Serves (.readAndClear i) ((p.stores.closeCounters b i).dropLimit b i) q ∨
          p.Serves (.readAndClear i) (p.stores.closeCounters b i) q ∧ p.Refuses)) := by
  rcases receive_bind_cases h with hd | ⟨m, hm, h⟩
  · exact .inl hd
  cases b with
  | tables =>
    simp only [Stores.HasCounters, true_imp_iff]
    exact TableBackend.readAndClear_cases hm h
  | daemon =>
    generalize p.stores = x at hm ⊢
    obtain rfl := hm.stores
    rcases hm.within_cases Daemon.getAndClear_cases h with hd | ⟨hr, hs⟩
    · exact .inl hd
    · exact .inr (.inr ⟨hr, nofun, .inl hs⟩)
  | rehearsal =>
    generalize p.stores = x at hm ⊢
    obtain rfl := hm.stores
    obtain ⟨rfl, rfl⟩ := Prod.mk.inj h
    have hl := Daemon.leads_change (.refl m) fun d => { d with stats := d.stats.erase i }
    exact .inr (.inr ⟨rfl, nofun, .inl (hm.trans hl)⟩)

/-- Leftovers are dropped from the tables, or the journal shows that they were not; the request
fails if some had to stay. -/
theorem clearAll_cases {res : Except Failure Unit} (h : p.perform b.clearAll = (res, q)) :
    ∃ cleared, p.Serves .clearAll (p.stores.clear b cleared) q ∧
      (b = .tables → ∀ t, cleared t ∨ p.Shows (Entry.isUncleared t) q) ∧
      ((res = .ok () ∧ ∀ t, cleared t) ∨ ((∃ f, res = .error f) ∧ p.Refuses)) := by
  cases b with
  | tables =>
    have hm : p.Serves .clearAll p.stores (p.announce (.request .clearAll)) :=
      ⟨rfl, rfl, [], none, by simp, rfl⟩
    obtain ⟨cleared, hs, hshown, hres⟩ := TableBackend.clearAll_cases hm h
    exact ⟨cleared, hs, fun _ t => (hshown t).imp_right (·.mono (List.suffix_cons ..)
      List.suffix_rfl), hres⟩
  | daemon | rehearsal =>
    -- Nothing is cleared, be the request let through or not.
    rcases receive_bind_cases h with ⟨hf, hs, hr⟩ | ⟨m, hm, h⟩
    · exact ⟨fun _ => false, hs, nofun, .inr ⟨hf, hr⟩⟩
    · obtain ⟨rfl, rfl⟩ := Prod.mk.inj h
      exact ⟨fun _ => true, hm, nofun, .inl ⟨rfl, fun _ => rfl⟩⟩

end Backend

end FastPath
