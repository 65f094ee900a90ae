import FastPath.Upstream
import FastPath.Proofs.Registry

/-!
# Accounts of upstreams

The account of an upstream is what names, rules and readings make of its record, apart from its
limit and its alert. An upstream without a record has the account of a fresh one, so that no lemma
needs to ask whether there is a record. Each operation on the table is described by the accounts
after it; the ones about limits and alerts leave all accounts as they are.
-/

namespace FastPath

open Std

/-- What names, rules and readings make of an upstream. -/
structure Account where
  name : Option String
  lastRead : Traffic
  published : Traffic
  pending : Traffic
  ruleCount : Nat

/-- The account of an upstream. -/
def Upstream.account (u : Upstream) : Account :=
  ⟨u.name, u.lastRead, u.published, u.pending, u.ruleCount⟩

namespace Account

/-- The account of an upstream about which nothing is known. -/
def fresh : Account := ⟨none, .zero, .zero, .zero, 0⟩

/-- The traffic since the last publication. -/
def unpublished (a : Account) : Traffic :=
  (a.lastRead.since a.published).add a.pending

/-- The account once its traffic has been published. -/
def settle (a : Account) : Account :=
  { a with published := a.lastRead, pending := .zero }

/-- The account once its counters have been cleared, with `last` as their final reading. -/
def fold (a : Account) (last : Traffic) : Account :=
  { a with
    pending := a.pending.add (last.since a.published)
    lastRead := .zero
    published := .zero }

end Account

namespace UpstreamTable

/-- The account of an upstream, with a record or without. -/
def account (t : UpstreamTable) (i : IfIndex) : Account :=
  (t.findOrFresh i).account

variable (t : UpstreamTable) (i j : IfIndex)

/-- The count of rules is that of the account. -/
theorem ruleCount_eq : t.ruleCount i = (t.account i).ruleCount := by
  rw [ruleCount, account, findOrFresh]
  cases t.records[i]? <;> rfl

/-- The name is that of the account. -/
theorem nameOf_eq : t.nameOf i = (t.account i).name := by
  rw [nameOf, account, findOrFresh]
  cases t.records[i]? <;> rfl

/-- Changing one record changes what there is of it, and no other. -/
theorem findOrFresh_modify (f : Upstream → Upstream) :
    (t.modify i f).findOrFresh j = if i = j then f (t.findOrFresh i) else t.findOrFresh j := by
  simp only [modify, set, findOrFresh, ExtTreeMap.getElem?_insert, Std.compare_eq_iff_eq]
  split <;> rfl

/-- Accounts are made of records alone. -/
theorem account_congr {t' : UpstreamTable} (h : t'.records = t.records) :
    t'.account i = t.account i := by
  rw [account, findOrFresh, h, account, findOrFresh]
  cases t.records[i]? <;> rfl

/-- A change of one record that is nothing to what is observed of it. -/
theorem observe_modify {g : Upstream → α} {f : Upstream → Upstream} (h : ∀ u, g (f u) = g u) :
    g ((t.modify i f).findOrFresh j) = g (t.findOrFresh j) := by
  rw [findOrFresh_modify]
  split
  · rename_i hij
    rw [h, hij]
  · rfl

/-- A change of one record that is nothing to its account. -/
theorem account_modify {f : Upstream → Upstream} (h : ∀ u, (f u).account = u.account) :
    (t.modify i f).account j = t.account j :=
  t.observe_modify i j h

/-- A name is given to one account. -/
theorem account_setName (name : String) :
    (t.setName i name).account j =
      if i = j then { t.account i with name := some name } else t.account j := by
  rw [account, setName, findOrFresh_modify]
  split <;> rfl

/-- A rule is counted in one account. -/
theorem account_acquire :
    (t.acquire i).account j =
      if i = j then { t.account i with ruleCount := (t.account i).ruleCount + 1 }
      else t.account j := by
  rw [account, acquire, findOrFresh_modify]
  split <;> rfl

/-- A rule is no longer counted in one account, if one was. -/
theorem account_release :
    (t.release i).account j =
      if i = j then { t.account i with ruleCount := (t.account i).ruleCount - 1 }
      else t.account j := by
  rw [release]
  split
  · -- No rule is counted, and subtraction stops at zero as well.
    rename_i hzero
    split
    · rename_i hij
      rw [ruleCount_eq] at hzero
      rw [← hij, hzero, Nat.zero_sub, ← hzero]
    · rfl
  · rw [account, findOrFresh_modify]
    split <;> rfl

/-- Counting a rule changes nothing of an account but the count of rules. -/
theorem exists_account_acquire :
    ∃ n, (t.acquire i).account j = { t.account j with ruleCount := n } := by
  rw [account_acquire]
  split
  · rename_i hij
    rw [hij]
    exact ⟨_, rfl⟩
  · exact ⟨(t.account j).ruleCount, rfl⟩

/-- Nor does counting it no longer. -/
theorem exists_account_release :
    ∃ n, (t.release i).account j = { t.account j with ruleCount := n } := by
  rw [account_release]
  split
  · rename_i hij
    rw [hij]
    exact ⟨_, rfl⟩
  · exact ⟨(t.account j).ruleCount, rfl⟩

/-- Cleared counters are folded into one account. -/
theorem account_foldFinal (last : InterfaceTraffic) :
    (t.foldFinal last).account j =
      if last.ifIndex = j then (t.account last.ifIndex).fold last.traffic else t.account j := by
  rw [account, foldFinal, findOrFresh_modify]
  split <;> rfl

/-- A reading is stored in one account. -/
theorem account_recordReading (reading : InterfaceTraffic) :
    (t.recordReading reading).account j =
      if reading.ifIndex = j then { t.account reading.ifIndex with lastRead := reading.traffic }
      else t.account j := by
  rw [account, recordReading, findOrFresh_modify]
  split <;> rfl

/-! ## Counts of rules -/

/-- A rule is counted once. -/
theorem ruleCount_acquire :
    (t.acquire i).ruleCount j = t.ruleCount j + if i = j then 1 else 0 := by
  rw [ruleCount_eq, account_acquire, ruleCount_eq]
  split
  · rename_i hij
    rw [hij]
  · rfl

/-- A rule is counted once less, if it was counted. -/
theorem ruleCount_release :
    (t.release i).ruleCount j = if i = j then t.ruleCount i - 1 else t.ruleCount j := by
  rw [ruleCount_eq, account_release, ruleCount_eq, ruleCount_eq]
  split <;> rfl

/-- A final reading is nothing to the counts. -/
theorem ruleCount_foldFinal (last : InterfaceTraffic) :
    (t.foldFinal last).ruleCount j = t.ruleCount j := by
  rw [ruleCount_eq, account_foldFinal, ruleCount_eq]
  split
  · rename_i hj
    rw [← hj]
    rfl
  · rfl

/-! ## All records at once -/

/-- A change of all records, by what it does to something that is observed of them. What is observed
of a fresh record has to change in the same way, since it may stand for no record. -/
theorem observe_map {t' : UpstreamTable} {f : Upstream → Upstream} {g : Upstream → α} (k : α → α)
    (ht : t'.records = t.records.map fun _ => f) (h : ∀ u, g (f u) = k (g u))
    (hfresh : g t'.fresh = k (g t.fresh)) : g (t'.findOrFresh i) = k (g (t.findOrFresh i)) := by
  simp only [findOrFresh, ht, ExtTreeMap.getElem?_map]
  cases t.records[i]? with
  | none => exact hfresh
  | some u => exact h u

/-- A change of all records, by what it does to their accounts. It has to leave a fresh account as
it is. -/
theorem account_map {t' : UpstreamTable} {f : Upstream → Upstream} (g : Account → Account)
    (ht : t'.records = t.records.map fun _ => f) (h : ∀ u, (f u).account = g u.account)
    (hfresh : g .fresh = .fresh) : t'.account i = g (t.account i) :=
  t.observe_map i g ht h hfresh.symm

/-- Every named account is settled by a publication. -/
theorem account_settle :
    t.settle.account i =
      if (t.account i).name.isSome then (t.account i).settle else t.account i := by
  refine account_map t i (fun a => if a.name.isSome then a.settle else a) rfl (fun u => ?_) rfl
  show Upstream.account (if u.name.isSome then u.settle else u) =
    if u.name.isSome then u.account.settle else u.account
  split <;> rfl

/-- The alert is nothing to the accounts. -/
theorem account_setAlert (alert : Quota) : (t.setAlert alert).account i = t.account i :=
  account_map t i id rfl (fun _ => rfl) rfl

/-- The firing of alerts is nothing to the accounts. -/
theorem account_fire : t.fire.account i = t.account i := by
  refine account_map t i id rfl (fun u => ?_) rfl
  split <;> rfl

/-! ## Limits -/

/-- The limit of an upstream, with a record or without. -/
def quota (t : UpstreamTable) (i : IfIndex) : Quota :=
  (t.findOrFresh i).quota

/-- A limit is given to one upstream. -/
theorem quota_modify (q : Quota) :
    (t.modify i fun u => { u with quota := q }).quota j = if i = j then q else t.quota j := by
  rw [quota, findOrFresh_modify]
  split <;> rfl

/-- A limit is nothing to the accounts. -/
theorem account_modify_quota (q : Quota) :
    (t.modify i fun u => { u with quota := q }).account j = t.account j :=
  t.account_modify i j fun _ => rfl

/-- Nor to the counts of rules. -/
theorem ruleCount_modify_quota (q : Quota) :
    (t.modify i fun u => { u with quota := q }).ruleCount j = t.ruleCount j := by
  rw [ruleCount_eq, account_modify_quota, ruleCount_eq]

/-- A name is nothing to the count of rules. -/
theorem ruleCount_setName (name : String) :
    (t.setName i name).ruleCount j = t.ruleCount j := by
  rw [ruleCount_eq, account_setName, ruleCount_eq]
  split
  · rename_i hij
    rw [← hij]
  · rfl

/-- A name is nothing to the limits. -/
theorem quota_setName (name : String) : (t.setName i name).quota j = t.quota j :=
  t.observe_modify i j fun _ => rfl

/-- Nor is a rule that is counted. -/
theorem quota_acquire : (t.acquire i).quota j = t.quota j :=
  t.observe_modify i j fun _ => rfl

/-- Nor is a rule that is no longer counted. -/
theorem quota_release : (t.release i).quota j = t.quota j := by
  rw [release]
  split
  · rfl
  · exact t.observe_modify i j fun _ => rfl

/-- Nor are cleared counters. -/
theorem quota_foldFinal (last : InterfaceTraffic) : (t.foldFinal last).quota j = t.quota j :=
  t.observe_modify _ j fun _ => rfl

/-- Nor are readings. -/
theorem quota_foldl_recordReading (readings : List InterfaceTraffic) :
    (readings.foldl recordReading t).quota j = t.quota j := by
  induction readings generalizing t with
  | nil => rfl
  | cons reading readings ih =>
    exact (ih (t.recordReading reading)).trans (t.observe_modify _ j fun _ => rfl)

/-- Nor is a publication. -/
theorem quota_settle : t.settle.quota i = t.quota i := by
  refine t.observe_map i id rfl (fun u => ?_) rfl
  split <;> rfl

/-- Nor is the alert. -/
theorem quota_setAlert (alert : Quota) : (t.setAlert alert).quota i = t.quota i :=
  t.observe_map i id rfl (fun _ => rfl) rfl

/-- Nor is the firing of alerts. -/
theorem quota_fire : t.fire.quota i = t.quota i := by
  refine t.observe_map i id rfl (fun u => ?_) rfl
  split <;> rfl

/-- Limits are made of records alone. -/
theorem quota_congr {t' : UpstreamTable} (h : t'.records = t.records) : t'.quota i = t.quota i := by
  rw [quota, findOrFresh, h, quota, findOrFresh]
  cases t.records[i]? <;> rfl

/-! ## Names -/

/-- The upstream that is found by a name is the first one that has the name. -/
theorem findByName_eq_some_iff (name : String) :
    t.findByName name = some i ↔
      t.nameOf i = some name ∧ ∀ j, t.nameOf j = some name → i ≤ j := by
  have hmem : ∀ j u, (j, u) ∈ t.records.toList ↔ t.records[j]? = some u := fun _ _ =>
    ExtTreeMap.mem_toList_iff_getElem?_eq_some
  have hname : ∀ j, t.nameOf j = some name ↔
      ∃ u, (j, u) ∈ t.records.toList ∧ u.name = some name := by
    intro j
    simp only [hmem, nameOf, Option.bind_eq_some_iff]
  simp only [hname, findByName, Option.map_eq_some_iff]
  have hsorted := t.records.ordered_keys_toList
  constructor
  · rintro ⟨⟨i', u⟩, hfind, rfl⟩
    obtain ⟨hu, before, after, hlist, hbefore⟩ := List.find?_eq_some_iff_append.mp hfind
    have hu : u.name = some name := of_decide_eq_true hu
    rw [hlist] at hsorted ⊢
    refine ⟨⟨u, by simp, hu⟩, ?_⟩
    rintro j ⟨v, hv, hvname⟩
    -- An entry with the name is not in front of the one that was found.
    rcases List.mem_append.mp hv with hv | hv
    · exact absurd (hbefore _ hv) (by simp [hvname])
    · rcases List.mem_cons.mp hv with heq | hv
      · obtain ⟨rfl, -⟩ := Prod.mk.inj heq
        exact UInt32.le_refl _
      · have hrest := (List.pairwise_append.mp hsorted).2.1
        exact UInt32.le_of_lt (Std.compare_eq_lt.mp (List.rel_of_pairwise_cons hrest hv))
  · rintro ⟨⟨u, hu, huname⟩, hfirst⟩
    -- Some entry is found, and the found one and this one are not behind each other.
    have hsome : (t.records.toList.find? fun e => e.2.name = some name).isSome :=
      List.find?_isSome.mpr ⟨(i, u), hu, decide_eq_true huname⟩
    obtain ⟨⟨j, v⟩, hfind⟩ := Option.isSome_iff_exists.mp hsome
    refine ⟨(j, v), hfind, ?_⟩
    have hentry := List.mem_of_find?_eq_some hfind
    obtain ⟨hv, before, after, hlist, hbefore⟩ := List.find?_eq_some_iff_append.mp hfind
    have hij : i ≤ j := hfirst j ⟨v, hentry, of_decide_eq_true hv⟩
    rw [hlist] at hsorted hu
    rcases List.mem_append.mp hu with hu | hu
    · exact absurd (hbefore _ hu) (by simp [huname])
    · rcases List.mem_cons.mp hu with heq | hu
      · exact (Prod.mk.inj heq).1.symm
      · have hrest := (List.pairwise_append.mp hsorted).2.1
        have hji : j < i := Std.compare_eq_lt.mp (List.rel_of_pairwise_cons hrest hu)
        exact absurd hji (UInt32.not_lt.mpr hij)

/-! ## Readings and publications -/

/-- An upstream with a name has a record. -/
theorem exists_record {name : String} (h : (t.account i).name = some name) :
    ∃ u, t.records[i]? = some u ∧ u.account = t.account i := by
  rw [account, findOrFresh] at h ⊢
  cases hget : t.records[i]? with
  | none =>
    rw [hget] at h
    cases h
  | some u => exact ⟨u, rfl, rfl⟩

/-- Readings change nothing of an account but what was read last. -/
theorem exists_account_foldl_recordReading (readings : List InterfaceTraffic) :
    ∃ last, (readings.foldl recordReading t).account j = { t.account j with lastRead := last } := by
  induction readings generalizing t with
  | nil => exact ⟨(t.account j).lastRead, rfl⟩
  | cons reading readings ih =>
    obtain ⟨last, h⟩ := ih (t.recordReading reading)
    refine ⟨last, h.trans ?_⟩
    rw [account_recordReading]
    split
    · rename_i hij
      rw [hij]
    · rfl

/-- A reading is stored in one record. -/
theorem records_recordReading (reading : InterfaceTraffic) :
    (t.recordReading reading).records[j]? = if reading.ifIndex = j
      then some { t.findOrFresh reading.ifIndex with lastRead := reading.traffic }
      else t.records[j]? := by
  simp only [recordReading, modify, set, ExtTreeMap.getElem?_insert, Std.compare_eq_iff_eq]

/-- Readings of different upstreams are stored in the record of each, and in no other. -/
theorem records_foldl_recordReading {readings : List InterfaceTraffic}
    (h : (readings.map InterfaceTraffic.ifIndex).Nodup) :
    (∀ r ∈ readings, (readings.foldl recordReading t).records[r.ifIndex]? =
        some { t.findOrFresh r.ifIndex with lastRead := r.traffic }) ∧
      ∀ j ∉ readings.map InterfaceTraffic.ifIndex,
        (readings.foldl recordReading t).records[j]? = t.records[j]? := by
  induction readings generalizing t with
  | nil => simp
  | cons reading readings ih =>
    rw [List.map_cons, List.nodup_cons] at h
    obtain ⟨hread, hother⟩ := ih (t.recordReading reading) h.2
    rw [List.foldl_cons]
    refine ⟨fun r hr => ?_, fun j hj => ?_⟩
    · -- The readings after the first are of other upstreams, so that none is stored twice.
      rcases List.mem_cons.mp hr with rfl | hr
      · rw [hother _ h.1, records_recordReading, if_pos rfl]
      · have hne : reading.ifIndex ≠ r.ifIndex := fun heq =>
          h.1 (heq ▸ List.mem_map_of_mem hr)
        rw [hread r hr, recordReading, findOrFresh_modify, if_neg hne]
    · rw [List.map_cons, List.mem_cons, not_or] at hj
      rw [hother j hj.2, records_recordReading, if_neg (Ne.symm hj.1)]

/-- Readings of different upstreams are stored in the account of each, and in no other. -/
theorem account_foldl_recordReading {readings : List InterfaceTraffic}
    (h : (readings.map InterfaceTraffic.ifIndex).Nodup) :
    (∀ r ∈ readings, (readings.foldl recordReading t).account r.ifIndex =
        { t.account r.ifIndex with lastRead := r.traffic }) ∧
      ∀ j ∉ readings.map InterfaceTraffic.ifIndex,
        (readings.foldl recordReading t).account j = t.account j := by
  obtain ⟨hread, hother⟩ := t.records_foldl_recordReading h
  refine ⟨fun r hr => ?_, fun j hj => ?_⟩
  · rw [account, findOrFresh, hread r hr]
    rfl
  · rw [account, findOrFresh, hother j hj, account, findOrFresh]
    cases t.records[j]? <;> rfl

/-- Readings change nothing of the table but its records. -/
theorem foldl_recordReading_eq (readings : List InterfaceTraffic) :
    readings.foldl recordReading t =
      { t with records := (readings.foldl recordReading t).records } := by
  induction readings generalizing t with
  | nil => rfl
  | cons reading readings ih => exact ih (t.recordReading reading)

/-- What is published under a name comes from an upstream with that name. -/
theorem exists_account_of_mem_deltas {t : UpstreamTable} {d : String × Traffic}
    (h : d ∈ t.deltas) : ∃ i, (t.account i).name = some d.1 := by
  obtain ⟨⟨i, u⟩, hentry, hd⟩ := List.mem_filterMap.mp h
  obtain ⟨name, hname, rfl⟩ := Option.map_eq_some_iff.mp hd
  refine ⟨i, ?_⟩
  rw [account, findOrFresh, ExtTreeMap.mem_toList_iff_getElem?_eq_some.mp hentry]
  exact hname

/-- Nothing is published under a name that no upstream has. -/
theorem deltas_filter_of_forall_ne {name : String} (h : ∀ i, (t.account i).name ≠ some name) :
    t.deltas.filter (fun d => d.1 = name) = [] := by
  rw [List.filter_eq_nil_iff]
  intro d hd heq
  obtain ⟨i, hi⟩ := exists_account_of_mem_deltas hd
  exact h i (of_decide_eq_true heq ▸ hi)

/-- The traffic of a named upstream is published beside that of the others. -/
theorem deltas_perm {u : Upstream} {name : String} (hget : t.records[i]? = some u)
    (hname : u.name = some name) :
    t.deltas.Perm ((name, u.unpublished) ::
      { t with records := t.records.erase i : UpstreamTable }.deltas) := by
  refine ((toList_perm_cons_erase hget).filterMap _).trans (.of_eq ?_)
  simp only [List.filterMap_cons, hname, Option.map_some]
  rfl

/-- The traffic of the only upstream with a name is published under the name, once. -/
theorem deltas_filter {name : String} (h : (t.account i).name = some name)
    (honly : ∀ j, (t.account j).name = some name → j = i) :
    t.deltas.filter (fun d => d.1 = name) = [(name, (t.account i).unpublished)] := by
  obtain ⟨u, hget, hu⟩ := t.exists_record i h
  have hname : u.name = some name := by rw [← h, ← hu]; rfl
  have hperm := (t.deltas_perm i hget hname).filter fun d => d.1 = name
  -- Without its record nobody has the name.
  have hothers := { t with records := t.records.erase i : UpstreamTable }.deltas_filter_of_forall_ne
    (fun j hj => by
      rw [account, findOrFresh, ExtTreeMap.getElem?_erase] at hj
      split at hj
      · cases hj
      · rename_i hij
        exact hij (Std.compare_eq_iff_eq.mpr (honly j hj).symm))
  rw [List.filter_cons_of_pos (by simp), hothers] at hperm
  rw [← hu]
  exact List.perm_singleton.mp hperm

end UpstreamTable

end FastPath
