import FastPath.Proofs.History

/-!
# Counters as numbers

Traffic is four counters, and a `Counter` is one of them, read as a number. Growth and sums of words
are differences and sums of numbers as long as counters do not run backwards and sums fit into a
word. The kernel counts traffic in words as well, for interfaces that have counters.
-/

namespace FastPath

open Std

/-- One of the four counters of traffic. -/
inductive Counter
  | rxBytes
  | rxPackets
  | txBytes
  | txPackets

namespace Counter

/-- The counter as a number. -/
def of (k : Counter) (t : Traffic) : Nat :=
  match k with
  | rxBytes => t.rxBytes.toNat
  | rxPackets => t.rxPackets.toNat
  | txBytes => t.txBytes.toNat
  | txPackets => t.txPackets.toNat

variable (k : Counter)

@[simp]
theorem of_zero : k.of .zero = 0 := by
  cases k <;> rfl

/-- A counter that is not behind its baseline grew by the difference. -/
theorem toNat_growth {new old : UInt64} (h : old.toNat ≤ new.toNat) :
    (growth new old).toNat = new.toNat - old.toNat := by
  have h' : old ≤ new := UInt64.le_iff_toNat_le.mpr h
  rw [growth, if_pos h', UInt64.toNat_sub_of_le _ _ h']

/-- Growth is a difference while the counter is not behind its baseline. -/
theorem of_since {new old : Traffic} (h : k.of old ≤ k.of new) :
    k.of (new.since old) = k.of new - k.of old := by
  cases k <;> exact toNat_growth h

/-- A sum that fits into a word does not saturate. -/
theorem toNat_satAdd_of_lt {a b : UInt64} (h : a.toNat + b.toNat < UInt64.size) :
    (satAdd a b).toNat = a.toNat + b.toNat := by
  rw [toNat_satAdd]
  omega

/-- Traffic is added up while the sum fits into a word. -/
theorem of_add {a b : Traffic} (h : k.of a + k.of b < UInt64.size) :
    k.of (a.add b) = k.of a + k.of b := by
  cases k <;> exact toNat_satAdd_of_lt h

end Counter

/-! ## What the kernel counts -/

/-- A counter does not wrap while the sum fits into a word. -/
theorem Counter.of_plus (k : Counter) {t more : Traffic} (h : k.of t + k.of more < UInt64.size) :
    k.of (t.plus more) = k.of t + k.of more := by
  cases k <;> exact (UInt64.toNat_add _ _).trans (Nat.mod_eq_of_lt h)

namespace Stores

variable {b : Backend} (i j : IfIndex)

/-- What the kernel counts is added to the counters of one interface, if it has counters. -/
theorem counted_count (more : Counters) (p : Platform) :
    (p.count b i more).stores.counted b j =
      if i = j ∧ p.stores.HasCounters b i then (p.stores.counted b j).plus more.traffic
      else p.stores.counted b j := by
  cases b with
  | tables =>
    -- The kernel counts for entries that are there, and starts none.
    by_cases hi : i ∈ p.kernel.stats
    · obtain ⟨c, hget⟩ := Option.isSome_iff_exists.mp (ExtTreeMap.mem_iff_isSome_getElem?.mp hi)
      have hhas : p.stores.HasCounters .tables i := fun _ => hi
      simp only [Platform.count, hget, hhas, and_true]
      show ((p.kernel.stats.insert i (c.plus more))[j]?.map Counters.traffic).getD .zero =
        if i = j then ((p.kernel.stats[j]?.map Counters.traffic).getD .zero).plus more.traffic
        else (p.kernel.stats[j]?.map Counters.traffic).getD .zero
      rw [ExtTreeMap.getElem?_insert]
      simp only [Std.compare_eq_iff_eq]
      split
      · rename_i hij
        rw [← hij, hget]
        rfl
      · rfl
    · have hnone : ¬p.stores.HasCounters .tables i := fun h => hi (h rfl)
      rw [if_neg fun h => hnone h.2, Platform.count, ExtTreeMap.getElem?_eq_none hi]
  | daemon | rehearsal =>
    -- The daemon starts an entry at zero where there is none.
    show (p.daemon.stats.insert i
      ((p.daemon.stats.getD i .zero).plus more.traffic)).getD j .zero = _
    rw [ExtTreeMap.getD_insert]
    by_cases hij : i = j
    · subst hij
      rw [if_pos ReflCmp.compare_self, if_pos ⟨rfl, nofun⟩]
      rfl
    · rw [if_neg (mt Std.compare_eq_iff_eq.mp hij), if_neg fun h => hij h.1]
      rfl

/-- The readings of a table of counters are of different interfaces, each with what its entry
says. -/
theorem toList_readings {ν : Type} (t : ExtTreeMap IfIndex ν) (f : ν → Traffic) {rs}
    (hrs : rs = t.toList.map fun (i, v) => (⟨i, f v⟩ : InterfaceTraffic)) :
    (rs.map InterfaceTraffic.ifIndex).Nodup ∧
      ∀ r ∈ rs, t[r.ifIndex]?.map f = some r.traffic := by
  have hkeys : rs.map InterfaceTraffic.ifIndex = t.keys := by
    rw [hrs, List.map_map, ← ExtTreeMap.map_fst_toList_eq_keys]
    rfl
  refine ⟨hkeys ▸ t.nodup_keys, fun r hr => ?_⟩
  rw [hrs] at hr
  obtain ⟨⟨i, v⟩, hentry, rfl⟩ := List.mem_map.mp hr
  rw [ExtTreeMap.mem_toList_iff_getElem?_eq_some.mp hentry, Option.map_some]

/-- Readings are of different interfaces, and each has what was counted for its interface. -/
theorem readings_cases (b : Backend) (x : Stores) :
    ((x.readings b).map InterfaceTraffic.ifIndex).Nodup ∧
      ∀ r ∈ x.readings b, x.counted b r.ifIndex = r.traffic := by
  cases b with
  | tables =>
    obtain ⟨hnodup, hread⟩ := toList_readings x.kernel.stats Counters.traffic rfl
    refine ⟨hnodup, fun r hr => ?_⟩
    rw [counted, hread r hr]
    rfl
  | daemon | rehearsal =>
    obtain ⟨hnodup, hread⟩ := toList_readings x.daemon.stats id rfl
    refine ⟨hnodup, fun r hr => ?_⟩
    have h := hread r hr
    rw [Option.map_id, id] at h
    show x.daemon.stats.getD r.ifIndex .zero = r.traffic
    rw [ExtTreeMap.getD_eq_getD_getElem?, h, Option.getD_some]

end Stores

end FastPath
