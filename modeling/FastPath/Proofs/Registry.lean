import FastPath.Controller.Basic

/-!
# The rules of all downstreams

The registry keeps a list of rules for each downstream, and `live` has the rules of all of them. A
rule that is pushed joins both, a rule that is erased leaves both, and a downstream is forgotten
without notice once it has no rules. What `live` lists matters only up to its order.
-/

namespace FastPath

open Std

section

variable {κ ν : Type} [Ord κ] [TransOrd κ] [LawfulEqOrd κ]

/-- A key occurs once in the list of a table. -/
theorem nodup_toList (t : ExtTreeMap κ ν) : t.toList.Nodup :=
  t.distinct_keys_toList.imp fun h heq => h (by rw [heq]; exact ReflCmp.compare_self)

/-- The list of a table has the entry under a key, and the entries of the table without it. -/
theorem toList_perm_cons_erase {t : ExtTreeMap κ ν} {k : κ} {v : ν} (h : t[k]? = some v) :
    t.toList.Perm ((k, v) :: (t.erase k).toList) := by
  have hrest : (k, v) ∉ (t.erase k).toList := by
    rw [ExtTreeMap.mem_toList_iff_getElem?_eq_some, ExtTreeMap.getElem?_erase_self]
    simp
  refine (List.perm_ext_iff_of_nodup (nodup_toList t)
    (List.nodup_cons.mpr ⟨hrest, nodup_toList _⟩)).mpr fun ⟨k', v'⟩ => ?_
  rw [List.mem_cons, ExtTreeMap.mem_toList_iff_getElem?_eq_some,
    ExtTreeMap.mem_toList_iff_getElem?_eq_some, ExtTreeMap.getElem?_erase]
  by_cases hk : k = k'
  · subst hk
    rw [h]
    simp [eq_comm]
  · simp [hk, Ne.symm hk]

/-- A key that is not there can be erased without effect. -/
theorem erase_eq_self {t : ExtTreeMap κ ν} {k : κ} (h : k ∉ t) : t.erase k = t := by
  refine ExtTreeMap.ext_getElem? fun k' => ?_
  rw [ExtTreeMap.getElem?_erase]
  split
  · rename_i hk
    rw [← Std.compare_eq_iff_eq.mp hk, ExtTreeMap.getElem?_eq_none h]
  · rfl

/-- A key that is erased is not there. -/
theorem notMem_erase_self (t : ExtTreeMap κ ν) (k : κ) : k ∉ t.erase k :=
  fun h => (ExtTreeMap.mem_erase.mp h).1 ReflCmp.compare_self

/-- What was put under a key is gone once the key is erased. -/
theorem erase_insert (t : ExtTreeMap κ ν) (k : κ) (v : ν) : (t.insert k v).erase k = t.erase k := by
  refine ExtTreeMap.ext_getElem? fun k' => ?_
  simp only [ExtTreeMap.getElem?_erase, ExtTreeMap.getElem?_insert]
  split <;> rfl

/-- The first element with a property, and the list without it. -/
theorem perm_cons_eraseP {p : α → Bool} {a : α} :
    {l : List α} → l.find? p = some a → l.Perm (a :: l.eraseP p)
  | b :: l, h => by
    rw [List.find?_cons] at h
    split at h
    · rename_i hb
      obtain rfl := Option.some.inj h
      rw [List.eraseP_cons_of_pos hb]
    · rename_i hb
      rw [List.eraseP_cons_of_neg (by simp [hb])]
      exact ((perm_cons_eraseP h).cons b).trans (.swap a b _)

end

namespace Registry

variable (r : Registry) (d : DownstreamId)

/-- Nobody has rules at first. -/
theorem rulesFor_empty : empty.rulesFor d = [] := rfl

/-- A pushed rule is the last one of its downstream. -/
theorem rulesFor_push (d' : DownstreamId) (rule : Rule) :
    (r.push d rule).rulesFor d' = if d = d' then r.rulesFor d ++ [rule] else r.rulesFor d' := by
  simp only [rulesFor, push, ExtTreeMap.getD_insert, Std.compare_eq_iff_eq]

/-- An erased rule leaves its downstream, and no other. -/
theorem rulesFor_erase (d' : DownstreamId) (n : Ipv6) :
    (r.erase d n).rulesFor d' =
      if d = d' then (r.rulesFor d).eraseP (fun rule => rule.neighbor = n) else r.rulesFor d' := by
  simp only [rulesFor, erase, ExtTreeMap.getD_insert, Std.compare_eq_iff_eq]

/-- A forgotten downstream has no rules. -/
theorem rulesFor_forget (d' : DownstreamId) :
    (r.forget d).rulesFor d' = if d = d' then [] else r.rulesFor d' := by
  simp only [rulesFor, forget, ExtTreeMap.getD_erase, Std.compare_eq_iff_eq]

/-- A downstream without rules is forgotten without notice. -/
theorem rulesFor_forget_of_nil {d : DownstreamId} (h : r.rulesFor d = []) (d' : DownstreamId) :
    (r.forget d).rulesFor d' = r.rulesFor d' := by
  rw [rulesFor_forget]
  split
  · rename_i hd
    rw [← hd, h]
  · rfl

/-- A rule that was pushed is forgotten with its downstream. -/
theorem forget_push (rule : Rule) : (r.push d rule).forget d = r.forget d :=
  congrArg mk (erase_insert ..)

/-- It does not matter whether a rule was erased before its downstream is forgotten. -/
theorem forget_erase (n : Ipv6) : (r.erase d n).forget d = r.forget d :=
  congrArg mk (erase_insert ..)

/-- A downstream that has a rule is known. -/
theorem mem_of_find? {d : DownstreamId} {n : Ipv6} {rule : Rule} (h : r.find? d n = some rule) :
    d ∈ r.byDownstream := by
  by_cases hd : d ∈ r.byDownstream
  · exact hd
  · rw [find?, rulesFor, ExtTreeMap.getD_eq_fallback hd] at h
    cases h

/-- A rule is found by its neighbor if those before it have other neighbors. -/
theorem find?_of_rulesFor_eq {d : DownstreamId} {before after : List Rule} {rule : Rule}
    (hrules : r.rulesFor d = before ++ rule :: after)
    (hother : ∀ other ∈ before, other.neighbor ≠ rule.neighbor) :
    r.find? d rule.neighbor = some rule := by
  refine List.find?_eq_some_iff_append.mpr ⟨decide_eq_true rfl, before, after, hrules, ?_⟩
  intro other hmem
  simpa using hother other hmem

/-- Once it is erased, those before it and those after it are left. -/
theorem rulesFor_erase_of_rulesFor_eq {d : DownstreamId} {before after : List Rule} {rule : Rule}
    (hrules : r.rulesFor d = before ++ rule :: after)
    (hother : ∀ other ∈ before, other.neighbor ≠ rule.neighbor) :
    (r.erase d rule.neighbor).rulesFor d = before ++ after := by
  rw [rulesFor_erase, if_pos rfl, hrules, List.eraseP_append_right _ (by simpa using hother)]
  exact congrArg (before ++ ·) (List.eraseP_cons_of_pos (decide_eq_true rfl))

/-- A rule that is found stands between others, which close up once it is erased. -/
theorem exists_rulesFor_erase {d : DownstreamId} {n : Ipv6} {rule : Rule}
    (h : r.find? d n = some rule) : rule.neighbor = n ∧ ∃ before after,
      r.rulesFor d = before ++ rule :: after ∧ (r.erase d n).rulesFor d = before ++ after := by
  obtain ⟨hrule, before, after, hrules, hbefore⟩ := List.find?_eq_some_iff_append.mp h
  obtain rfl : rule.neighbor = n := of_decide_eq_true hrule
  have hother : ∀ other ∈ before, other.neighbor ≠ rule.neighbor := fun other hmem => by
    simpa using hbefore other hmem
  exact ⟨rfl, before, after, hrules, r.rulesFor_erase_of_rulesFor_eq hrules hother⟩

/-- No rule is found for a neighbor that none has. -/
theorem find?_eq_none {d : DownstreamId} {n : Ipv6}
    (hother : ∀ other ∈ r.rulesFor d, other.neighbor ≠ n) : r.find? d n = none :=
  List.find?_eq_none.mpr fun other hmem => by simpa using hother other hmem

/-! ## All rules -/

/-- The live rules are those of one downstream and those of the others. -/
theorem live_perm : r.live.Perm (r.rulesFor d ++ (r.forget d).live) := by
  by_cases hd : d ∈ r.byDownstream
  · have hget : r.byDownstream[d]? = some (r.rulesFor d) :=
      ExtTreeMap.getElem?_eq_some_getD hd
    have h := (toList_perm_cons_erase hget).flatMap_right Prod.snd
    rw [List.flatMap_cons] at h
    exact h
  · -- There is no entry to take out, and no rule in front.
    have hnil : r.rulesFor d = [] := ExtTreeMap.getD_eq_fallback hd
    rw [hnil, forget, erase_eq_self hd]
    exact .refl _

/-- A rule is live if some downstream has it. -/
theorem mem_live {rule : Rule} : rule ∈ r.live ↔ ∃ d, rule ∈ r.rulesFor d := by
  constructor
  · intro h
    rw [live, List.mem_flatMap] at h
    obtain ⟨⟨d, rules⟩, hentry, hrule⟩ := h
    refine ⟨d, ?_⟩
    rwa [rulesFor, ExtTreeMap.getD_eq_getD_getElem?,
      ExtTreeMap.mem_toList_iff_getElem?_eq_some.mp hentry]
  · rintro ⟨d, h⟩
    exact (r.live_perm d).mem_iff.mpr (List.mem_append_left _ h)

/-- A pushed rule joins the live ones. -/
theorem live_push (rule : Rule) : (r.push d rule).live.Perm (rule :: r.live) := by
  -- The other downstreams are the same before and after.
  have hpush := (r.push d rule).live_perm d
  rw [rulesFor_push, if_pos rfl, forget_push, List.append_assoc, List.singleton_append] at hpush
  have hlive := (r.live_perm d).symm
  calc List.Perm (r.push d rule).live (r.rulesFor d ++ rule :: (r.forget d).live) := hpush
    List.Perm _ (rule :: (r.rulesFor d ++ (r.forget d).live)) := List.perm_middle
    List.Perm _ (rule :: r.live) := hlive.cons rule

/-- An erased rule leaves the live ones. -/
theorem live_erase {d : DownstreamId} {rule : Rule} {n : Ipv6} (h : r.find? d n = some rule) :
    r.live.Perm (rule :: (r.erase d n).live) := by
  have herase := (r.erase d n).live_perm d
  rw [rulesFor_erase, if_pos rfl, forget_erase] at herase
  have hrule := perm_cons_eraseP h
  calc List.Perm r.live (r.rulesFor d ++ (r.forget d).live) := r.live_perm d
    List.Perm _ (rule :: (r.rulesFor d).eraseP (fun rule => rule.neighbor = n) ++
      (r.forget d).live) := hrule.append_right _
    List.Perm _ (rule :: (r.erase d n).live) := herase.symm.cons rule

/-- A downstream without rules takes no live ones along. -/
theorem live_forget {d : DownstreamId} (h : r.rulesFor d = []) : (r.forget d).live.Perm r.live := by
  have h' := r.live_perm d
  rw [h] at h'
  exact h'.symm

/-! ## Counts of rules -/

/-- A pushed rule is counted. -/
theorem countP_live_push (rule : Rule) (p : Rule → Bool) :
    (r.push d rule).live.countP p = r.live.countP p + if p rule then 1 else 0 := by
  rw [(r.live_push d rule).countP_eq, List.countP_cons]

/-- An erased rule was counted. -/
theorem countP_live_erase {d : DownstreamId} {rule : Rule} {n : Ipv6}
    (h : r.find? d n = some rule) (p : Rule → Bool) :
    r.live.countP p = (r.erase d n).live.countP p + if p rule then 1 else 0 := by
  rw [(r.live_erase h).countP_eq, List.countP_cons]

/-- A downstream without rules counts nothing. -/
theorem countP_live_forget {d : DownstreamId} (h : r.rulesFor d = []) (p : Rule → Bool) :
    (r.forget d).live.countP p = r.live.countP p :=
  (r.live_forget h).countP_eq p

/-- A pushed rule is one more on its interface. -/
theorem rulesOn_push (rule : Rule) (i : IfIndex) :
    (r.push d rule).rulesOn i = r.rulesOn i + if rule.downstream = i then 1 else 0 := by
  simpa only [rulesOn, decide_eq_true_iff] using r.countP_live_push d rule fun r => r.downstream = i

/-- An erased rule was one more on its interface. -/
theorem rulesOn_erase {d : DownstreamId} {rule : Rule} {n : Ipv6} (h : r.find? d n = some rule)
    (i : IfIndex) :
    r.rulesOn i = (r.erase d n).rulesOn i + if rule.downstream = i then 1 else 0 := by
  simpa only [rulesOn, decide_eq_true_iff] using r.countP_live_erase h fun r => r.downstream = i

/-- The interface of a live rule has a rule. -/
theorem rulesOn_ne_zero {rule : Rule} (h : rule ∈ r.live) : r.rulesOn rule.downstream ≠ 0 :=
  Nat.ne_of_gt (List.countP_pos_iff.mpr ⟨rule, h, decide_eq_true rfl⟩)

/-- Some rule is counted if there is one. -/
theorem countP_live_ne_zero {p : Rule → Bool} :
    r.live.countP p ≠ 0 ↔ ∃ d, ∃ rule ∈ r.rulesFor d, p rule := by
  rw [← Nat.pos_iff_ne_zero, List.countP_pos_iff]
  constructor
  · rintro ⟨rule, hlive, hp⟩
    obtain ⟨d, hd⟩ := r.mem_live.mp hlive
    exact ⟨d, rule, hd, hp⟩
  · rintro ⟨d, rule, hd, hp⟩
    exact ⟨rule, r.mem_live.mpr ⟨d, hd⟩, hp⟩

/-- An interface has no rules if no rule of a downstream is out of it. -/
theorem rulesOn_eq_zero {i : IfIndex} :
    r.rulesOn i = 0 ↔ ∀ d, ∀ rule ∈ r.rulesFor d, rule.downstream ≠ i := by
  have hsome : r.rulesOn i ≠ 0 ↔ ∃ d, ∃ rule ∈ r.rulesFor d, rule.downstream = i := by
    simpa only [rulesOn, decide_eq_true_iff] using
      r.countP_live_ne_zero (p := fun rule => rule.downstream = i)
  constructor
  · intro hzero d rule hrule hi
    exact hsome.mpr ⟨d, rule, hrule, hi⟩ hzero
  · intro hnone
    refine Classical.byContradiction fun hne => ?_
    obtain ⟨d, rule, hrule, hi⟩ := hsome.mp hne
    exact hnone d rule hrule hi

end Registry

end FastPath
