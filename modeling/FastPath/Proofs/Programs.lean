import FastPath.Proofs.History
import FastPath.Proofs.Readings
import Mathlib.Algebra.GroupWithZero.Nat
import Mathlib.Data.List.Induction

/-!
# Programs and the monitor

An interface is counted as often as it occurs in the attached pairs, and it is in the table of
counts while that is not zero: `Tracks` says so. Whoever counts on the table then knows from the
pairs alone what is still attached: by the journal a program is attached, in that it was asked for
and not asked away since, to counted interfaces only. The monitor runs only while someone wants it,
and the journal tells whether it does. `tidy_of_reachable` has all of this of every controller,
whatever is asked of it and whichever calls fail.
-/

namespace FastPath

open Std

/-! ## What lasts -/

/-- What one operation brings about, and two others end, holds after a run exactly if the run has
the one and neither of the others came later. -/
theorem holds_iff_lasts {α : Type} (holds : List α → Prop) {begins ends₁ ends₂ : α}
    (hnil : ¬holds [])
    (hsnoc : ∀ ops op, holds (ops ++ [op]) ↔
      op = begins ∨ holds ops ∧ op ≠ ends₁ ∧ op ≠ ends₂) (ops : List α) :
    holds ops ↔
      ∃ before later, ops = before ++ begins :: later ∧ ends₁ ∉ later ∧ ends₂ ∉ later := by
  induction ops using List.reverseRecOn with
  | nil => exact iff_of_false hnil fun ⟨before, later, heq, _⟩ => by simp at heq
  | append_singleton ops op ih =>
    rw [hsnoc, ih]
    constructor
    · rintro (rfl | ⟨⟨before, later, rfl, h₁, h₂⟩, hop₁, hop₂⟩)
      · exact ⟨ops, [], rfl, List.not_mem_nil, List.not_mem_nil⟩
      · exact ⟨before, later ++ [op], by simp, by simp [h₁, hop₁.symm], by simp [h₂, hop₂.symm]⟩
    · rintro ⟨before, later, heq, h₁, h₂⟩
      -- The operation is the one that began it, or it is the last one of those that came later.
      rcases List.eq_nil_or_concat later with rfl | ⟨later, last, rfl⟩
      · obtain ⟨-, hop⟩ := List.append_inj' heq rfl
        exact .inl (List.cons.inj hop).1
      · have hsplit : ops ++ [op] = (before ++ begins :: later) ++ [last] := by simpa using heq
        obtain ⟨rfl, hop⟩ := List.append_inj' hsplit rfl
        obtain rfl := (List.cons.inj hop).1
        rw [List.concat_eq_append, List.mem_append, List.mem_singleton, not_or] at h₁ h₂
        exact .inr ⟨⟨before, later, rfl, h₁.1, h₂.1⟩, Ne.symm h₁.2, Ne.symm h₂.2⟩

/-! ## Sets as lists -/

section

variable {α : Type} [Ord α] [TransOrd α] [LawfulEqOrd α]

/-- An element occurs once in the list of a set. -/
theorem nodup_toList_set (s : ExtTreeSet α) : s.toList.Nodup :=
  s.distinct_toList.imp fun h heq => h (by rw [heq]; exact ReflCmp.compare_self)

/-- The list of a set has a new element, and the elements of the set before. -/
theorem toList_insert_perm {s : ExtTreeSet α} {a : α} (h : a ∉ s) :
    (s.insert a).toList.Perm (a :: s.toList) := by
  have hcons : (a :: s.toList).Nodup :=
    List.nodup_cons.mpr ⟨mt ExtTreeSet.mem_toList.mp h, nodup_toList_set s⟩
  refine (List.perm_ext_iff_of_nodup (nodup_toList_set _) hcons).mpr fun x => ?_
  rw [ExtTreeSet.mem_toList, ExtTreeSet.mem_insert, Std.compare_eq_iff_eq, List.mem_cons,
    ExtTreeSet.mem_toList, eq_comm]

/-- The list of a set has each element, and the elements of the set without it. -/
theorem toList_perm_erase {s : ExtTreeSet α} {a : α} (h : a ∈ s) :
    s.toList.Perm (a :: (s.erase a).toList) := by
  have hnot : a ∉ s.erase a := by simp
  have hinsert : (s.erase a).insert a = s := ExtTreeSet.ext_mem fun x => by
    rw [ExtTreeSet.mem_insert, ExtTreeSet.mem_erase, Std.compare_eq_iff_eq]
    by_cases hx : a = x
    · subst hx
      exact iff_of_true (.inl rfl) h
    · simp [hx]
  have hperm := toList_insert_perm hnot
  rwa [hinsert] at hperm

/-- A set is empty once all its elements are erased. -/
theorem foldl_erase_toList (s : ExtTreeSet α) : s.toList.foldl ExtTreeSet.erase s = ∅ := by
  have hmem : ∀ (l : List α) (t : ExtTreeSet α) (x : α),
      x ∈ l.foldl ExtTreeSet.erase t ↔ x ∈ t ∧ x ∉ l := by
    intro l
    induction l with
    | nil => simp
    | cons a l ih =>
      intro t x
      rw [List.foldl_cons, ih, ExtTreeSet.mem_erase, ne_eq, Std.compare_eq_iff_eq, List.mem_cons]
      simp only [not_or, eq_comm, and_assoc, and_left_comm]
  refine ExtTreeSet.eq_empty_iff_forall_not_mem.mpr fun x hx => ?_
  obtain ⟨hset, hlist⟩ := (hmem _ _ _).mp hx
  exact hlist (ExtTreeSet.mem_toList.mpr hset)

end

/-! ## What the journal tells -/

/-- A call about programs or the monitor, with the cause of its refusal. -/
abbrev SideCall := Call × Option Cause

/-- The calls about programs and the monitor. -/
def sideCalls : Reading SideCall where
  asked _ := none
  stored _ _ := none
  aside call refusal := some (call, refusal)

/-- A program was asked for on an interface, and it was not asked away since. Refusals are nothing
to this: the controller does not ask again. -/
def Attached : List SideCall → String → Prop
  | [], _ => False
  | (.attach i _, _) :: calls, iface => i = iface ∨ Attached calls iface
  | (.detach i, _) :: calls, iface => i ≠ iface ∧ Attached calls iface
  | _ :: calls, iface => Attached calls iface

/-- The monitor was started, and it was not stopped since. -/
def Monitored : List SideCall → Prop
  | [] => False
  | (.startMonitor, none) :: _ => True
  | (.stopMonitor, _) :: _ => False
  | _ :: calls => Monitored calls

/-- An interface that is no longer attached was asked to be detached after each time it was asked to
be attached. -/
theorem detached_of_not_attached {iface : String} {d : Direction} {refusal : Option Cause}
    {newer older : List SideCall}
    (h : ¬Attached (newer ++ (.attach iface d, refusal) :: older) iface) :
    ∃ refusal, (.detach iface, refusal) ∈ newer := by
  induction newer with
  | nil => exact absurd (.inl rfl) h
  | cons call newer ih =>
    obtain ⟨c, r⟩ := call
    by_cases hc : c = .detach iface
    · exact ⟨r, by rw [hc]; exact List.mem_cons_self⟩
    · have hrest : ¬Attached (newer ++ (.attach iface d, refusal) :: older) iface := by
        intro hattached
        cases c with
        | attach i d => exact h (.inr hattached)
        | detach i => exact h ⟨fun hi => hc (by rw [hi]), hattached⟩
        | _ => exact h hattached
      obtain ⟨r', hr'⟩ := ih hrest
      exact ⟨r', List.mem_cons_of_mem _ hr'⟩

/-- A monitor that is no longer running was stopped after each time it was started. -/
theorem stopped_of_not_monitored {newer older : List SideCall}
    (h : ¬Monitored (newer ++ (.startMonitor, none) :: older)) :
    ∃ refusal, (.stopMonitor, refusal) ∈ newer := by
  induction newer with
  | nil => exact absurd trivial h
  | cons call newer ih =>
    obtain ⟨c, r⟩ := call
    by_cases hc : c = .stopMonitor
    · exact ⟨r, by rw [hc]; exact List.mem_cons_self⟩
    · have hrest : ¬Monitored (newer ++ (.startMonitor, none) :: older) := by
        intro hmonitored
        cases c with
        | startMonitor => cases r <;> first | exact h trivial | exact h hmonitored
        | stopMonitor => exact hc rfl
        | _ => exact h hmonitored
      obtain ⟨r', hr'⟩ := ih hrest
      exact ⟨r', List.mem_cons_of_mem _ hr'⟩

/-- A side call comes from the entry that tells of it. -/
theorem mem_of_mem_sideCalls {call : Call} {refusal : Option Cause} {past : List Entry}
    (h : (call, refusal) ∈ sideCalls.word past) : .call call refusal ∈ past := by
  obtain ⟨e, he, hpick⟩ := List.mem_filterMap.mp h
  cases e with
  | call c r =>
    cases c with
    | request req => cases req <;> cases hpick
    | table | daemon | publish | alert => cases hpick
    | attach | detach | startMonitor | stopMonitor =>
      cases hpick
      exact he
  | notice n => cases n <;> cases hpick
  | shown text => cases hpick

/-! ## Programs -/

/-- How often an interface occurs in a pair. -/
def Pair.ends (pair : Pair) (iface : String) : Nat :=
  (if pair.external = iface then 1 else 0) + if pair.internal = iface then 1 else 0

namespace Attachments

open Platform

/-- How often an interface occurs in the attached pairs. -/
def uses (a : Attachments) (iface : String) : Nat :=
  (a.pairs.toList.map (Pair.ends · iface)).sum

/-- The table counts interfaces as `n` does, and only what is counted is attached by the calls so
far. The monitor is running or not. -/
structure Tracks (n : String → Nat) (running : Prop) (a : Attachments) (calls : List SideCall) :
    Prop where
  counts : ∀ iface, a.counts[iface]? = if n iface = 0 then none else some (n iface)
  attached : ∀ iface, Attached calls iface → a.attacher ∧ n iface ≠ 0
  monitored : Monitored calls ↔ running

variable {n : String → Nat} {running : Prop} {a : Attachments} {p : Platform}

/-- Attaching a program is one call, if there is something that does it. -/
theorem adds_attachProgram {α : Type} (g : Reading α) (attacher : Bool) (iface : String)
    (d : Direction) (p : Platform) : ∃ refusal,
      g.Adds (if attacher then (g.aside (.attach iface d) refusal).toList else []) p
        (attachProgram attacher iface d p) := by
  unfold attachProgram
  split
  · have hnoted : ∀ refusal, g.Adds (g.aside (.attach iface d) refusal).toList p
        (p.push (.call (.attach iface d) refusal)) := fun refusal => g.adds_push p _
    split <;> rename_i hask
    · rcases perform_ask_cases hask with ⟨-, -, rfl⟩ | ⟨_, -, -, rfl⟩ <;> exact ⟨_, hnoted _⟩
    · rcases perform_ask_cases hask with ⟨-, -, rfl⟩ | ⟨_, -, -, rfl⟩ <;>
        exact ⟨_, (hnoted _).trans (g.adds_note _ rfl)⟩
  · exact ⟨none, g.adds_note _ rfl⟩

/-- Detaching a program is one call, if there is something that does it. -/
theorem adds_detachProgram {α : Type} (g : Reading α) (attacher : Bool) (iface : String)
    (p : Platform) : ∃ refusal,
      g.Adds (if attacher then (g.aside (.detach iface) refusal).toList else []) p
        (detachProgram attacher iface p) := by
  unfold detachProgram
  split
  · have hnoted : ∀ refusal, g.Adds (g.aside (.detach iface) refusal).toList p
        (p.push (.call (.detach iface) refusal)) := fun refusal => g.adds_push p _
    split <;> rename_i hask
    · rcases perform_ask_cases hask with ⟨-, -, rfl⟩ | ⟨_, -, -, rfl⟩ <;> exact ⟨_, hnoted _⟩
    · rcases perform_ask_cases hask with ⟨-, -, rfl⟩ | ⟨_, -, -, rfl⟩ <;>
        exact ⟨_, (hnoted _).trans (g.adds_note _ rfl)⟩
  · exact ⟨none, .refl g p⟩

/-- A count in the table is the number of times that the interface is counted. -/
theorem Tracks.count_eq {calls : List SideCall} (h : Tracks n running a calls) (iface : String) :
    a.count iface = n iface := by
  rw [count, ExtTreeMap.getD_eq_getD_getElem?, h.counts]
  split
  · rename_i hzero
    rw [hzero]
    rfl
  · rfl

/-- What was counted is still counted after one more. -/
theorem Tracks.counts_insert {calls : List SideCall} (h : Tracks n running a calls)
    (iface i : String) :
    (a.counts.insert iface (a.count iface + 1))[i]? =
      if (n i + if iface = i then 1 else 0) = 0 then none
      else some (n i + if iface = i then 1 else 0) := by
  rw [ExtTreeMap.getElem?_insert, h.count_eq]
  by_cases hi : iface = i
  · subst hi
    simp
  · simp [hi, h.counts]

/-- An interface that is counted once more has its program attached with the first count. -/
theorem Tracks.acquire (h : Tracks n running a (sideCalls.word p.past)) (iface : String)
    (d : Direction) : Tracks (fun i => n i + if iface = i then 1 else 0) running
      (acquire iface d a p).1 (sideCalls.word (acquire iface d a p).2.past) := by
  have hcounts := h.counts_insert iface
  have hattached : ∀ i, Attached (sideCalls.word p.past) i →
      a.attacher ∧ (n i + if iface = i then 1 else 0) ≠ 0 := by
    intro i hi
    obtain ⟨hattacher, hn⟩ := h.attached i hi
    exact ⟨hattacher, by omega⟩
  unfold Attachments.acquire
  dsimp only
  split
  · obtain ⟨refusal, hword⟩ := adds_attachProgram sideCalls a.attacher iface d p
    rw [hword]
    split
    · rename_i hattacher
      refine ⟨hcounts, fun i hi => ?_, h.monitored⟩
      rcases hi with rfl | hi
      · exact ⟨hattacher, by rw [if_pos rfl]; exact Nat.succ_ne_zero _⟩
      · exact hattached i hi
    · exact ⟨hcounts, hattached, h.monitored⟩
  · exact ⟨hcounts, hattached, h.monitored⟩

/-- An interface that is counted once less has its program detached with the last count. -/
theorem Tracks.release (h : Tracks n running a (sideCalls.word p.past)) {iface : String}
    (hn : n iface ≠ 0) : Tracks (fun i => n i - if iface = i then 1 else 0) running
      (release iface a p).1 (sideCalls.word (release iface a p).2.past) := by
  have hget : a.counts[iface]? = some (n iface) := by rw [h.counts, if_neg hn]
  unfold Attachments.release
  rw [hget]
  dsimp only
  split
  · rename_i hlast
    have hcounts : ∀ i, (a.counts.erase iface)[i]? =
        if (n i - if iface = i then 1 else 0) = 0 then none
        else some (n i - if iface = i then 1 else 0) := by
      intro i
      rw [ExtTreeMap.getElem?_erase]
      by_cases hi : iface = i
      · subst hi
        have hzero : n iface - 1 = 0 := by omega
        simp [hzero]
      · simp [hi, h.counts]
    -- No other interface is affected, and this one is no longer attached.
    have hothers : ∀ i, i ≠ iface → Attached (sideCalls.word p.past) i →
        a.attacher ∧ (n i - if iface = i then 1 else 0) ≠ 0 := by
      intro i hi hattached
      rw [if_neg (Ne.symm hi)]
      exact h.attached i hattached
    obtain ⟨refusal, hword⟩ := adds_detachProgram sideCalls a.attacher iface p
    rw [hword]
    split
    · exact ⟨hcounts, fun i hi => hothers i hi.1.symm hi.2, h.monitored⟩
    · rename_i hnone
      exact ⟨hcounts, fun i hi => absurd (h.attached i hi).1 hnone, h.monitored⟩
  · rename_i hmore
    refine ⟨fun i => ?_, fun i hi => ?_, h.monitored⟩
    · rw [ExtTreeMap.getElem?_insert]
      by_cases hi : iface = i
      · subst hi
        have hleft : n iface - 1 ≠ 0 := by omega
        simp [hleft]
      · simp [hi, h.counts]
    · obtain ⟨hattacher, hni⟩ := h.attached i hi
      refine ⟨hattacher, ?_⟩
      split
      · rename_i heq
        subst heq
        omega
      · exact hni

theorem pairs_acquire (iface : String) (d : Direction) (a : Attachments) (p : Platform) :
    (acquire iface d a p).1.pairs = a.pairs := by
  unfold acquire
  dsimp only
  split <;> rfl

theorem pairs_release (iface : String) (a : Attachments) (p : Platform) :
    (release iface a p).1.pairs = a.pairs := by
  unfold release
  split
  · rfl
  · split <;> rfl

/-- A pair is not attached again. -/
theorem attach_of_mem {pair : Pair} (h : pair ∈ a.pairs) (p : Platform) :
    attach pair a p = (a, p.note (.pairAttached pair.internal pair.external)) :=
  if_pos h

/-- A pair that is attached counts both interfaces, the external one first. -/
theorem attach_of_not_mem {pair : Pair} (h : pair ∉ a.pairs) (p : Platform) :
    attach pair a p =
      let x := acquire pair.external .downstream { a with pairs := a.pairs.insert pair } p
      acquire pair.internal .upstream x.1 x.2 :=
  if_neg h

/-- A pair that is detached counts both interfaces no more, the external one first. -/
theorem detach_of_mem {pair : Pair} (h : pair ∈ a.pairs) (p : Platform) :
    detach pair a p =
      let x := release pair.external { a with pairs := a.pairs.erase pair } p
      release pair.internal x.1 x.2 :=
  if_pos h

/-- A pair that is not attached is not detached. -/
theorem detach_of_not_mem {pair : Pair} (h : pair ∉ a.pairs) (p : Platform) :
    detach pair a p = (a, p.note (.pairNotAttached pair.internal pair.external)) :=
  if_neg h

/-- Attaching a pair attaches it. -/
theorem pairs_attach {pair : Pair} (h : pair ∉ a.pairs) (p : Platform) :
    (attach pair a p).1.pairs = a.pairs.insert pair := by
  rw [attach_of_not_mem h, pairs_acquire, pairs_acquire]

/-- The pairs are the one that is attached and those before. -/
theorem mem_pairs_attach {pair other : Pair} {a : Attachments} {p : Platform} :
    other ∈ (attach pair a p).1.pairs ↔ pair = other ∨ other ∈ a.pairs := by
  by_cases hpair : pair ∈ a.pairs
  · rw [attach_of_mem hpair, iff_or_self]
    rintro rfl
    exact hpair
  · rw [pairs_attach hpair, ExtTreeSet.mem_insert, Std.compare_eq_iff_eq]

/-- Detaching a pair detaches it. -/
theorem pairs_detach (pair : Pair) (a : Attachments) (p : Platform) :
    (detach pair a p).1.pairs = a.pairs.erase pair := by
  by_cases hpair : pair ∈ a.pairs
  · rw [detach_of_mem hpair, pairs_release, pairs_release]
  · rw [detach_of_not_mem hpair]
    refine ExtTreeSet.ext_mem fun x => ?_
    rw [ExtTreeSet.mem_erase, ne_eq, Std.compare_eq_iff_eq, iff_and_self]
    rintro hx rfl
    exact hpair hx

/-- Detaching all pairs detaches them. -/
theorem pairs_detachAll (a : Attachments) (p : Platform) : (detachAll a p).1.pairs = ∅ := by
  have hfold : ∀ (pairs : List Pair) (a : Attachments) (p : Platform),
      (pairs.foldl (fun x pair => detach pair x.1 x.2) (a, p)).1.pairs =
        pairs.foldl ExtTreeSet.erase a.pairs := by
    intro pairs
    induction pairs with
    | nil => exact fun _ _ => rfl
    | cons pair pairs ih =>
      intro a p
      rw [List.foldl_cons, List.foldl_cons, ← pairs_detach pair a p]
      exact ih _ _
  exact (hfold _ a p).trans (foldl_erase_toList _)

/-- Two interfaces more are counted, those of a pair. -/
theorem uses_attach {pair : Pair} (h : pair ∉ a.pairs) (p : Platform) (iface : String) :
    (attach pair a p).1.uses iface =
      a.uses iface + (if pair.external = iface then 1 else 0) +
        if pair.internal = iface then 1 else 0 := by
  have hperm := (toList_insert_perm h).map (Pair.ends · iface)
  rw [uses, pairs_attach h, hperm.sum_nat, List.map_cons, List.sum_cons, Pair.ends, Nat.add_comm,
    Nat.add_assoc]
  rfl

/-- Without a pair that was attached two interfaces less are counted. -/
theorem uses_of_erase {a' : Attachments} {pair : Pair} (h : pair ∈ a.pairs)
    (hpairs : a'.pairs = a.pairs.erase pair) (iface : String) :
    a.uses iface = a'.uses iface + pair.ends iface := by
  have hperm := (toList_perm_erase h).map (Pair.ends · iface)
  rw [uses, hperm.sum_nat, List.map_cons, List.sum_cons, Nat.add_comm, ← hpairs]
  rfl

/-- Two interfaces less are counted, those of a pair. -/
theorem uses_detach {pair : Pair} (h : pair ∈ a.pairs) (p : Platform) (iface : String) :
    (detach pair a p).1.uses iface =
      a.uses iface - (if pair.external = iface then 1 else 0) -
        if pair.internal = iface then 1 else 0 := by
  have hends := uses_of_erase h (pairs_detach pair a p) iface
  rw [Pair.ends] at hends
  omega

/-- Both ends of an attached pair are counted, even where they are the same interface. -/
theorem counted_of_mem {pair : Pair} (h : pair ∈ a.pairs) : a.uses pair.external ≠ 0 ∧
    a.uses pair.internal - (if pair.external = pair.internal then 1 else 0) ≠ 0 := by
  let rest : Attachments := { a with pairs := a.pairs.erase pair }
  have hrest : rest.pairs = a.pairs.erase pair := rfl
  have hexternal := uses_of_erase h hrest pair.external
  have hinternal := uses_of_erase h hrest pair.internal
  rw [Pair.ends, if_pos rfl] at hexternal hinternal
  omega

/-- Which pairs are attached is nothing to the table. -/
theorem Tracks.setPairs {calls : List SideCall} (h : Tracks n running a calls)
    (pairs : ExtTreeSet Pair) : Tracks n running { a with pairs := pairs } calls :=
  ⟨h.counts, h.attached, h.monitored⟩

/-- The interfaces of a pair that is attached are counted. -/
theorem Tracks.attach (h : Tracks a.uses running a (sideCalls.word p.past)) (pair : Pair) :
    Tracks (Attachments.attach pair a p).1.uses running (Attachments.attach pair a p).1
      (sideCalls.word (Attachments.attach pair a p).2.past) := by
  by_cases hpair : pair ∈ a.pairs
  · rw [attach_of_mem hpair]
    exact h
  · rw [funext (uses_attach hpair p), attach_of_not_mem hpair]
    exact ((h.setPairs _).acquire pair.external .downstream).acquire pair.internal .upstream

/-- The interfaces of a pair that is detached are counted no more for it. -/
theorem Tracks.detach (h : Tracks a.uses running a (sideCalls.word p.past)) (pair : Pair) :
    Tracks (Attachments.detach pair a p).1.uses running (Attachments.detach pair a p).1
      (sideCalls.word (Attachments.detach pair a p).2.past) := by
  by_cases hpair : pair ∈ a.pairs
  · obtain ⟨hexternal, hinternal⟩ := counted_of_mem hpair
    rw [funext (uses_detach hpair p), detach_of_mem hpair]
    exact ((h.setPairs _).release hexternal).release hinternal
  · rw [detach_of_not_mem hpair]
    exact h

end Attachments

/-! ## The monitor -/

namespace Monitoring

open Platform

/-- The monitor runs only while someone wants it, and the calls so far tell whether it does. They
leave programs as they are. -/
structure Tracks (attached : String → Prop) (m : Monitoring) (calls : List SideCall) : Prop where
  wanted : m.running → ∃ d, d ∈ m.active
  monitored : Monitored calls ↔ m.running
  attached : ∀ iface, Attached calls iface → attached iface

variable {attached : String → Prop} {m : Monitoring} {p : Platform}

/-- A downstream more wants the monitor. -/
theorem Tracks.add (h : Tracks attached m (sideCalls.word p.past)) (d : DownstreamId) :
    Tracks attached (add d m p).1 (sideCalls.word (add d m p).2.past) := by
  have hwanted : ∃ d', d' ∈ m.active.insert d := ⟨d, by simp⟩
  unfold Monitoring.add
  dsimp only
  split
  · exact h
  · split
    · rename_i hfirst
      have hstopped : m.running = false := by simpa using hfirst.2
      split <;> rename_i hask
      · rcases perform_ask_cases hask with ⟨-, -, rfl⟩ | ⟨_, -, hres, -⟩
        · exact ⟨fun _ => hwanted, iff_of_true trivial rfl, h.attached⟩
        · cases hres
      · rcases perform_ask_cases hask with ⟨-, hres, -⟩ | ⟨_, -, -, rfl⟩
        · cases hres
        · exact ⟨fun _ => hwanted, h.monitored, h.attached⟩
    · exact ⟨fun _ => hwanted, h.monitored, h.attached⟩

/-- A downstream less wants the monitor. -/
theorem Tracks.remove (h : Tracks attached m (sideCalls.word p.past)) (d : DownstreamId) :
    Tracks attached (remove d m p).1 (sideCalls.word (remove d m p).2.past) := by
  unfold Monitoring.remove
  dsimp only
  split
  · split
    · exact ⟨nofun, iff_of_false id nofun, h.attached⟩
    · rename_i hmore
      refine ⟨fun hrunning => ?_, h.monitored, h.attached⟩
      -- The monitor would have been stopped for want of a downstream.
      have hleft : m.active.erase d ≠ ∅ := fun hempty =>
        hmore ⟨ExtTreeSet.isEmpty_iff.mpr hempty, hrunning⟩
      rw [ne_eq, ExtTreeSet.eq_empty_iff_forall_not_mem] at hleft
      simpa using hleft
  · exact h

/-- Whoever is added wants the monitor, started or not, and so does who wanted it before. -/
theorem mem_active_add {d other : DownstreamId} {m : Monitoring} {p : Platform} :
    other ∈ (add d m p).1.active ↔ d = other ∨ other ∈ m.active := by
  unfold Monitoring.add
  dsimp only
  split
  · rename_i hmem
    rw [iff_or_self]
    rintro rfl
    exact hmem
  · have hinsert : other ∈ m.active.insert d ↔ d = other ∨ other ∈ m.active := by
      rw [ExtTreeSet.mem_insert, Std.compare_eq_iff_eq]
    split
    · split <;> exact hinsert
    · exact hinsert

/-- Whoever is removed does not want the monitor. -/
theorem active_remove (d : DownstreamId) (m : Monitoring) (p : Platform) :
    (remove d m p).1.active = m.active.erase d := by
  unfold remove
  dsimp only
  split
  · split <;> rfl
  · rename_i hnot
    refine ExtTreeSet.ext_mem fun x => ?_
    rw [ExtTreeSet.mem_erase, ne_eq, Std.compare_eq_iff_eq, iff_and_self]
    rintro hx rfl
    exact hnot hx

/-- Nobody wants the monitor once all are removed. -/
theorem active_removeAll (m : Monitoring) (p : Platform) : (removeAll m p).1.active = ∅ := by
  have hfold : ∀ (ds : List DownstreamId) (m : Monitoring) (p : Platform),
      (ds.foldl (fun x d => remove d x.1 x.2) (m, p)).1.active =
        ds.foldl ExtTreeSet.erase m.active := by
    intro ds
    induction ds with
    | nil => exact fun _ _ => rfl
    | cons d ds ih =>
      intro m p
      rw [List.foldl_cons, List.foldl_cons, ← active_remove d m p]
      exact ih _ _
  exact (hfold _ m p).trans (foldl_erase_toList _)

end Monitoring

/-! ## Every history -/

namespace Controller

open Platform

variable {b : Backend} {names : IfIndex → String → Prop} {c c' : Controller}

/-- From `c` to `c'` polling, programs and the monitor stay, and nothing is said about them. -/
structure Apart (c c' : Controller) : Prop where
  polling : c'.polling = c.polling
  attachments : c'.attachments = c.attachments
  monitoring : c'.monitoring = c.monitoring
  calls : sideCalls.Adds [] c.platform c'.platform

theorem Apart.refl (c : Controller) : Apart c c :=
  ⟨rfl, rfl, rfl, .refl _ _⟩

theorem Apart.trans {c'' : Controller} (h : Apart c c') (h' : Apart c' c'') : Apart c c'' where
  polling := h'.polling.trans h.polling
  attachments := h'.attachments.trans h.attachments
  monitoring := h'.monitoring.trans h.monitoring
  calls := h.calls.trans h'.calls

/-- A calm change stays apart. -/
theorem Calm.apart (h : Calm c c') : Apart c c' :=
  ⟨h.polling, h.attachments, h.monitoring, sideCalls.adds_of_unread h.platform⟩

/-- A rule that is added stays apart. -/
theorem apart_install (d : DownstreamId) (rule : Rule) (c : Controller) :
    Apart c (c.install b d rule).2 := by
  have hletters : c.lettersWith sideCalls rule = [] := by simp [lettersWith, sideCalls]
  rcases install_adds sideCalls b d rule c with ⟨p, hinstall, hp⟩ | ⟨-, p, hinstall, hp⟩ <;>
    rw [hinstall]
  · exact ⟨rfl, rfl, rfl, hp⟩
  · rw [hletters] at hp
    exact ⟨rfl, rfl, rfl, hp⟩

/-- A rule that is removed stays apart. -/
theorem apart_uninstall (d : DownstreamId) (n : Ipv6) (c : Controller) :
    Apart c (c.uninstall b d n).2 := by
  have hletters : ∀ rule, c.lettersWithout sideCalls rule = [] := fun rule => by
    simp [lettersWithout, sideCalls]
  rcases uninstall_adds sideCalls b d n c with ⟨p, huninstall, hp⟩ |
    ⟨rule, -, t, p, huninstall, -, -, hp⟩ <;> rw [huninstall]
  · exact ⟨rfl, rfl, rfl, hp⟩
  · rw [hletters] at hp
    exact ⟨rfl, rfl, rfl, hp⟩

/-- A limit that is applied stays apart. -/
theorem apart_applyLimit (i : IfIndex) (q : Quota) (c : Controller) :
    Apart c (c.applyLimit b i q) := by
  obtain ⟨p, happly, hp⟩ := applyLimit_adds sideCalls b i q c
  rw [happly]
  exact ⟨rfl, rfl, rfl, by simpa [sideCalls] using hp⟩

/-- A chore stays apart, unless it is a still one. -/
theorem Chore.apart (h : Chore b c c') : Apart c c' ∨ Still c c' := by
  cases h with
  | install d rule => exact .inl (apart_install d rule c)
  | uninstall d n => exact .inl (apart_uninstall d n c)
  | forget d => exact .inl ⟨rfl, rfl, rfl, .refl _ _⟩
  | poll => exact .inl (calm_poll b c).apart
  | publish => exact .inl (calm_publish c).apart
  | still h => exact .inr h

/-- A step stays apart, unless it is a still one. -/
theorem Step.apart (h : Step b names c c') : Apart c c' ∨ Still c c' := by
  cases h with
  | chore h => exact h.apart
  | nameUpstream i name =>
    obtain ⟨c₁, hcalm, hname | ⟨q, hname⟩⟩ := nameUpstream_calm_cases b i name c <;> rw [hname]
    · exact .inl hcalm.apart
    · exact .inl (hcalm.apart.trans (apart_applyLimit i q c₁))
  | limit iface q =>
    rcases limit_calm_cases b iface q c with hcalm | ⟨i, hlimit⟩
    · exact .inl hcalm.apart
    · rw [hlimit]
      exact .inl (apart_applyLimit i q c)

/-- Interfaces are counted as the attached pairs have it, and what the journal has as attached is
counted. The monitor runs if the journal says so, and only while someone wants it. -/
structure Tidy (c : Controller) : Prop where
  programs : c.attachments.Tracks c.attachments.uses c.monitoring.running
    (sideCalls.word c.platform.past)
  wanted : c.monitoring.running → ∃ d, d ∈ c.monitoring.active

/-- What says nothing about programs and the monitor leaves everything tidy. -/
theorem Tidy.keep (h : Tidy c) (hattachments : c'.attachments = c.attachments)
    (hmonitoring : c'.monitoring = c.monitoring)
    (hcalls : sideCalls.Adds [] c.platform c'.platform) : Tidy c' where
  programs := by
    rw [hattachments, hmonitoring, hcalls]
    exact h.programs
  wanted := by
    rw [hmonitoring]
    exact h.wanted

/-- A change of what is attached leaves everything tidy if it keeps track. -/
theorem Tidy.changeAttachments (h : Tidy c)
    {f : Attachments → Platform → Attachments × Platform}
    (hf : ∀ {a p}, a.Tracks a.uses c.monitoring.running (sideCalls.word p.past) →
      (f a p).1.Tracks (f a p).1.uses c.monitoring.running (sideCalls.word (f a p).2.past)) :
    Tidy (c.changeAttachments f) := by
  unfold Controller.changeAttachments withBackend
  split
  · exact ⟨hf h.programs, h.wanted⟩
  · exact h

/-- A change of what is monitored leaves everything tidy if it keeps track. -/
theorem Tidy.changeMonitoring (h : Tidy c)
    {f : Monitoring → Platform → Monitoring × Platform}
    (hf : ∀ {attached m p}, Monitoring.Tracks attached m (sideCalls.word p.past) →
      Monitoring.Tracks attached (f m p).1 (sideCalls.word (f m p).2.past)) :
    Tidy (c.changeMonitoring f) := by
  unfold Controller.changeMonitoring withBackend
  split
  · have htracks := hf ⟨h.wanted, h.programs.monitored, h.programs.attached⟩
    exact ⟨⟨h.programs.counts, htracks.attached, htracks.monitored⟩, htracks.wanted⟩
  · exact h

/-- A still change leaves everything tidy. -/
theorem Tidy.still (h : Tidy c) (hstill : Still c c') : Tidy c' := by
  cases hstill with
  | note hn =>
    exact h.keep rfl rfl (sideCalls.adds_note _ (Notice.isUnread_of_isPlain hn))
  | armAlert q =>
    have hapart := (calm_armAlert q c).apart
    exact h.keep hapart.attachments hapart.monitoring hapart.calls
  | beginPolling => exact h.keep rfl rfl (sideCalls.adds_note _ rfl)
  | endPolling =>
    unfold Controller.endPolling
    dsimp only
    split
    · exact h.keep rfl rfl (sideCalls.adds_note _ rfl)
    · exact h.keep rfl rfl (.refl _ _)
  | setPollInterval ms => exact h.keep rfl rfl (.refl _ _)
  | attach pair => exact h.changeAttachments fun ha => ha.attach pair
  | detach pair => exact h.changeAttachments fun ha => ha.detach pair
  | addDownstream d => exact h.changeMonitoring fun hm => hm.add d
  | removeDownstream d => exact h.changeMonitoring fun hm => hm.remove d

/-- Every step leaves everything tidy. -/
theorem Tidy.step (hstep : Step b names c c') (h : Tidy c) : Tidy c' := by
  rcases hstep.apart with hapart | hstill
  · exact h.keep hapart.attachments hapart.monitoring hapart.calls
  · exact h.still hstill

/-- Nothing is attached or monitored where nothing is at work. -/
theorem tidy_idle {p q : Platform} {ms : UInt64} {attacher : Bool} (hpast : p.past = [])
    (hopening : p.Writes Entry.isOpening q) : Tidy (idle q (some b) ms attacher) := by
  have hcalls : sideCalls.word q.past = [] := by
    rw [sideCalls.adds_of_unread (hopening.mono Entry.isUnread_of_isOpening), hpast]
    rfl
  refine ⟨⟨fun iface => ?_, fun iface h => ?_, ?_⟩, fun h => ?_⟩
  · rfl
  · rw [idle, hcalls] at h
    exact h.elim
  · rw [idle, hcalls]
    exact iff_of_false id Bool.false_ne_true
  · cases h

/-- Everything is tidy at any time. -/
theorem tidy_of_reachable {p : Platform} (hpast : p.past = []) (h : Reachable b p c) : Tidy c :=
  h.preserves_steps (fun hblank _ _ => tidy_idle hpast hblank.opening) Tidy.step
    fun i more hc => hc.keep rfl rfl (by rw [Reading.Adds, past_count]; rfl)

end Controller

end FastPath
