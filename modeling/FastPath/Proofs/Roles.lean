import FastPath.Proofs.Brackets
import FastPath.Proofs.Programs
import Mathlib.Data.List.Induction

/-!
# Who counts on a program

Whatever sequence of pairs is attached and detached, and whichever calls fail, an interface is
counted once for each role that it plays in an attached pair. `turns_run` has the calls of one
operation: there is a call about an interface exactly when the operation changes whether any
attached pair has it. Over a whole run the calls about an interface therefore take turns, and
counts and calls can both be told from the pairs. What the pairs do not tell is the direction of a
program: it is that of the pair with which the interface came into use.
-/

namespace FastPath

open Std

/-- An interface is an end of a pair, or both. -/
def Pair.Has (pair : Pair) (iface : String) : Prop :=
  iface = pair.internal ∨ iface = pair.external

/-- A pair counts what it has. -/
theorem Pair.ends_ne_zero {pair : Pair} {iface : String} :
    pair.ends iface ≠ 0 ↔ pair.Has iface := by
  unfold ends Has
  split <;> split <;> simp_all [eq_comm]

/-- The direction of the program that a pair has attached to one of its interfaces. -/
def Pair.direction (pair : Pair) (iface : String) : Direction :=
  if pair.external = iface then .downstream else .upstream

/-- The calls about the program of an interface, refused or not. -/
def programCalls (iface : String) : Reading Call where
  asked _ := none
  stored _ _ := none
  aside
    | .attach i d, _ => if i = iface then some (.attach i d) else none
    | .detach i, _ => if i = iface then some (.detach i) else none
    | _, _ => none

/-- What a call does to a program. -/
def Call.onProgram : Call → Option Bracket
  | .attach .. => some .opens
  | .detach _ => some .closes
  | _ => none

/-- Something that is asked about pairs. -/
inductive PairOp
  | attach (pair : Pair)
  | detach (pair : Pair)
  | detachAll

/-- The call about an interface by which an operation attaches or detaches its program, if it
does. -/
def PairOp.call (iface : String) : PairOp → Call
  | .attach pair => .attach iface (pair.direction iface)
  | .detach _ | .detachAll => .detach iface

namespace Attachments

open Platform

/-- Do what is asked. -/
def run (x : Attachments × Platform) : PairOp → Attachments × Platform
  | .attach pair => attach pair x.1 x.2
  | .detach pair => detach pair x.1 x.2
  | .detachAll => detachAll x.1 x.2

/-- What is attached once all this was asked, when nothing was attached at first. -/
def after (attacher : Bool) (refuses : List Entry → Call → Option String) (ops : List PairOp) :
    Attachments × Platform :=
  ops.foldl run (empty attacher, .failing refuses .sorted)

section

variable {a : Attachments} {p : Platform} {running : Prop} {n : String → Nat} {k : Nat}

/-! ## Use -/

/-- An interface is in use if an attached pair has it. -/
theorem uses_ne_zero {iface : String} :
    a.uses iface ≠ 0 ↔ ∃ pair ∈ a.pairs, pair.Has iface := by
  rw [uses, ne_eq, List.sum_eq_zero_iff_forall_eq_nat]
  simp only [List.mem_map, ExtTreeSet.mem_toList, forall_exists_index, and_imp,
    forall_apply_eq_imp_iff₂, not_forall, exists_prop, ← Pair.ends_ne_zero, ne_eq]

/-- No interface is in use without pairs. -/
theorem uses_of_pairs_eq_empty (h : a.pairs = ∅) (iface : String) : a.uses iface = 0 := by
  rw [uses, h]
  rfl

/-- A pair that is attached takes no interface out of use. -/
theorem uses_le_attach (pair : Pair) (a : Attachments) (p : Platform) (iface : String) :
    a.uses iface ≤ (attach pair a p).1.uses iface := by
  by_cases hpair : pair ∈ a.pairs
  · exact Nat.le_of_eq (by rw [attach_of_mem hpair])
  · rw [uses_attach hpair]
    omega

/-- A pair that is detached brings no interface into use. -/
theorem uses_detach_le (pair : Pair) (a : Attachments) (p : Platform) (iface : String) :
    (detach pair a p).1.uses iface ≤ a.uses iface := by
  by_cases hpair : pair ∈ a.pairs
  · rw [uses_detach hpair]
    omega
  · exact Nat.le_of_eq (by rw [detach_of_not_mem hpair])

/-! ## Calls -/

theorem attacher_acquire (iface : String) (d : Direction) (a : Attachments) (p : Platform) :
    (acquire iface d a p).1.attacher = a.attacher := by
  unfold acquire
  dsimp only
  split <;> rfl

theorem attacher_release (iface : String) (a : Attachments) (p : Platform) :
    (release iface a p).1.attacher = a.attacher := by
  unfold release
  split
  · rfl
  · split <;> rfl

theorem attacher_detach (pair : Pair) (a : Attachments) (p : Platform) :
    (detach pair a p).1.attacher = a.attacher := by
  unfold detach
  split
  · exact (attacher_release ..).trans (attacher_release ..)
  · rfl

theorem attacher_run (op : PairOp) (x : Attachments × Platform) :
    (run x op).1.attacher = x.1.attacher := by
  cases op with
  | attach pair =>
    show (attach pair x.1 x.2).1.attacher = _
    unfold attach
    split
    · rfl
    · exact (attacher_acquire ..).trans (attacher_acquire ..)
  | detach pair => exact attacher_detach pair x.1 x.2
  | detachAll =>
    exact List.foldlRecOn x.1.pairs.toList _
      (motive := fun y : Attachments × Platform => y.1.attacher = x.1.attacher) rfl
      fun y hy pair _ => (attacher_detach pair y.1 y.2).trans hy

/-- From `p` to `p'` the count of an interface goes from `k` to `m`, and there is a call about it
exactly if it comes into use or goes out of use. -/
def Turns (iface : String) (call : Call) (attacher : Bool) (k m : Nat) (p p' : Platform) : Prop :=
  (programCalls iface).Adds (if attacher ∧ (k = 0 ↔ m ≠ 0) then [call] else []) p p'

section

variable {attacher : Bool} {i : String} {call : Call} {k l m : Nat} {q r : Platform}

/-- Where the count stays there is no call. -/
theorem Turns.of_same (h : (programCalls i).Adds [] p q) : Turns i call attacher k k p q := by
  rw [Turns, if_neg fun hchange => iff_not_self hchange.2]
  exact h

/-- While the count only grows, or only falls, there is one call at most. -/
theorem Turns.trans (h : Turns i call attacher k l p q) (h' : Turns i call attacher l m q r)
    (hmono : k ≤ l ∧ l ≤ m ∨ m ≤ l ∧ l ≤ k) : Turns i call attacher k m p r := by
  have hboth : (programCalls i).Adds _ p r := Reading.Adds.trans h h'
  -- A count that only grows leaves zero once, and one that only falls gets there once.
  by_cases hfirst : k = 0 ↔ l ≠ 0
  · have hsecond : ¬(l = 0 ↔ m ≠ 0) := by omega
    have hwhole : k = 0 ↔ m ≠ 0 := by omega
    simpa only [Turns, eq_true hfirst, eq_false hsecond, eq_true hwhole, and_true, and_false,
      if_false, List.nil_append] using hboth
  · have hsame : (l = 0 ↔ m ≠ 0) ↔ (k = 0 ↔ m ≠ 0) := by omega
    simpa only [Turns, eq_false hfirst, hsame, and_false, if_false, List.append_nil] using hboth

end

/-- The first count of an interface attaches its program. -/
theorem adds_acquire (iface : String) (d : Direction) (a : Attachments) (p : Platform)
    (i : String) : (programCalls i).Adds
      (if a.attacher ∧ iface = i ∧ a.count i = 0 then [.attach i d] else []) p
      (acquire iface d a p).2 := by
  have hacquire : (acquire iface d a p).2 = if a.count iface + 1 = 1
      then attachProgram a.attacher iface d p
      else p.note (.alreadyAttached iface (a.count iface + 1)) := by
    unfold acquire
    dsimp only
    split <;> rfl
  obtain ⟨refusal, hword⟩ := adds_attachProgram (programCalls i) a.attacher iface d p
  have hnote : (programCalls i).Adds [] p (p.note (.alreadyAttached iface (a.count iface + 1))) :=
    (programCalls i).adds_note p rfl
  rw [hacquire]
  by_cases hi : iface = i
  · subst hi
    by_cases hzero : a.count iface = 0
    · simpa [programCalls, hzero] using hword
    · simpa [hzero] using hnote
  · rw [if_neg fun h => hi h.2.1]
    split
    · simpa [programCalls, hi] using hword
    · exact hnote

/-- The last count of an interface detaches its program. -/
theorem adds_release {iface : String} (h : a.counts[iface]? = some (k + 1)) (p : Platform)
    (i : String) : (programCalls i).Adds
      (if a.attacher ∧ iface = i ∧ k = 0 then [.detach i] else []) p (release iface a p).2 := by
  have hrelease : (release iface a p).2 =
      if k + 1 ≤ 1 then detachProgram a.attacher iface p else p := by
    unfold release
    rw [h]
    dsimp only
    split <;> rfl
  obtain ⟨refusal, hword⟩ := adds_detachProgram (programCalls i) a.attacher iface p
  rw [hrelease]
  by_cases hi : iface = i
  · subst hi
    by_cases hzero : k = 0
    · simpa [programCalls, hzero] using hword
    · simpa [hzero] using Reading.Adds.refl (programCalls iface) p
  · rw [if_neg fun h => hi h.2.1]
    split
    · simpa [programCalls, hi] using hword
    · exact .refl _ p

/-- An interface that is counted once more comes into use with the first count. -/
theorem turns_acquire {calls : List SideCall} (h : Tracks n running a calls) {i iface : String}
    {d : Direction} {call : Call} (hcall : iface = i → n i = 0 → call = .attach i d)
    (p : Platform) : Turns i call a.attacher (n i) (n i + if iface = i then 1 else 0) p
      (acquire iface d a p).2 := by
  have hadds := adds_acquire iface d a p i
  rw [h.count_eq] at hadds
  unfold Turns
  by_cases hi : iface = i
  · by_cases hzero : n i = 0
    · rw [hcall hi hzero]
      simpa [hi, hzero] using hadds
    · simpa [hi, hzero] using hadds
  · simpa [hi] using hadds

/-- An interface that is counted once less goes out of use with the last count. -/
theorem turns_release {calls : List SideCall} (h : Tracks n running a calls) {iface : String}
    (hn : n iface ≠ 0) (i : String) (p : Platform) :
    Turns i (.detach i) a.attacher (n i) (n i - if iface = i then 1 else 0) p
      (release iface a p).2 := by
  obtain ⟨k, hk⟩ := Nat.exists_eq_succ_of_ne_zero hn
  have hadds := adds_release (k := k) (by rw [h.counts, if_neg hn, hk]) p i
  unfold Turns
  by_cases hi : iface = i
  · subst hi
    simpa [hk] using hadds
  · simpa [hi] using hadds

/-- An interface comes into use with the first pair that has it. -/
theorem turns_attach (h : Tracks a.uses running a (sideCalls.word p.past)) (pair : Pair)
    (i : String) : Turns i (.attach i (pair.direction i)) a.attacher (a.uses i)
      ((attach pair a p).1.uses i) p (attach pair a p).2 := by
  by_cases hpair : pair ∈ a.pairs
  · rw [attach_of_mem hpair]
    exact .of_same ((programCalls i).adds_note _ rfl)
  · have hpaired := h.setPairs (a.pairs.insert pair)
    -- The external interface is the first, so the internal one is first only where they differ.
    have hdown : pair.external = i → a.uses i = 0 →
        Call.attach i (pair.direction i) = .attach i .downstream := fun hi _ => by
      rw [Pair.direction, if_pos hi]
    have hup : pair.internal = i → a.uses i + (if pair.external = i then 1 else 0) = 0 →
        Call.attach i (pair.direction i) = .attach i .upstream := fun _ hnone => by
      rw [Pair.direction, if_neg fun hi => by simp [hi] at hnone]
    have hexternal := turns_acquire hpaired hdown p
    have hinternal := turns_acquire (hpaired.acquire pair.external .downstream) hup
      (acquire pair.external .downstream { a with pairs := a.pairs.insert pair } p).2
    rw [attacher_acquire] at hinternal
    rw [uses_attach hpair, attach_of_not_mem hpair]
    exact hexternal.trans hinternal (.inl ⟨Nat.le_add_right _ _, Nat.le_add_right _ _⟩)

/-- An interface goes out of use with the last pair that has it. -/
theorem turns_detach (h : Tracks a.uses running a (sideCalls.word p.past)) (pair : Pair)
    (i : String) : Turns i (.detach i) a.attacher (a.uses i) ((detach pair a p).1.uses i) p
      (detach pair a p).2 := by
  by_cases hpair : pair ∈ a.pairs
  · obtain ⟨hcounted, hcounted'⟩ := counted_of_mem hpair
    have hpaired := h.setPairs (a.pairs.erase pair)
    have hexternal := turns_release hpaired hcounted i p
    have hinternal := turns_release (hpaired.release hcounted) hcounted' i
      (release pair.external { a with pairs := a.pairs.erase pair } p).2
    rw [attacher_release] at hinternal
    rw [uses_detach hpair, detach_of_mem hpair]
    exact hexternal.trans hinternal (.inr ⟨Nat.sub_le _ _, Nat.sub_le _ _⟩)
  · rw [detach_of_not_mem hpair]
    exact .of_same ((programCalls i).adds_note _ rfl)

/-- What an attached pair counts is there to be counted no more, the external interface first and
the internal one then, even if they are the same. -/
theorem counts_of_mem (h : Tracks a.uses running a (sideCalls.word p.past)) {pair : Pair}
    (hpair : pair ∈ a.pairs) :
    (∃ k, a.counts[pair.external]? = some (k + 1)) ∧
    ∃ k, (release pair.external { a with pairs := a.pairs.erase pair }
      p).1.counts[pair.internal]? = some (k + 1) := by
  obtain ⟨hexternal, hinternal⟩ := counted_of_mem hpair
  have hreleased := (h.setPairs (a.pairs.erase pair)).release hexternal
  obtain ⟨k, hk⟩ := Nat.exists_eq_succ_of_ne_zero hexternal
  obtain ⟨m, hm⟩ := Nat.exists_eq_succ_of_ne_zero hinternal
  exact ⟨⟨k, by rw [h.counts, if_neg hexternal, hk]⟩,
    m, by rw [hreleased.counts, if_neg hinternal, hm]⟩

/-- While all pairs are detached, interfaces only go out of use. -/
theorem turns_detachAll (h : Tracks a.uses running a (sideCalls.word p.past)) (i : String) :
    Turns i (.detach i) a.attacher (a.uses i) ((detachAll a p).1.uses i) p
      (detachAll a p).2 := by
  have hfold := List.foldlRecOn a.pairs.toList (fun x pair => detach pair x.1 x.2)
    (motive := fun x : Attachments × Platform =>
      Tracks x.1.uses running x.1 (sideCalls.word x.2.past) ∧ x.1.attacher = a.attacher ∧
        x.1.uses i ≤ a.uses i ∧ Turns i (.detach i) a.attacher (a.uses i) (x.1.uses i) p x.2)
    (b := (a, p)) ⟨h, rfl, Nat.le_refl _, .of_same (.refl _ p)⟩
    fun x ⟨htracks, hattacher, hle, hturns⟩ pair _ =>
      have hle' := uses_detach_le pair x.1 x.2 i
      have hturns' := turns_detach htracks pair i
      ⟨htracks.detach pair, (attacher_detach ..).trans hattacher, Nat.le_trans hle' hle,
        hturns.trans (hattacher ▸ hturns') (.inr ⟨hle', hle⟩)⟩
  exact hfold.2.2.2

/-! ## Runs -/

/-- An operation keeps the table of counts right. -/
theorem Tracks.run {x : Attachments × Platform}
    (h : Tracks x.1.uses running x.1 (sideCalls.word x.2.past)) (op : PairOp) :
    Tracks (Attachments.run x op).1.uses running (Attachments.run x op).1
      (sideCalls.word (Attachments.run x op).2.past) := by
  cases op with
  | attach pair => exact h.attach pair
  | detach pair => exact h.detach pair
  | detachAll =>
    exact List.foldlRecOn x.1.pairs.toList _
      (motive := fun y : Attachments × Platform =>
        Tracks y.1.uses running y.1 (sideCalls.word y.2.past)) h
      fun y hy pair _ => hy.detach pair

/-- An operation makes a call about an interface exactly when it brings the interface into use or
takes it out of use. -/
theorem turns_run {x : Attachments × Platform}
    (h : Tracks x.1.uses running x.1 (sideCalls.word x.2.past)) (op : PairOp) (i : String) :
    Turns i (op.call i) x.1.attacher (x.1.uses i) ((run x op).1.uses i) x.2 (run x op).2 := by
  cases op with
  | attach pair => exact turns_attach h pair i
  | detach pair => exact turns_detach h pair i
  | detachAll => exact turns_detachAll h i

/-- Where a call attaches what comes into use and detaches what goes out of use, the calls still
take turns. -/
theorem Turns.bracketed {i : String} {call : Call} {k m : Nat} {q : Platform}
    (h : Turns i call true k m p q) (hcall : (k = 0 ↔ m ≠ 0) →
      call.onProgram = some (if k = 0 then .opens else .closes))
    (hw : Bracketed (decide (k ≠ 0)) (((programCalls i).word p.past).filterMap Call.onProgram)) :
    Bracketed (decide (m ≠ 0)) (((programCalls i).word q.past).filterMap Call.onProgram) := by
  rw [h, List.filterMap_append]
  by_cases hused : k = 0 <;> by_cases hused' : m = 0 <;>
    simp only [hused, hused', ne_eq, not_true, not_false_eq_true, iff_true, iff_false,
      true_and, if_true, if_false, decide_true, decide_false, forall_const,
      List.filterMap_cons, List.filterMap_nil] at hcall hw ⊢
  · exact hw
  · rw [hcall]
    exact hw.opens
  · rw [hcall]
    exact hw.closes
  · exact hw

/-- The calls about an interface still take turns after an operation. -/
theorem bracketed_run {x : Attachments × Platform}
    (h : Tracks x.1.uses running x.1 (sideCalls.word x.2.past)) (op : PairOp) {i : String}
    (hattacher : x.1.attacher)
    (hw : Bracketed (decide (x.1.uses i ≠ 0))
      (((programCalls i).word x.2.past).filterMap Call.onProgram)) :
    Bracketed (decide ((run x op).1.uses i ≠ 0))
      (((programCalls i).word (run x op).2.past).filterMap Call.onProgram) := by
  -- What is attached only comes into use, and what is detached only goes out of use.
  refine (hattacher ▸ turns_run h op i).bracketed (fun hchange => ?_) hw
  cases op with
  | attach pair =>
    have hchange : x.1.uses i = 0 ↔ (attach pair x.1 x.2).1.uses i ≠ 0 := hchange
    have hle := uses_le_attach pair x.1 x.2 i
    have hzero : x.1.uses i = 0 := by omega
    rw [if_pos hzero]
    rfl
  | detach pair =>
    have hchange : x.1.uses i = 0 ↔ (detach pair x.1 x.2).1.uses i ≠ 0 := hchange
    have hle := uses_detach_le pair x.1 x.2 i
    have hused : x.1.uses i ≠ 0 := by omega
    rw [if_neg hused]
    rfl
  | detachAll =>
    have hnone := uses_of_pairs_eq_empty (pairs_detachAll x.1 x.2) i
    rw [if_neg fun hzero => hchange.mp hzero hnone]
    rfl

end

section

variable {attacher : Bool} {refuses : List Entry → Call → Option String} {ops : List PairOp}

theorem after_snoc (op : PairOp) :
    after attacher refuses (ops ++ [op]) = run (after attacher refuses ops) op := by
  rw [after, List.foldl_append]
  rfl

theorem attacher_after : (after attacher refuses ops).1.attacher = attacher :=
  List.foldlRecOn ops run (motive := fun x => x.1.attacher = attacher) rfl
    fun x hx op _ => (attacher_run op x).trans hx

/-- The table of counts is right after every run. The monitor has no part in it. -/
theorem tracks_after : Tracks (after attacher refuses ops).1.uses False
    (after attacher refuses ops).1 (sideCalls.word (after attacher refuses ops).2.past) :=
  List.foldlRecOn ops run
    (motive := fun x => Tracks x.1.uses False x.1 (sideCalls.word x.2.past))
    ⟨fun iface => by rw [uses_of_pairs_eq_empty rfl, if_pos rfl]; exact ExtTreeMap.getElem?_empty,
      fun _ => False.elim, iff_of_false id id⟩
    fun _ hx op _ => hx.run op

/-- The last operation makes its calls on top of those before. -/
theorem turns_snoc (attacher : Bool) (refuses : List Entry → Call → Option String)
    (ops : List PairOp) (op : PairOp) (i : String) :
    Turns i (op.call i) attacher ((after attacher refuses ops).1.uses i)
      ((after attacher refuses (ops ++ [op])).1.uses i) (after attacher refuses ops).2
      (after attacher refuses (ops ++ [op])).2 := by
  have hturns := turns_run (x := after attacher refuses ops) tracks_after op i
  rwa [attacher_after, ← after_snoc] at hturns

/-- There are no calls if nothing makes them. -/
theorem word_after_false (i : String) :
    (programCalls i).word (after false refuses ops).2.past = [] := by
  induction ops using List.reverseRecOn with
  | nil => rfl
  | append_singleton ops op ih =>
    rw [turns_snoc false refuses ops op i, ih]
    rfl

/-- The calls about an interface take turns in every run. -/
theorem bracketed_after (i : String) :
    Bracketed (decide ((after true refuses ops).1.uses i ≠ 0))
      (((programCalls i).word (after true refuses ops).2.past).filterMap Call.onProgram) := by
  induction ops using List.reverseRecOn with
  | nil => exact .nil
  | append_singleton ops op ih =>
    rw [after_snoc]
    exact bracketed_run tracks_after op attacher_after ih

/-- Detaching all pairs is detaching one after the other. -/
theorem detachAll_after :
    detachAll (after attacher refuses ops).1 (after attacher refuses ops).2 =
      after attacher refuses
        (ops ++ (after attacher refuses ops).1.pairs.toList.map .detach) := by
  conv => rhs; rw [after, List.foldl_append, List.foldl_map]
  rfl

/-- Without pairs there are no counts. -/
theorem after_eq_empty (h : (after attacher refuses ops).1.pairs = ∅) :
    (after attacher refuses ops).1 = empty attacher := by
  have hcounts : (after attacher refuses ops).1.counts = ∅ := ExtTreeMap.ext_getElem? fun i => by
    rw [tracks_after.counts, uses_of_pairs_eq_empty h, if_pos rfl]
    exact ExtTreeMap.getElem?_empty.symm
  have hattacher : (after attacher refuses ops).1.attacher = attacher := attacher_after
  revert h hcounts hattacher
  rcases (after attacher refuses ops).1 with ⟨_, _, _⟩
  rintro rfl rfl rfl
  rfl

/-- Nothing is left once all pairs are detached. -/
theorem detachAll_eq_empty :
    (detachAll (after attacher refuses ops).1 (after attacher refuses ops).2).1 =
      empty attacher := by
  have hpairs := pairs_detachAll (after attacher refuses ops).1 (after attacher refuses ops).2
  rw [detachAll_after] at hpairs ⊢
  exact after_eq_empty hpairs

/-- An operation attaches its pair, and leaves the other pairs that it does not detach. -/
theorem mem_pairs_run (x : Attachments × Platform) (op : PairOp) (pair : Pair) :
    pair ∈ (run x op).1.pairs ↔
      op = .attach pair ∨ pair ∈ x.1.pairs ∧ op ≠ .detach pair ∧ op ≠ .detachAll := by
  cases op with
  | attach other =>
    have hattach : pair ∈ (run x (.attach other)).1.pairs ↔ other = pair ∨ pair ∈ x.1.pairs :=
      mem_pairs_attach
    simp [hattach]
  | detach other =>
    have hdetach : (run x (.detach other)).1.pairs = x.1.pairs.erase other :=
      pairs_detach other x.1 x.2
    rw [hdetach, ExtTreeSet.mem_erase, ne_eq, Std.compare_eq_iff_eq]
    simp [and_comm]
  | detachAll =>
    have hnone : (run x .detachAll).1.pairs = ∅ := pairs_detachAll x.1 x.2
    simp [hnone]

/-- A pair is attached exactly if that was asked for and it was not detached since. -/
theorem mem_pairs_after {pair : Pair} :
    pair ∈ (after attacher refuses ops).1.pairs ↔ ∃ before later,
      ops = before ++ .attach pair :: later ∧
        PairOp.detach pair ∉ later ∧ PairOp.detachAll ∉ later :=
  holds_iff_lasts (fun ops => pair ∈ (after attacher refuses ops).1.pairs)
    ExtTreeSet.not_mem_empty (fun ops op => by rw [after_snoc]; exact mem_pairs_run _ op pair) ops

/-! ## Counts and calls -/

/-- A pair is attached exactly if that was asked for and it was not detached since. An interface is
counted once for each role that it plays in an attached pair, and it is in the table while that is
not zero; what a pair counts is there to be counted no more, the external interface first and the
internal one then. The calls about an interface take turns, the last one attaches its program
exactly if an attached pair has it, and there are none if nothing makes them. Detaching all pairs is
detaching one after the other, so that all this holds between them as well, and it leaves neither
pairs nor counts. -/
theorem counts_and_calls_of_pairs (attacher : Bool) (refuses : List Entry → Call → Option String)
    (ops : List PairOp) :
    let x := after attacher refuses ops
    (∀ pair, pair ∈ x.1.pairs ↔ ∃ before later, ops = before ++ .attach pair :: later ∧
      PairOp.detach pair ∉ later ∧ PairOp.detachAll ∉ later) ∧
    (∀ i, x.1.counts[i]? = if x.1.uses i = 0 then none else some (x.1.uses i)) ∧
    (∀ pair ∈ x.1.pairs, (∃ n, x.1.counts[pair.external]? = some (n + 1)) ∧
      ∃ n, (release pair.external { x.1 with pairs := x.1.pairs.erase pair }
        x.2).1.counts[pair.internal]? = some (n + 1)) ∧
    (∀ i, attacher = true → ∃ isOpen,
      Bracketed isOpen (((programCalls i).word x.2.past).filterMap Call.onProgram) ∧
        (isOpen = true ↔ ∃ pair ∈ x.1.pairs, pair.Has i)) ∧
    (∀ i, attacher = false → (programCalls i).word x.2.past = []) ∧
    detachAll x.1 x.2 = after attacher refuses (ops ++ x.1.pairs.toList.map .detach) ∧
    (detachAll x.1 x.2).1 = empty attacher := by
  refine ⟨fun _ => mem_pairs_after, tracks_after.counts, fun _ => counts_of_mem tracks_after, ?_,
    ?_, detachAll_after, detachAll_eq_empty⟩
  · rintro i rfl
    exact ⟨_, bracketed_after i, decide_eq_true_iff.trans uses_ne_zero⟩
  · rintro i rfl
    exact word_after_false i

/-! ## Directions -/

/-- An interface comes into use only with a pair that has it. -/
theorem exists_pair_of_uses {x : Attachments × Platform} {op : PairOp} {i : String}
    (h : x.1.uses i = 0) (hused : (run x op).1.uses i ≠ 0) :
    ∃ pair, op = .attach pair ∧ pair.Has i := by
  cases op with
  | attach pair =>
    refine ⟨pair, rfl, Pair.ends_ne_zero.mp fun hends => ?_⟩
    have hused : (attach pair x.1 x.2).1.uses i ≠ 0 := hused
    by_cases hpair : pair ∈ x.1.pairs
    · rw [attach_of_mem hpair] at hused
      exact hused h
    · rw [uses_attach hpair, Nat.add_assoc, h] at hused
      exact hused (by rw [Nat.zero_add]; exact hends)
  | detach pair =>
    have hle := uses_detach_le pair x.1 x.2 i
    exact absurd (Nat.le_zero.mp (h ▸ hle)) hused
  | detachAll => exact absurd (uses_of_pairs_eq_empty (pairs_detachAll x.1 x.2) i) hused

/-- An interface that is in use came into use with some pair, and it did not go out of use since.
The last call about it was made for that pair. -/
theorem exists_first_pair {i : String} (h : (after true refuses ops).1.uses i ≠ 0) :
    ∃ before first later, ops = before ++ .attach first :: later ∧ first.Has i ∧
      (after true refuses before).1.uses i = 0 ∧
      (∀ soon, soon <+: later →
        (after true refuses (before ++ .attach first :: soon)).1.uses i ≠ 0) ∧
      (programCalls i).word (after true refuses ops).2.past =
        .attach i (first.direction i) ::
          (programCalls i).word (after true refuses before).2.past := by
  induction ops using List.reverseRecOn with
  | nil => exact absurd (uses_of_pairs_eq_empty rfl i) h
  | append_singleton ops op ih =>
    have hturns := turns_snoc true refuses ops op i
    rw [Turns, Reading.Adds] at hturns
    -- The interface came into use with the last operation, or it was in use before that already.
    by_cases hused : (after true refuses ops).1.uses i = 0
    · obtain ⟨pair, rfl, hpair⟩ := exists_pair_of_uses hused (after_snoc op ▸ h)
      refine ⟨ops, pair, [], rfl, hpair, hused, fun soon hsoon => ?_, ?_⟩
      · rw [List.prefix_nil.mp hsoon]
        exact h
      · rw [hturns, if_pos ⟨rfl, iff_of_true hused h⟩]
        rfl
    · obtain ⟨before, first, later, rfl, hfirst, hbefore, hlater, hword⟩ := ih hused
      refine ⟨before, first, later ++ [op], by simp, hfirst, hbefore, fun soon hsoon => ?_, ?_⟩
      · rcases List.prefix_concat_iff.mp hsoon with rfl | hsoon
        · simpa using h
        · exact hlater soon hsoon
      · rw [hturns, if_neg fun hchange => hused (hchange.2.mpr h), hword]
        rfl

/-- Each interface of an attached pair has a program, and the last call about it attached that: it
was made for the pair with which the interface came into use, in the direction of the role that the
interface plays there, and some attached pair has had the interface ever since. -/
theorem program_of_pair (refuses : List Entry → Call → Option String) (ops : List PairOp)
    {pair : Pair} (h : pair ∈ (after true refuses ops).1.pairs) {i : String} (hi : pair.Has i) :
    ∃ before first later, ops = before ++ .attach first :: later ∧ first.Has i ∧
      (¬∃ other ∈ (after true refuses before).1.pairs, other.Has i) ∧
      (∀ soon, soon <+: later →
        ∃ other ∈ (after true refuses (before ++ .attach first :: soon)).1.pairs, other.Has i) ∧
      (programCalls i).word (after true refuses ops).2.past =
        .attach i (if i = first.external then .downstream else .upstream) ::
          (programCalls i).word (after true refuses before).2.past := by
  have hused := uses_ne_zero.mpr ⟨pair, h, hi⟩
  obtain ⟨before, first, later, hops, hfirst, hbefore, hlater, hword⟩ := exists_first_pair hused
  refine ⟨before, first, later, hops, hfirst, fun hother => uses_ne_zero.mpr hother hbefore,
    fun soon hsoon => uses_ne_zero.mp (hlater soon hsoon), ?_⟩
  rw [hword, Pair.direction]
  simp only [eq_comm]

end

/-- An interface that is an internal one first and then an external one. -/
def crossing : List PairOp := [
  .attach ⟨"wlan0", "rmnet0"⟩,
  .attach ⟨"usb0", "wlan0"⟩]

/-- A program that is attached counts for one role only while it is needed in both. -/
theorem program_of_crossing :
    (⟨"usb0", "wlan0"⟩ ∈ (after true (fun _ _ => none) crossing).1.pairs ∧
      Pair.Has ⟨"usb0", "wlan0"⟩ "wlan0") ∧
    ∃ before first later, crossing = before ++ .attach first :: later ∧ first.Has "wlan0" := by
  have hpair : ⟨"usb0", "wlan0"⟩ ∈ (after true (fun _ _ => none) crossing).1.pairs := by
    decide +kernel
  have hhas : Pair.Has ⟨"usb0", "wlan0"⟩ "wlan0" := .inr rfl
  obtain ⟨before, first, later, hops, hfirst, -⟩ :=
    program_of_pair (fun _ _ => none) crossing hpair hhas
  exact ⟨⟨hpair, hhas⟩, before, first, later, hops, hfirst⟩

/-- The last time that an interface was asked to be attached in a direction comes after the last
time that it was asked to be detached. -/
def AttachedAs (iface : String) (d : Direction) (past : List Entry) : Prop :=
  ∃ newer older, (programCalls iface).word past = newer ++ .attach iface d :: older ∧
    .detach iface ∉ newer

/-- An interface that an attached pair has as its external one need not be attached for that, also
if no call fails. -/
theorem not_attached_for_role :
    ¬∀ (ops : List PairOp), ∀ pair ∈ (after true (fun _ _ => none) ops).1.pairs,
      AttachedAs pair.internal .upstream (after true (fun _ _ => none) ops).2.past ∧
      AttachedAs pair.external .downstream (after true (fun _ _ => none) ops).2.past := by
  intro hall
  have hpair : ⟨"usb0", "wlan0"⟩ ∈ (after true (fun _ _ => none) crossing).1.pairs := by
    decide +kernel
  have hword : (programCalls "wlan0").word (after true (fun _ _ => none) crossing).2.past =
      [.attach "wlan0" .upstream] := by
    decide +kernel
  obtain ⟨-, newer, older, hcalls, -⟩ := hall crossing _ hpair
  have hmem : .attach "wlan0" .downstream ∈
      (programCalls "wlan0").word (after true (fun _ _ => none) crossing).2.past := by
    rw [hcalls]
    exact List.mem_append_right _ List.mem_cons_self
  rw [hword] at hmem
  exact absurd hmem (by decide)

end Attachments

end FastPath
