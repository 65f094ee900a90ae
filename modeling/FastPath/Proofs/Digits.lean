import FastPath.Json.Token
import Mathlib.Algebra.GroupWithZero.Nat
import Mathlib.Data.List.TakeDrop

/-!
# Digits

Numbers are written as digits, and read from as many digits as there are in a row. So a number that
is written before something that is no digit is read back, in base ten (`gather_toDigits`) and in
base sixteen (`ofHexDigits_hexDigits`).
-/

namespace FastPath

namespace Text

/-- The characters of a kind end where one of another kind follows. -/
theorem span_append {α : Type} {p : α → Bool} {xs r : List α} (hxs : ∀ x ∈ xs, p x)
    (hr : ∀ x ∈ r.head?, p x = false) : (xs ++ r).span p = (xs, r) := by
  rw [List.span_eq_takeWhile_dropWhile, List.takeWhile_append_of_pos hxs,
    List.dropWhile_append_of_pos hxs]
  cases r with
  | nil => rw [List.takeWhile_nil, List.append_nil, List.dropWhile_nil]
  | cons x r =>
    have hx : ¬p x := by simp [hr x rfl]
    rw [List.takeWhile_cons_of_neg hx, List.append_nil, List.dropWhile_cons_of_neg hx]

/-! ## Base sixteen -/

/-- The digits of a number are hexadecimal, and they denote it. -/
theorem hexDigits_spec (n : Nat) :
    (∀ c ∈ hexDigits n, (hexValue? c).isSome) ∧
      ofHexDigits ((hexDigits n).filterMap hexValue?) = n := by
  have hdigit : ∀ m, (hexValue? (hexDigit (m % 16))) = some (m % 16) := fun m =>
    hexValue?_hexDigit (Nat.mod_lt m (by decide))
  fun_induction hexDigits n with
  | case1 n hn =>
    have hvalue := hexValue?_hexDigit hn
    simp [hvalue, ofHexDigits]
  | case2 n hn ih =>
    obtain ⟨hall, hvalue⟩ := ih
    refine ⟨?_, ?_⟩
    · rw [List.forall_mem_append, List.forall_mem_singleton, hdigit]
      exact ⟨hall, rfl⟩
    · rw [List.filterMap_append, List.filterMap_cons_some (hdigit n), List.filterMap_nil]
      unfold ofHexDigits at hvalue ⊢
      rw [List.foldl_append, hvalue]
      exact Nat.div_add_mod n 16

/-- A number has at least one digit, and no more than it needs. -/
theorem length_hexDigits_pos (n : Nat) : 0 < (hexDigits n).length := by
  rw [hexDigits]
  split
  · exact Nat.one_pos
  · rw [List.length_append]
    exact Nat.succ_pos _

theorem length_hexDigits_le {n k : Nat} (h : n < 16 ^ (k + 1)) : (hexDigits n).length ≤ k + 1 := by
  induction k generalizing n with
  | zero =>
    have hone : n < 16 := by rwa [Nat.zero_add, Nat.pow_one] at h
    rw [hexDigits, if_pos hone]
    exact Nat.le_refl _
  | succ k ih =>
    rw [hexDigits]
    split
    · exact Nat.succ_le_succ (Nat.zero_le _)
    · rw [List.length_append]
      exact Nat.succ_le_succ (ih (Nat.div_lt_of_lt_mul (by rwa [Nat.pow_succ, Nat.mul_comm] at h)))

end Text

namespace Json

/-! ## Base ten -/

/-- The first digit of a number is a zero only if it is the only one. -/
theorem head_toDigits_ne_zero {n : Nat} (h : n ≠ 0) (r : List Char) :
    ∃ c cs, Nat.toDigits 10 n ++ r = c :: cs ∧ c.isDigit ∧ c ≠ '0' := by
  induction n using Nat.base_induction 10 (by decide) generalizing r with
  | single m hm =>
    rw [Nat.toDigits_of_lt_base hm]
    refine ⟨_, _, rfl, ?_⟩
    have hall : ∀ m < 10, m ≠ 0 → m.digitChar.isDigit ∧ m.digitChar ≠ '0' := by decide
    exact hall m hm h
  | digit m k hk hm ih =>
    rw [← Nat.toDigits_append_toDigits (by decide) hm hk, List.append_assoc]
    exact ih (Nat.pos_iff_ne_zero.mp hm) _

/-- Digits behind a number do not make it smaller. -/
theorem le_ofDigitChars (n : Nat) (ds : List Char) : n ≤ Nat.ofDigitChars 10 ds n := by
  rw [Nat.ofDigitChars_eq_ofDigitChars_zero]
  exact Nat.le_trans (Nat.le_mul_of_pos_left n (Nat.pow_pos (by decide))) (Nat.le_add_right _ _)

/-- All digits of a number that fits into a word are put into it. -/
theorem gather_eq {n : Nat} {ds : List Char} (h : Nat.ofDigitChars 10 ds n < UInt64.size) :
    gather n ds = (Nat.ofDigitChars 10 ds n, []) := by
  induction ds generalizing n with
  | nil => rfl
  | cons d ds ih =>
    rw [Nat.ofDigitChars_cons] at h ⊢
    have hlonger : 10 * n + decimalValue d < UInt64.size :=
      Nat.lt_of_le_of_lt (le_ofDigitChars ..) h
    rw [gather, if_pos hlonger]
    exact ih h

/-- A number that fits into a word is rounded by less than one of its units, which is no more than
the eleven bits that a double cannot hold. -/
theorem nearestDouble_lt {n : Nat} (h : n < UInt64.size) : nearestDouble n < doubleBound := by
  have hunit : 1 <<< (n.log2 - 52) ≤ 2 ^ 11 := by
    rw [Nat.shiftLeft_eq, Nat.one_mul]
    have hlog : n.log2 < 64 := by
      rcases Nat.eq_zero_or_pos n with rfl | hn
      · decide
      · exact (Nat.log2_lt (Nat.pos_iff_ne_zero.mp hn)).mpr h
    exact Nat.pow_le_pow_right (by decide) (by omega)
  have hrounded : nearestDouble n ≤ (n / 1 <<< (n.log2 - 52) + 1) * 1 <<< (n.log2 - 52) := by
    unfold nearestDouble
    refine Nat.mul_le_mul_right _ ?_
    split <;> omega
  calc nearestDouble n
      ≤ (n / 1 <<< (n.log2 - 52) + 1) * 1 <<< (n.log2 - 52) := hrounded
    _ = n / 1 <<< (n.log2 - 52) * 1 <<< (n.log2 - 52) + 1 <<< (n.log2 - 52) := Nat.succ_mul ..
    _ ≤ n + 2 ^ 11 := Nat.add_le_add (Nat.div_mul_le_self ..) hunit
    _ ≤ UInt64.size + 2 ^ 11 := Nat.add_le_add_right (Nat.le_of_lt h) _
    _ < doubleBound := by decide

/-- So it is not too large for a double. -/
theorem not_beyondDoubles {n : Nat} (h : n < UInt64.size) : beyondDoubles n 0 = false := by
  have hone : nearestDouble 1 = 1 := by decide
  simp [beyondDoubles, hone, largestPower, nearestDouble_lt h]

/-- The units of a number are its digits: a zero stands alone, and no other number starts with
one. -/
theorem scanUnits_toDigits (n : Nat) {r : List Char} (hr : ∀ c ∈ r.head?, c.isDigit = false) :
    scanUnits (Nat.toDigits 10 n ++ r) = some (Nat.toDigits 10 n, r) := by
  rcases Nat.eq_zero_or_pos n with rfl | hn
  · rfl
  · have hspan : (Nat.toDigits 10 n ++ r).span Char.isDigit = (Nat.toDigits 10 n, r) :=
      Text.span_append (fun c hc => Nat.isDigit_of_mem_toDigits (by decide) (by decide) hc) hr
    obtain ⟨c, cs, hcs, -, hc⟩ := head_toDigits_ne_zero (Nat.pos_iff_ne_zero.mp hn) r
    rw [hcs] at hspan ⊢
    unfold scanUnits
    split
    · rename_i heq
      exact absurd (List.cons.inj heq).1 hc
    · rw [hspan]
      cases hds : Nat.toDigits 10 n with
      | nil => exact absurd hds Nat.toDigits_ne_nil
      | cons d ds => rfl

/-- The value of a number's digits is the number, with the sign that stands before them. -/
theorem numberValue_toDigits {n : Int} (h : n.natAbs < UInt64.size) :
    numberValue (n < 0) (Nat.toDigits 10 n.natAbs) [] none = .whole n := by
  have hdigits : Nat.ofDigitChars 10 (Nat.toDigits 10 n.natAbs) 0 = n.natAbs :=
    Nat.ofDigitChars_ten_toDigits
  have hgather : gather 0 (Nat.toDigits 10 n.natAbs) = (n.natAbs, []) := by
    rw [gather_eq (by rwa [hdigits]), hdigits]
  have hdecimal : ofDecimal (Nat.toDigits 10 n.natAbs) = n.natAbs := hdigits
  have hempty : gather n.natAbs [] = (n.natAbs, []) := rfl
  unfold numberValue
  simp only [hgather, hdecimal, hempty, List.length_nil, Nat.sub_self, Option.getD_none,
    Int.natCast_zero, Int.add_zero, Int.sub_zero, not_beyondDoubles h, List.isEmpty_nil,
    Option.isNone_none]
  by_cases hneg : n < 0
  · have hzero : n.natAbs ≠ 0 := by omega
    have hsign : -(n.natAbs : Int) = n := by omega
    simp only [hneg, hzero, hsign, Bool.false_eq_true, if_false, and_self, if_true, decide_true]
  · have hsign : (n.natAbs : Int) = n := by omega
    simp only [hneg, hsign, Bool.false_eq_true, if_false, and_self, if_true, decide_false]

/-- What may follow a number: nothing that would be read as a part of it. -/
def Delimited (r : List Char) : Prop :=
  ∀ c ∈ r.head?, c.isDigit = false ∧ c ≠ '.' ∧ c ≠ 'e' ∧ c ≠ 'E'

/-- A number is read back from its digits, with a sign before it if it is negative. -/
theorem scanNumber_wholeText {n : Int} (h : n.natAbs < UInt64.size) {r : List Char}
    (hr : Delimited r) : scanNumber (wholeText n ++ r) = some (.whole n, r) := by
  have hunits := scanUnits_toDigits n.natAbs fun c hc => (hr c hc).1
  have hfraction : scanFraction r = some ([], r) := by
    unfold scanFraction
    split
    · exact absurd rfl (hr '.' rfl).2.1
    · rfl
  have hexponent : scanExponent r = some (none, r) := by
    cases r with
    | nil => rfl
    | cons c r =>
      obtain ⟨-, -, hlower, hupper⟩ := hr c rfl
      simp [scanExponent, hlower, hupper]
  have hvalue := numberValue_toDigits h
  unfold wholeText
  split
  · next hneg =>
    rw [decide_eq_true hneg] at hvalue
    simp only [scanNumber, List.cons_append, hunits, hfraction, hexponent, hvalue,
      Option.bind_eq_bind, Option.bind_some, Option.pure_def]
  · next hpos =>
    rw [decide_eq_false hpos] at hvalue
    have hdigit : ∀ c ∈ Nat.toDigits 10 n.natAbs, c.isDigit := fun c hc =>
      Nat.isDigit_of_mem_toDigits (by decide) (by decide) hc
    cases hds : Nat.toDigits 10 n.natAbs with
    | nil => exact absurd hds Nat.toDigits_ne_nil
    | cons d ds =>
      rw [hds] at hunits hvalue hdigit
      have hd : d ≠ '-' := fun h => by
        subst h
        exact absurd (hdigit _ List.mem_cons_self) (by decide)
      unfold scanNumber
      split
      · next heq =>
        split at heq
        · next heq' => exact absurd (List.cons.inj heq').1 hd
        · obtain ⟨rfl, rfl⟩ := heq
          simp only [hunits, hfraction, hexponent, hvalue, Option.bind_eq_bind, Option.bind_some,
            Option.pure_def]

end Json

end FastPath
