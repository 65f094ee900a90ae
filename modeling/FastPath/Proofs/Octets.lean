import FastPath.Proofs.Addresses
import Mathlib.Data.List.Forall2
import Mathlib.Data.Nat.Digits.Defs

/-!
# The grammar of hardware addresses

Which texts are read as a hardware address, and as which one, is told here by a grammar that does
not refer to the reader: six parts between colons, each an optional plus sign and at least one
hexadecimal digit, whose number is that of the octet (`Mac.parse_iff_names`). The text of an address
is among them, so that it is the same for all texts of the address.
-/

namespace FastPath

open FastPath.Text

/-! ## Digits -/

/-- The character is a hexadecimal digit, in either case, and has this value. -/
def IsHexDigit (c : Char) (v : Nat) : Prop :=
  "0123456789abcdef".toList[v]? = some c ∨ "0123456789ABCDEF".toList[v]? = some c

instance (c : Char) (v : Nat) : Decidable (IsHexDigit c v) := inferInstanceAs (Decidable (_ ∨ _))

/-- Every digit is a character of ASCII. -/
theorem toNat_lt_of_hexValue? {c : Char} {v : Nat} (h : hexValue? c = some v) : c.toNat < 128 := by
  have hle {d : Char} (hc : c ≤ d) (hd : d.toNat < 128) : c.toNat < 128 :=
    Nat.lt_of_le_of_lt (Char.le_def.mp hc) hd
  unfold hexValue? at h
  split at h
  · rename_i hc
    exact hle hc.2 (by decide)
  split at h
  · rename_i hc
    exact hle hc.2 (by decide)
  split at h
  · rename_i hc
    exact hle hc.2 (by decide)
  · cases h

/-- A digit is read as its value. -/
theorem hexValue?_eq_some_iff {c : Char} {v : Nat} : hexValue? c = some v ↔ IsHexDigit c v := by
  constructor
  · intro h
    have all : ∀ n : Fin 128, ∀ v ∈ hexValue? (Char.ofNat n), IsHexDigit (Char.ofNat n) v := by
      decide +kernel
    have hc := all ⟨c.toNat, toNat_lt_of_hexValue? h⟩ v
    rw [Char.ofNat_toNat] at hc
    exact hc h
  · have all : ∀ v : Fin 16, hexValue? ("0123456789abcdef".toList[v]) = some v.val ∧
        hexValue? ("0123456789ABCDEF".toList[v]) = some v.val := by
      decide
    rintro (h | h) <;> obtain ⟨hv, rfl⟩ := List.getElem?_eq_some_iff.mp h
    · exact (all ⟨v, hv⟩).1
    · exact (all ⟨v, hv⟩).2

/-- The digits of a number denote it, the most significant one first. -/
theorem ofHexDigits_eq (values : List Nat) :
    ofHexDigits values = Nat.ofDigits 16 values.reverse := by
  rw [Nat.ofDigits_eq_foldr, List.foldr_reverse, ofHexDigits]
  congr
  funext n d
  exact Nat.add_comm ..

/-- A list is read item by item. -/
theorem mapM_eq_some_iff {α β : Type} {f : α → Option β} {as : List α} {bs : List β} :
    as.mapM f = some bs ↔ List.Forall₂ (fun a b => f a = some b) as bs := by
  induction as generalizing bs with
  | nil => simp [eq_comm]
  | cons a as ih =>
    rw [List.mapM_cons, List.forall₂_cons_left_iff]
    simp only [Option.bind_eq_bind, Option.bind_eq_some_iff, Option.pure_def, ih,
      Option.some.injEq]
    constructor
    · rintro ⟨b, hb, bs', hbs, rfl⟩
      exact ⟨b, bs', hb, hbs, rfl⟩
    · rintro ⟨b, bs', hb, hbs, rfl⟩
      exact ⟨b, hb, bs', hbs, rfl⟩

/-- Digits are read as their values. -/
theorem mapM_hexValue?_eq_some_iff {digits : List Char} {values : List Nat} :
    digits.mapM hexValue? = some values ↔ List.Forall₂ IsHexDigit digits values := by
  simp only [mapM_eq_some_iff, hexValue?_eq_some_iff]

namespace Mac

/-- A part of an address names an octet: after a plus sign, which may be missing, come digits, at
least one, and the number of them is the octet. -/
def Names (part : List Char) (o : UInt8) : Prop :=
  ∃ digits values, (part = digits ∨ part = '+' :: digits) ∧ digits ≠ [] ∧
    List.Forall₂ IsHexDigit digits values ∧ Nat.ofDigits 16 values.reverse = o.toNat

/-- The plus sign is no digit, so that it can be told from the digits. -/
theorem unsigned_of_forall₂ {digits : List Char} {values : List Nat}
    (h : List.Forall₂ IsHexDigit digits values) : unsigned digits = digits := by
  cases h with
  | nil => rfl
  | @cons c v digits values hc _ =>
    have hplus : c ≠ '+' := by
      rintro rfl
      exact absurd (hexValue?_eq_some_iff.mpr hc) (by simp [show hexValue? '+' = none by decide])
    unfold unsigned
    split
    · rename_i heq
      exact absurd (List.cons.inj heq).1 hplus
    · rfl

/-- What is left of a part without its sign. -/
theorem unsigned_cases (part : List Char) : part = unsigned part ∨ part = '+' :: unsigned part := by
  unfold unsigned
  split
  · exact .inr rfl
  · exact .inl rfl

/-- A part is read as the octet that it names. -/
theorem octet?_eq_some_iff {part : List Char} {o : UInt8} :
    octet? part = some o ↔ Names part o := by
  constructor
  · intro h
    unfold octet? at h
    split at h
    · cases h
    · cases h
    · rename_i values hne hvalues
      split at h
      · rename_i hlt
        have hdigits := mapM_hexValue?_eq_some_iff.mp hvalues
        refine ⟨unsigned part, values, unsigned_cases part, ?_, hdigits, ?_⟩
        · intro hnil
          rw [hnil] at hvalues
          exact hne (Option.some.inj hvalues).symm
        · rw [← ofHexDigits_eq, ← Option.some.inj h, UInt8.toNat_ofNat', Nat.mod_eq_of_lt hlt]
      · cases h
  · rintro ⟨digits, values, hpart, hne, hdigits, hnumber⟩
    have hunsigned : unsigned part = digits := by
      rcases hpart with rfl | rfl
      · exact unsigned_of_forall₂ hdigits
      · rfl
    have hvalues : values ≠ [] := by
      rintro rfl
      exact hne (List.forall₂_nil_right_iff.mp hdigits)
    obtain ⟨v, vs, rfl⟩ := List.exists_cons_of_ne_nil hvalues
    have hread := mapM_hexValue?_eq_some_iff.mpr hdigits
    rw [← ofHexDigits_eq] at hnumber
    simp only [octet?, hunsigned, hread, hnumber, if_pos o.toNat_lt, UInt8.ofNat_toNat]

/-- A text is read as an address if its parts name the octets of the address, six of them. The text
of an address is read as this address, so that reading a text again as it is written changes
nothing. -/
theorem parse_iff_names :
    (∀ s m, parse s = .ok m ↔ List.Forall₂ Names (s.toList.splitOn ':') m.octets.toList) ∧
    (∀ m : Mac, parse m.text = .ok m) ∧
    ∀ s, (parse s >>= fun m => parse m.text) = parse s := by
  refine ⟨fun s m => ?_, parse_text, fun s => ?_⟩
  · rw [parse_eq_ok_iff, ← List.forall₂_eq_eq_eq, List.forall₂_map_left_iff,
      List.forall₂_map_right_iff, splitOn_eq]
    simp only [octet?_eq_some_iff]
  · cases h : parse s with
    | error e => rfl
    | ok m => exact parse_text m

end Mac

end FastPath
