import FastPath.Address.Ipv6
import FastPath.Address.Mac
import FastPath.Proofs.Digits
import Mathlib.Data.List.Basic

/-!
# Addresses and their texts

An address is read back from its text: a hardware address from its six octets (`Mac.parse_text`),
and an internet address from any of its three forms (`Ipv6.parse?_text`): all groups, a run of zeros
left out, and a dotted tail.
-/

namespace FastPath

open FastPath.Text

namespace Text

/-- A character that is no digit is not among the digits of a number. -/
theorem notMem_hexDigits {c : Char} (hc : hexValue? c = none) (n : Nat) : c ∉ hexDigits n := by
  intro h
  have hdigit := (hexDigits_spec n).1 c h
  rw [hc] at hdigit
  cases hdigit

/-- A byte is read back from its two digits. -/
theorem mapM_hexByte (b : UInt8) :
    ∃ high low, (hexByte b).mapM hexValue? = some [high, low] ∧
      ofHexDigits [high, low] = b.toNat := by
  have hlt : b.toNat < 256 := b.toNat_lt
  have hhigh := hexValue?_hexDigit (show b.toNat / 16 < 16 by omega)
  have hlow := hexValue?_hexDigit (show b.toNat % 16 < 16 by omega)
  refine ⟨b.toNat / 16, b.toNat % 16, ?_, ?_⟩
  · simp [hexByte, hhigh, hlow]
  · simp only [ofHexDigits, List.foldl_cons, List.foldl_nil]
    omega

/-- Both digits of a byte are digits. -/
theorem isSome_of_mem_hexByte {b : UInt8} {c : Char} (h : c ∈ hexByte b) :
    (hexValue? c).isSome := by
  have hlt : b.toNat < 256 := b.toNat_lt
  have hhigh := hexValue?_hexDigit (show b.toNat / 16 < 16 by omega)
  have hlow := hexValue?_hexDigit (show b.toNat % 16 < 16 by omega)
  simp only [hexByte, List.mem_cons, List.not_mem_nil, or_false] at h
  rcases h with rfl | rfl
  · rw [hhigh]
    rfl
  · rw [hlow]
    rfl

end Text

namespace Mac

/-- The digits of an octet have no sign. -/
theorem unsigned_hexByte (b : UInt8) : unsigned (hexByte b) = hexByte b := by
  unfold unsigned
  split
  · next ds heq =>
    have hplus : '+' ∈ hexByte b := by
      rw [heq]
      exact List.mem_cons_self
    exact absurd (isSome_of_mem_hexByte hplus) (by decide)
  · rfl

/-- An octet is read back from its two digits. -/
theorem octet?_hexByte (b : UInt8) : octet? (hexByte b) = some b := by
  obtain ⟨high, low, hvalues, hnumber⟩ := mapM_hexByte b
  simp only [octet?, unsigned_hexByte, hvalues, hnumber, if_pos b.toNat_lt, UInt8.ofNat_toNat]

/-- The parts of the text are the digits of the octets. -/
theorem splitOn_chars (m : Mac) : splitOn ':' m.chars = m.octets.toList.map hexByte := by
  have hcolon : ∀ part ∈ m.octets.toList.map hexByte, ':' ∉ part := by
    rintro part hpart hmem
    obtain ⟨b, -, rfl⟩ := List.mem_map.mp hpart
    exact absurd (isSome_of_mem_hexByte hmem) (by decide)
  have hne : m.octets.toList.map hexByte ≠ [] := by
    intro h
    have hlength : (m.octets.toList.map hexByte).length = 6 := by
      rw [List.length_map, Vector.length_toList]
    rw [h] at hlength
    cases hlength
  rw [splitOn_eq, chars, List.splitOn_intercalate ':' hcolon hne]

/-- An address is read where every part names an octet, and there are six of them. -/
theorem parse_eq_ok_iff {s : String} {m : Mac} :
    parse s = .ok m ↔ (splitOn ':' s.toList).map octet? = m.octets.toList.map some := by
  have hlength : m.octets.toList.length = 6 := Vector.length_toList
  unfold parse
  constructor
  · intro h
    dsimp only at h
    split at h
    · cases h
    rename_i hgood
    split at h
    · split at h
      · cases h
      rename_i hmost
      -- All parts are looked at, and none of them is wrong.
      have hall : (splitOn ':' s.toList).take 6 = splitOn ':' s.toList :=
        List.take_of_length_le (Nat.le_of_not_lt hmost)
      have hoctets : m.octets.toList = (splitOn ':' s.toList).filterMap octet? := by
        rw [← Except.ok.inj h]
        exact congrArg (List.filterMap octet?) hall
      rw [hoctets, List.map_filterMap_some_eq_filter_map_isSome]
      refine (List.filter_eq_self.mpr fun o ho => ?_).symm
      obtain ⟨part, hpart, rfl⟩ := List.mem_map.mp ho
      rw [hall] at hgood
      simpa [Option.isSome_iff_ne_none] using List.find?_eq_none.mp hgood part hpart
    · cases h
  · intro h
    have hsix : (splitOn ':' s.toList).length = 6 := by
      rw [← List.length_map (f := octet?), h, List.length_map, hlength]
    have hfront : (splitOn ':' s.toList).take 6 = splitOn ':' s.toList :=
      List.take_of_length_le (Nat.le_of_eq hsix)
    have hgood : (splitOn ':' s.toList).find? (fun p => (octet? p).isNone) = none := by
      refine List.find?_eq_none.mpr fun part hpart => ?_
      obtain ⟨o, -, ho⟩ := List.mem_map.mp (h ▸ List.mem_map_of_mem hpart)
      rw [← ho]
      exact Bool.false_ne_true
    have hoctets : (splitOn ':' s.toList).filterMap octet? = m.octets.toList := by
      have hmap := congrArg (List.filterMap id) h
      rwa [List.filterMap_map, List.filterMap_map, Function.id_comp, Function.id_comp,
        List.filterMap_some] at hmap
    simp only [hfront, hgood, hoctets, hlength, hsix, Nat.lt_irrefl, if_false, dif_pos]
    congr

/-- A hardware address is read back from its text. -/
theorem parse_text (m : Mac) : parse m.text = .ok m := by
  have hcomp : octet? ∘ hexByte = some := funext octet?_hexByte
  rw [parse_eq_ok_iff, text, String.toList_ofList, splitOn_chars, List.map_map, hcomp]

end Mac

namespace Ipv6

/-! ## Groups -/

/-- What follows a number is the end of what it was read from. -/
theorem suffix_of_readByte {cs r : List Char} {n : Nat} (h : readByte cs = some (n, r)) :
    r <:+ cs := by
  simp only [readByte, List.span_eq_takeWhile_dropWhile] at h
  split at h
  · cases h
    exact List.dropWhile_suffix _
  · cases h

/-- A text without a dot holds no dotted form. -/
theorem readDotted_eq_none {cs : List Char} (h : '.' ∉ cs) : readDotted cs = none := by
  cases hbyte : readByte cs with
  | none => rw [readDotted, hbyte, Option.bind_eq_bind, Option.bind_none]
  | some p =>
    obtain ⟨n, r⟩ := p
    have hskip : skip '.' r = none := by
      cases r with
      | nil => rfl
      | cons c r =>
        have hc : c ≠ '.' := by
          rintro rfl
          exact h ((suffix_of_readByte hbyte).subset List.mem_cons_self)
        rw [skip, if_neg hc]
    rw [readDotted, hbyte]
    simp only [Option.bind_eq_bind, Option.bind_some, hskip, Option.bind_none]

/-- A group is read back from its digits. -/
theorem readGroup_hexDigits (g : UInt16) {r : List Char}
    (hr : ∀ c ∈ r.head?, (hexValue? c).isSome = false) :
    readGroup (hexDigits g.toNat ++ r) = some (g, r) := by
  have hlt : g.toNat < 16 ^ (3 + 1) := g.toNat_lt
  obtain ⟨hdigits, hnumber⟩ := hexDigits_spec g.toNat
  have hlength : 1 ≤ (hexDigits g.toNat).length ∧ (hexDigits g.toNat).length ≤ 4 :=
    ⟨length_hexDigits_pos _, length_hexDigits_le hlt⟩
  simp only [readGroup, span_append hdigits hr, if_pos hlength, hnumber, UInt16.ofNat_toNat]

/-- The groups behind the first, each with a colon before it. -/
def tailChars (gs : List UInt16) : List Char :=
  gs.flatMap fun g => ':' :: hexDigits g.toNat

theorem groupChars_cons (g : UInt16) (gs : List UInt16) :
    groupChars (g :: gs) = hexDigits g.toNat ++ tailChars gs := by
  induction gs generalizing g with
  | nil => rw [groupChars, List.map_singleton, List.intercalate_singleton, tailChars,
      List.flatMap_nil, List.append_nil]
  | cons g' gs ih =>
    have hrest := ih g'
    unfold groupChars at hrest ⊢
    rw [List.map_cons] at hrest
    rw [List.map_cons, List.map_cons, List.intercalate_cons_cons, hrest, List.append_assoc]
    rfl

/-- There is no dot among groups. -/
theorem dot_notMem_tailChars (gs : List UInt16) : '.' ∉ tailChars gs := by
  intro h
  obtain ⟨g, -, hg⟩ := List.mem_flatMap.mp h
  rcases List.mem_cons.mp hg with h | h
  · exact absurd h (by decide)
  · exact notMem_hexDigits (by decide) _ h

/-- Where no further group is read: at the end, or before two colons. -/
def Stops (r : List Char) : Prop :=
  r = [] ∨ ∃ r', r = ':' :: ':' :: r'

theorem Stops.readGroups {r : List Char} (h : Stops r) (room : Nat) (first : Bool) :
    readGroups room first r = ([], false, r) := by
  rcases h with rfl | ⟨r', rfl⟩
  · rcases room with _ | _ | room <;> cases first <;> rfl
  · rcases room with _ | _ | room <;> cases first <;> rfl

/-- One group is read where no dotted form stands. -/
theorem readGroups_step {room : Nat} {first : Bool} {cs r : List Char} {g : UInt16}
    (hstart : (if first then some cs else skip ':' cs) = some (hexDigits g.toNat ++ r))
    (hnone : readDotted (hexDigits g.toNat ++ r) = none)
    (hr : ∀ c ∈ r.head?, (hexValue? c).isSome = false) :
    Ipv6.readGroups (room + 1) first cs =
      ((g :: (Ipv6.readGroups room false r).1), (Ipv6.readGroups room false r).2) := by
  rw [Ipv6.readGroups]
  simp only [hstart, Option.bind_some, hnone, ite_self, readGroup_hexDigits g hr]

/-- What follows a group is no digit. -/
theorem Stops.head_tailChars {r : List Char} (h : Stops r) (gs : List UInt16) :
    ∀ c ∈ (tailChars gs ++ r).head?, (hexValue? c).isSome = false := by
  cases gs with
  | nil =>
    rcases h with rfl | ⟨r', rfl⟩
    · rintro c ⟨⟩
    · rintro c ⟨⟩
      decide
  | cons g gs =>
    rintro c ⟨⟩
    decide

/-- No group is read as a dotted form where no dot follows. -/
theorem readDotted_hexDigits {g : UInt16} {gs : List UInt16} {r : List Char} (hdot : '.' ∉ r) :
    readDotted (hexDigits g.toNat ++ (tailChars gs ++ r)) = none := by
  refine readDotted_eq_none fun h => ?_
  rcases List.mem_append.mp h with h | h
  · exact notMem_hexDigits (by decide) _ h
  · rcases List.mem_append.mp h with h | h
    · exact dot_notMem_tailChars gs h
    · exact hdot h

/-- Groups behind others are read back. -/
theorem readGroups_tailChars {gs : List UInt16} {room : Nat} (hroom : gs.length ≤ room)
    {r : List Char} (hstop : Stops r) (hdot : '.' ∉ r) :
    Ipv6.readGroups room false (tailChars gs ++ r) = (gs, false, r) := by
  induction gs generalizing room with
  | nil => exact hstop.readGroups room false
  | cons g gs ih =>
    obtain ⟨room, rfl⟩ := Nat.exists_eq_succ_of_ne_zero (Nat.ne_zero_of_lt hroom)
    have htext : tailChars (g :: gs) ++ r = ':' :: (hexDigits g.toNat ++ (tailChars gs ++ r)) := by
      rw [tailChars, List.flatMap_cons, List.cons_append, List.cons_append, List.append_assoc]
      rfl
    rw [htext, readGroups_step rfl (readDotted_hexDigits hdot) (hstop.head_tailChars gs),
      ih (Nat.le_of_succ_le_succ hroom)]

/-- Groups are read back. -/
theorem readGroups_groupChars {gs : List UInt16} {room : Nat} (hroom : gs.length ≤ room)
    {r : List Char} (hstop : Stops r) (hdot : '.' ∉ r) :
    Ipv6.readGroups room true (groupChars gs ++ r) = (gs, false, r) := by
  cases gs with
  | nil => exact hstop.readGroups room true
  | cons g gs =>
    obtain ⟨room, rfl⟩ := Nat.exists_eq_succ_of_ne_zero (Nat.ne_zero_of_lt hroom)
    rw [groupChars_cons, List.append_assoc,
      readGroups_step rfl (readDotted_hexDigits hdot) (hstop.head_tailChars gs),
      readGroups_tailChars (Nat.le_of_succ_le_succ hroom) hstop hdot]

/-! ## The dotted form -/

/-- The value of a decimal digit. -/
theorem decimalValue?_of_isDigit {c : Char} (h : c.isDigit) :
    decimalValue? c = some (c.toNat - '0'.toNat) := by
  obtain ⟨hleast, hmost⟩ : 48 ≤ c.val ∧ c.val ≤ 57 := by simpa [Char.isDigit] using h
  have hrange : '0' ≤ c ∧ c ≤ '9' := ⟨hleast, hmost⟩
  rw [decimalValue?, if_pos hrange]

/-- The digits of a number have a value each. -/
theorem decimalValue?_of_mem_toDigits {n : Nat} {c : Char} (h : c ∈ Nat.toDigits 10 n) :
    decimalValue? c = some (c.toNat - '0'.toNat) :=
  decimalValue?_of_isDigit (Nat.isDigit_of_mem_toDigits (by decide) (by decide) h)

/-- The digits of a number denote it. -/
theorem foldl_toDigits (n : Nat) :
    (Nat.toDigits 10 n).foldl (fun n c => 10 * n + (decimalValue? c).getD 0) 0 = n := by
  rw [List.foldl_ext _ (fun n c => 10 * n + (c.toNat - '0'.toNat)) 0 fun n c hc => by
    rw [decimalValue?_of_mem_toDigits hc, Option.getD_some]]
  exact Nat.ofDigitChars_ten_toDigits

/-- A number of the dotted form is read back from its digits. -/
theorem readByte_toDigits {n : Nat} (h : n < 256) {r : List Char}
    (hr : ∀ c ∈ r.head?, (decimalValue? c).isSome = false) :
    readByte (Nat.toDigits 10 n ++ r) = some (n, r) := by
  have hdigits : ∀ c ∈ Nat.toDigits 10 n, (decimalValue? c).isSome := fun c hc => by
    rw [decimalValue?_of_mem_toDigits hc]
    rfl
  have hleast : 1 ≤ (Nat.toDigits 10 n).length := Nat.length_toDigits_pos
  have hmost : (Nat.toDigits 10 n).length ≤ 3 :=
    (Nat.length_toDigits_le_iff (by decide) (by decide)).mpr (by omega)
  have hzero : (Nat.toDigits 10 n).head? = some '0' → (Nat.toDigits 10 n).length = 1 := by
    intro hhead
    by_cases hn : n = 0
    · rw [hn, Nat.toDigits_zero, List.length_singleton]
    · obtain ⟨c, cs, hcons, -, hne⟩ := Json.head_toDigits_ne_zero hn []
      rw [List.append_nil] at hcons
      rw [hcons] at hhead
      exact absurd (Option.some.inj hhead) hne
  simp only [readByte, span_append hdigits hr, foldl_toDigits]
  rw [if_pos ⟨hleast, hmost, hzero, h⟩]

/-- Two groups are read back from their dotted form. -/
theorem readDotted_dottedChars (x y : UInt16) : readDotted (dottedChars x y) = some (x, y, []) := by
  have hx : x.toNat < 65536 := x.toNat_lt
  have hy : y.toNat < 65536 := y.toNat_lt
  have hdot : ∀ r, ∀ c ∈ ('.' :: r).head?, (decimalValue? c).isSome = false := by
    rintro r c ⟨⟩
    decide
  have hskip : ∀ r, skip '.' ('.' :: r) = some r := fun r => rfl
  have htext : dottedChars x y = Nat.toDigits 10 (x.toNat / 256) ++ '.' ::
      (Nat.toDigits 10 (x.toNat % 256) ++ '.' :: (Nat.toDigits 10 (y.toNat / 256) ++ '.' ::
        (Nat.toDigits 10 (y.toNat % 256) ++ []))) := by
    simp only [dottedChars, List.map_cons, List.map_nil, List.intercalate_cons_cons,
      List.intercalate_singleton, List.append_assoc, List.singleton_append, List.append_nil]
  have hend : ∀ c ∈ ([] : List Char).head?, (decimalValue? c).isSome = false := by
    rintro c ⟨⟩
  rw [htext]
  simp only [readDotted, Option.bind_eq_bind, Option.bind_some, hskip, Option.pure_def,
    readByte_toDigits (show x.toNat / 256 < 256 by omega) (hdot _),
    readByte_toDigits (show x.toNat % 256 < 256 by omega) (hdot _),
    readByte_toDigits (show y.toNat / 256 < 256 by omega) (hdot _),
    readByte_toDigits (show y.toNat % 256 < 256 by omega) hend]
  have hjoin : ∀ z : UInt16, UInt16.ofNat (z.toNat / 256 * 256 + z.toNat % 256) = z := fun z => by
    rw [Nat.div_add_mod', UInt16.ofNat_toNat]
  rw [hjoin, hjoin]

/-- A dotted form takes the place of two groups. -/
theorem readGroups_dottedChars (room : Nat) (x y : UInt16) :
    Ipv6.readGroups (room + 2) false (':' :: dottedChars x y) = ([x, y], true, []) := by
  have hstart : skip ':' (':' :: dottedChars x y) = some (dottedChars x y) := rfl
  rw [Ipv6.readGroups]
  simp only [hstart, Bool.false_eq_true, if_false, Option.bind_some, readDotted_dottedChars,
    Nat.add_one_ne_zero]

/-! ## Addresses -/

/-- Eight groups are an address. -/
theorem ofList?_toList (a : Ipv6) : ofList? a.groups.toList = some a := by
  have hlength : a.groups.toList.length = 8 := Vector.length_toList
  rw [ofList?, dif_pos hlength]
  congr

/-- An address that embeds one of version 4 is read back. -/
theorem ofChars?_mapped (x y : UInt16) :
    ofChars? ("::ffff:".toList ++ dottedChars x y) = ofList? [0, 0, 0, 0, 0, 0xffff, x, y] := by
  have hfront : Ipv6.readGroups 8 true ("::ffff:".toList ++ dottedChars x y) =
      ([], false, "::ffff:".toList ++ dottedChars x y) :=
    Stops.readGroups (.inr ⟨_, rfl⟩) 8 true
  have hgroup : hexDigits (0xffff : UInt16).toNat = "ffff".toList := by
    decide +kernel
  have hback : Ipv6.readGroups 7 true ("ffff:".toList ++ dottedChars x y) =
      ([0xffff, x, y], true, []) := by
    have hstart : "ffff:".toList ++ dottedChars x y =
        hexDigits (0xffff : UInt16).toNat ++ (':' :: dottedChars x y) := by
      rw [hgroup]
      rfl
    have hnone : readDotted (hexDigits (0xffff : UInt16).toNat ++ (':' :: dottedChars x y)) =
        none := by
      rw [hgroup]
      rfl
    have hcolon : ∀ c ∈ (':' :: dottedChars x y).head?, (hexValue? c).isSome = false := by
      rintro c ⟨⟩
      decide
    rw [hstart, readGroups_step rfl hnone hcolon, readGroups_dottedChars]
  have htext : "::ffff:".toList ++ dottedChars x y =
      ':' :: ':' :: ("ffff:".toList ++ dottedChars x y) := rfl
  unfold ofChars?
  rw [hfront, htext]
  simp only [List.length_nil, Nat.sub_zero, hback]
  rfl

/-- An address that is written with all of its groups is read back. -/
theorem ofChars?_full {gs : List UInt16} (h : gs.length = 8) :
    ofChars? (groupChars gs) = ofList? gs := by
  have hgroups : Ipv6.readGroups 8 true (groupChars gs) = (gs, false, []) := by
    have h := readGroups_groupChars (Nat.le_of_eq h) (.inl rfl) List.not_mem_nil
    rwa [List.append_nil] at h
  unfold ofChars?
  rw [hgroups]
  simp only [h, if_true, List.isEmpty_nil]

theorem dot_notMem_groupChars (gs : List UInt16) : '.' ∉ groupChars gs := by
  cases gs with
  | nil => exact List.not_mem_nil
  | cons g gs =>
    rw [groupChars_cons]
    exact List.not_mem_append (notMem_hexDigits (by decide) _) (dot_notMem_tailChars gs)

/-- An address with two colons in the place of zeros is read back. -/
theorem ofChars?_compressed {front back : List UInt16} (h : front.length + back.length < 8) :
    ofChars? (groupChars front ++ [':', ':'] ++ groupChars back) =
      ofList? (front ++ List.replicate (8 - front.length - back.length) 0 ++ back) := by
  have hfirst : front.length ≤ 8 := by omega
  have hlast : back.length ≤ 7 - front.length := by omega
  have hfront : Ipv6.readGroups 8 true (groupChars front ++ ':' :: ':' :: groupChars back) =
      (front, false, ':' :: ':' :: groupChars back) := by
    refine readGroups_groupChars hfirst (.inr ⟨_, rfl⟩) fun h => ?_
    rcases List.mem_cons.mp h with h | h
    · exact absurd h (by decide)
    · rcases List.mem_cons.mp h with h | h
      · exact absurd h (by decide)
      · exact dot_notMem_groupChars back h
  have hback : Ipv6.readGroups (7 - front.length) true (groupChars back) = (back, false, []) := by
    have h := readGroups_groupChars hlast (.inl rfl) List.not_mem_nil
    rwa [List.append_nil] at h
  have hnot : front.length ≠ 8 := by omega
  unfold ofChars?
  rw [List.append_assoc]
  simp only [List.cons_append, List.nil_append, hfront, if_neg hnot, Bool.false_eq_true, if_false,
    hback, List.isEmpty_nil, if_true]

/-- An address has as many zeros where a run starts as the run is long. -/
theorem append_zeroRun (gs : List UInt16) (i : Nat) :
    gs.take i ++ List.replicate (zeroRun gs i) 0 ++ gs.drop (i + zeroRun gs i) = gs := by
  have hall := List.all_eq_true.mp (List.all_takeWhile (p := (· = 0)) (l := gs.drop i))
  have hzeros : (gs.drop i).takeWhile (· = 0) = List.replicate (zeroRun gs i) 0 :=
    List.eq_replicate_iff.mpr ⟨rfl, fun g hg => of_decide_eq_true (hall g hg)⟩
  have hsplit : List.replicate (zeroRun gs i) 0 ++ (gs.drop i).dropWhile (· = 0) = gs.drop i := by
    rw [← hzeros, List.takeWhile_append_dropWhile]
  have hrest : gs.drop (i + zeroRun gs i) = (gs.drop i).dropWhile (· = 0) :=
    calc gs.drop (i + zeroRun gs i)
        = (gs.drop i).drop (zeroRun gs i) := List.drop_drop.symm
      _ = (List.replicate (zeroRun gs i) 0 ++ (gs.drop i).dropWhile (· = 0)).drop
            (zeroRun gs i) := by rw [hsplit]
      _ = (gs.drop i).dropWhile (· = 0) := List.drop_left' List.length_replicate
  rw [hrest, List.append_assoc, hsplit, List.take_append_drop]

/-- An address that is written without one of its runs of zeros is read back. -/
theorem ofChars?_without_run {gs : List UInt16} (h : gs.length = 8) {start : Nat}
    (hrun : 0 < zeroRun gs start) :
    ofChars? (groupChars (gs.take start) ++ [':', ':'] ++
      groupChars (gs.drop (start + zeroRun gs start))) = ofList? gs := by
  have hgroups := append_zeroRun gs start
  have hsum := congrArg List.length hgroups
  simp only [List.length_append, List.length_replicate, h] at hsum
  have hroom : 8 - (gs.take start).length - (gs.drop (start + zeroRun gs start)).length =
      zeroRun gs start := by
    omega
  rw [ofChars?_compressed (by omega), hroom, hgroups]

/-- An internet address is read back from its text. -/
theorem parse?_text (a : Ipv6) : parse? a.text = some a := by
  have hlength : a.groups.toList.length = 8 := Vector.length_toList
  rw [parse?, text, String.toList_ofList, chars]
  split
  · next x y hgroups => rw [ofChars?_mapped, ← hgroups, ofList?_toList]
  · dsimp only
    split
    · next hrun => rw [ofChars?_without_run hlength (Nat.lt_of_succ_lt hrun), ofList?_toList]
    · rw [ofChars?_full hlength, ofList?_toList]

end Ipv6

end FastPath
