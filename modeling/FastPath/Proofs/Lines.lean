import FastPath.Text.Line

/-!
# Lines of a text

Lines are cut out of bytes. In UTF-8 the bytes of a line feed and of a carriage return stand for
nothing else, so the lines of a text can as well be cut out of its characters, and each of them is
a text again (`map_decodeLine`).
-/

namespace FastPath.Text

section Cut

variable {α : Type} [DecidableEq α]

/-- A complete line without the carriage return at its end, when it has one. -/
def cutReturn (ret : α) (line : List α) : List α :=
  if line.getLast? = some ret then line.dropLast else line

/-- What comes after the last line feed is a line unless it is empty. -/
def lastLine (rest : List α) : List (List α) :=
  if rest = [] then [] else [rest]

/-- The lines of a list, without their ends, for any line feed and carriage return. -/
def linesBy (feed ret : α) (xs : List α) : List (List α) :=
  let parts := splitOn feed xs
  parts.dropLast.map (cutReturn ret) ++ lastLine (parts.getLast (splitOn_ne_nil feed xs))

/-- A list ends in what comes after its last line feed. -/
theorem exists_concat (feed ret : α) (xs : List α) :
    ∃ complete rest, splitOn feed xs = complete ++ [rest] ∧
      linesBy feed ret xs = complete.map (cutReturn ret) ++ lastLine rest :=
  ⟨_, _, (List.dropLast_concat_getLast (splitOn_ne_nil feed xs)).symm, rfl⟩

theorem linesBy_eq (feed ret : α) (xs : List α) {complete : List (List α)} {rest : List α}
    (h : splitOn feed xs = complete ++ [rest]) :
    linesBy feed ret xs = complete.map (cutReturn ret) ++ lastLine rest := by
  simp only [linesBy, h, List.getLast_concat, List.dropLast_concat]

/-- The lines of bytes. -/
theorem rawLines_eq (bytes : List UInt8) : rawLines bytes = linesBy 10 13 bytes := by
  obtain ⟨complete, rest, hparts, hlines⟩ := exists_concat 10 13 bytes
  simp only [rawLines, hparts, hlines, List.getLast?_concat, List.dropLast_concat]
  cases rest with
  | nil => exact (List.append_nil _).symm
  | cons b rest => rfl

/-- A line feed completes the lines before it. -/
theorem linesBy_append_cons (feed ret : α) (xs ys : List α) :
    linesBy feed ret (xs ++ feed :: ys) =
      (splitOn feed xs).map (cutReturn ret) ++ linesBy feed ret ys := by
  obtain ⟨complete, rest, hparts, hlines⟩ := exists_concat feed ret ys
  have hall : splitOn feed (xs ++ feed :: ys) = (splitOn feed xs ++ complete) ++ [rest] := by
    rw [splitOn_append_cons, hparts, List.append_assoc]
  rw [linesBy_eq feed ret _ hall, hlines, List.map_append, List.append_assoc]

end Cut

/-- The lines of a text. -/
def linesOf (text : String) : List String :=
  (linesBy '\n' '\r' text.toList).map String.ofList

/-! ## Bytes of a text -/

/-- The bytes of characters in UTF-8. -/
def encode (cs : List Char) : List UInt8 :=
  cs.flatMap String.utf8EncodeChar

theorem encode_cons (c : Char) (cs : List Char) :
    encode (c :: cs) = String.utf8EncodeChar c ++ encode cs :=
  List.flatMap_cons

/-- No character is written without a byte. -/
theorem encode_cons_ne_nil (c : Char) (cs : List Char) : encode (c :: cs) ≠ [] := by
  rw [encode_cons]
  exact List.append_ne_nil_of_left_ne_nil String.utf8EncodeChar_ne_nil _

theorem encode_concat (cs : List Char) (c : Char) :
    encode (cs ++ [c]) = encode cs ++ String.utf8EncodeChar c := by
  rw [encode, List.flatMap_append, List.flatMap_singleton]
  rfl

/-- The bytes of an array from an index on. -/
theorem toList_loop (bytes : ByteArray) (i : Nat) (read : List UInt8) :
    ByteArray.toList.loop bytes i read = read.reverse ++ bytes.data.toList.drop i := by
  fun_induction ByteArray.toList.loop bytes i read with
  | case1 i read h ih =>
    have hi : i < bytes.data.toList.length := h
    have hget : bytes.get! i = bytes.data.toList[i] := getElem!_pos bytes.data i h
    rw [ih, List.drop_eq_getElem_cons hi, List.reverse_cons, List.append_assoc, hget,
      List.singleton_append]
  | case2 i read h =>
    rw [List.drop_eq_nil_of_le (Nat.le_of_not_lt h), List.append_nil]

/-- A text is written as the bytes of its characters. -/
theorem toList_toUTF8 (text : String) : text.toUTF8.toList = encode text.toList := by
  obtain ⟨cs, rfl⟩ : ∃ cs, text = String.ofList cs := ⟨_, String.ofList_toList.symm⟩
  have hbytes : (String.ofList cs).toUTF8 = (encode cs).toByteArray := String.toByteArray_ofList
  rw [hbytes, String.toList_ofList, ByteArray.toList, toList_loop, List.toList_data_toByteArray]
  rfl

/-- The bytes of characters are read as these characters. -/
theorem decodeLine_encode (cs : List Char) : decodeLine (encode cs) = some (String.ofList cs) := by
  have hbytes : (⟨(encode cs).toArray⟩ : ByteArray) = cs.utf8Encode := by
    apply ByteArray.ext
    rw [← Array.toList_inj, List.utf8Encode, List.toList_data_toByteArray]
    rfl
  unfold decodeLine String.fromUTF8?
  rw [hbytes, dif_pos ByteArray.isValidUTF8_utf8Encode]
  rfl

/-- A character of ASCII is one byte, and no byte of another character is one of ASCII. -/
theorem utf8EncodeChar_cases (c : Char) :
    c.toNat < 128 ∧ String.utf8EncodeChar c = [UInt8.ofNat c.toNat] ∨
      128 ≤ c.toNat ∧ ∀ b ∈ String.utf8EncodeChar c, 128 ≤ b.toNat := by
  fun_cases String.utf8EncodeChar c with
  | case1 v h => exact .inl ⟨Nat.lt_succ_of_le h, rfl⟩
  | case2 v h | case3 v h | case4 v h =>
    refine .inr ⟨Nat.lt_of_not_le h, ?_⟩
    simp only [List.mem_cons, List.not_mem_nil, or_false, forall_eq_or_imp, forall_eq,
      UInt8.toNat_ofNat']
    omega

variable {a c : Char}

/-- A character of ASCII is one byte. -/
theorem utf8EncodeChar_ascii (ha : a.toNat < 128) :
    String.utf8EncodeChar a = [UInt8.ofNat a.toNat] := by
  rcases utf8EncodeChar_cases a with ⟨-, h⟩ | ⟨hge, -⟩
  · exact h
  · exact absurd ha (Nat.not_lt_of_le hge)

/-- The byte of a character of ASCII stands for nothing else. -/
theorem eq_of_mem_utf8EncodeChar (ha : a.toNat < 128)
    (h : UInt8.ofNat a.toNat ∈ String.utf8EncodeChar c) : c = a := by
  have hbyte : (UInt8.ofNat a.toNat).toNat = a.toNat := by
    rw [UInt8.toNat_ofNat', Nat.mod_eq_of_lt (by omega)]
  rcases utf8EncodeChar_cases c with ⟨hc, hone⟩ | ⟨-, hother⟩
  · have hsame : UInt8.ofNat a.toNat = UInt8.ofNat c.toNat := by
      rw [hone] at h
      exact List.mem_singleton.mp h
    have hcode := congrArg UInt8.toNat hsame
    rw [hbyte, UInt8.toNat_ofNat', Nat.mod_eq_of_lt (by omega)] at hcode
    exact (Char.toNat_inj.mp hcode).symm
  · have hbig := hother _ h
    omega

/-- A text is split at a character of ASCII as its bytes are. -/
theorem splitOn_encode (ha : a.toNat < 128) (cs : List Char) :
    splitOn (UInt8.ofNat a.toNat) (encode cs) = (splitOn a cs).map encode := by
  induction cs with
  | nil => rfl
  | cons c cs ih =>
    obtain ⟨part, rest, hparts⟩ := List.exists_cons_of_ne_nil (splitOn_ne_nil a cs)
    rw [encode_cons, splitOn_cons]
    by_cases hc : c = a
    · subst hc
      rw [utf8EncodeChar_ascii ha, List.singleton_append, splitOn_cons, ih]
      simp only [splitStep, if_true, List.map_cons]
      rfl
    · have hnot : UInt8.ofNat a.toNat ∉ String.utf8EncodeChar c := fun h =>
        hc (eq_of_mem_utf8EncodeChar ha h)
      rw [splitOn_append hnot, ih, hparts]
      simp only [splitStep, if_neg hc, List.map_cons, List.modifyHead_cons]
      rfl

/-- A carriage return is cut off the bytes of a line as it is cut off the line. -/
theorem cutReturn_encode (ha : a.toNat < 128) (line : List Char) :
    cutReturn (UInt8.ofNat a.toNat) (encode line) = encode (cutReturn a line) := by
  rcases List.eq_nil_or_concat line with rfl | ⟨init, c, rfl⟩
  · rfl
  · unfold cutReturn
    rw [List.concat_eq_append, List.getLast?_concat, List.dropLast_concat, encode_concat]
    by_cases hc : c = a
    · subst hc
      rw [utf8EncodeChar_ascii ha, List.getLast?_concat, List.dropLast_concat, if_pos rfl,
        if_pos rfl]
    · have hlast : (encode init ++ String.utf8EncodeChar c).getLast? ≠
          some (UInt8.ofNat a.toNat) := by
        rw [List.getLast?_append, List.getLast?_eq_some_getLast String.utf8EncodeChar_ne_nil,
          Option.some_or]
        exact fun h => hc (eq_of_mem_utf8EncodeChar ha (Option.some.inj h ▸ List.getLast_mem _))
      rw [if_neg hlast, if_neg fun h => hc (Option.some.inj h), encode_concat]

/-- The lines of a text in bytes are those in characters. -/
theorem rawLines_encode (cs : List Char) :
    rawLines (encode cs) = (linesBy '\n' '\r' cs).map encode := by
  obtain ⟨complete, rest, hparts, hlines⟩ := exists_concat '\n' '\r' cs
  have hbytes : splitOn 10 (encode cs) = complete.map encode ++ [encode rest] := by
    rw [← List.map_singleton (f := encode), ← List.map_append, ← hparts]
    exact splitOn_encode (a := '\n') (by decide) cs
  have hreturn : cutReturn 13 ∘ encode = encode ∘ cutReturn '\r' :=
    funext fun line => cutReturn_encode (a := '\r') (by decide) line
  have hlast : lastLine (encode rest) = (lastLine rest).map encode := by
    cases rest with
    | nil => rfl
    | cons c rest => exact if_neg (encode_cons_ne_nil c rest)
  rw [rawLines_eq, linesBy_eq 10 13 _ hbytes, hlines, List.map_append, List.map_map,
    List.map_map, hreturn, hlast]

/-- All lines of a text are texts. -/
theorem map_decodeLine (text : String) :
    (rawLines text.toUTF8.toList).map decodeLine = (linesOf text).map some := by
  rw [toList_toUTF8, rawLines_encode, linesOf, List.map_map, List.map_map]
  exact List.map_congr_left fun cs _ => decodeLine_encode cs

end FastPath.Text
