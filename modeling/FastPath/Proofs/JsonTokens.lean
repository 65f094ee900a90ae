import FastPath.Json.Printer
import FastPath.Proofs.Digits

/-!
# Tokens

The text of a token is read back as that token, as long as no number runs into what follows it
(`scanToken_render`). The tokens that a writer puts down for a value never do: between two of them
that could stands a bracket, a comma or a colon. So whatever blanks the writer lays out around them,
the tokens of a written value are the ones it was written with (`scan_marks`).
-/

namespace FastPath.Json

open FastPath.Text

/-! ## Strings -/

/-- The letter that is written for a character names it, and announces no number. -/
theorem ofEscapeLetter?_of_escapeLetter? {c e : Char} (h : escapeLetter? c = some e) :
    ofEscapeLetter? e = some c ∧ e ≠ 'u' := by
  unfold escapeLetter? at h
  repeat (split at h; next hc => subst hc; cases h; decide)
  cases h

/-- A letter after a backslash is read as the character it was written for. -/
theorem scanString_letter {c e : Char} (h : escapeLetter? c = some e) (done : List Piece)
    (r : List Char) : scanString done ('\\' :: e :: r) = scanString (.char c :: done) r := by
  obtain ⟨hnames, hu⟩ := ofEscapeLetter?_of_escapeLetter? h
  rw [scanString]
  · simp only [hnames]
  · rintro a b c d r' rfl
    exact fun _ => hu rfl

/-- A control character is read back from its number. -/
theorem scanString_control {c : Char} (h : c.toNat < 0x20) (done : List Piece) (r : List Char) :
    scanString done ('\\' :: 'u' :: '0' :: '0' :: hexDigit (c.toNat / 16) ::
      hexDigit (c.toNat % 16) :: r) = scanString (.char c :: done) r := by
  have hquad : hexQuad? '0' '0' (hexDigit (c.toNat / 16)) (hexDigit (c.toNat % 16)) =
      some c.toNat := by
    have hhigh := hexValue?_hexDigit (show c.toNat / 16 < 16 by omega)
    have hlow := hexValue?_hexDigit (show c.toNat % 16 < 16 by omega)
    have hzero : hexValue? '0' = some 0 := by decide
    have hnumber : ofHexDigits [0, 0, c.toNat / 16, c.toNat % 16] = c.toNat := by
      simp only [ofHexDigits, List.foldl_cons, List.foldl_nil]
      omega
    simp [hexQuad?, hzero, hhigh, hlow, hnumber]
  have hpiece : Piece.ofCode c.toNat = .char c := by
    have hnot : ¬(0xD800 ≤ c.toNat ∧ c.toNat ≤ 0xDFFF) := by omega
    rw [Piece.ofCode, if_neg hnot, Char.ofNat_toNat]
  rw [scanString]
  simp only [hquad, hpiece]

/-- Any other character is read as itself. -/
theorem scanString_plain {c : Char} (hquote : c ≠ '\x22') (hbackslash : c ≠ '\\')
    (hcontrol : ¬c.toNat < 0x20) (done : List Piece) (r : List Char) :
    scanString done (c :: r) = scanString (.char c :: done) r := by
  rw [scanString]
  · simp [hbackslash, hcontrol]
  · exact hquote
  · exact fun a b c d r' h => absurd h hbackslash
  · exact fun e r' h => absurd h hbackslash

/-- A character is read back from its escape. -/
theorem scanString_escapeChar (c : Char) (done : List Piece) (r : List Char) :
    scanString done (escapeChar c ++ r) = scanString (.char c :: done) r := by
  unfold escapeChar
  split
  · next e he => exact scanString_letter he done r
  · next he =>
    split
    · next hcontrol => exact scanString_control hcontrol done r
    · next hcontrol =>
      have hquote : c ≠ '\x22' := fun h => absurd he (by subst h; decide)
      have hbackslash : c ≠ '\\' := fun h => absurd he (by subst h; decide)
      exact scanString_plain hquote hbackslash hcontrol done r

/-- Characters that are not written as halves need no partner. -/
theorem joinPieces_map_char (done cs : List Char) :
    joinPieces done (cs.map .char) = some (done.reverse ++ cs) := by
  induction cs generalizing done with
  | nil => simp [joinPieces]
  | cons c cs ih => simp [joinPieces, ih]

/-- The characters of a string are read back from their escapes. -/
theorem scanString_flatMap (cs : List Char) (done : List Piece) (r : List Char) :
    scanString done (cs.flatMap escapeChar ++ '\x22' :: r) =
      some ((joinPieces [] (done.reverse ++ cs.map .char)).map String.ofList, r) := by
  induction cs generalizing done with
  | nil => simp [scanString]
  | cons c cs ih => simp [List.append_assoc, scanString_escapeChar, ih]

/-- A string is read back from between its quotes. -/
theorem scanString_toList (s : String) (r : List Char) :
    scanString [] (s.toList.flatMap escapeChar ++ '\x22' :: r) = some (some s, r) := by
  rw [scanString_flatMap, List.reverse_nil, List.nil_append, joinPieces_map_char]
  simp

/-! ## Single tokens -/

/-- The token can be written: it is no string without a text, and as a scalar it is a constant or a
number of at most 64 bits. -/
def Token.isWritable : Token → Bool
  | .string s => s.isSome
  | .scalar .null | .scalar (.bool _) => true
  | .scalar (.whole n) => n.natAbs < UInt64.size
  | .scalar _ => false
  | _ => true

/-- The token is a scalar, the only kind that can run into what follows it. -/
def Token.isScalar : Token → Bool
  | .scalar _ => true
  | _ => false

/-- A number starts with a minus sign or a digit. -/
theorem head_wholeText (n : Int) : ∃ c cs, wholeText n = c :: cs ∧ (c = '-' ∨ c.isDigit) := by
  unfold wholeText
  split
  · exact ⟨_, _, rfl, .inl rfl⟩
  · cases hds : Nat.toDigits 10 n.natAbs with
    | nil => exact absurd hds Nat.toDigits_ne_nil
    | cons d ds =>
      have hmem : d ∈ Nat.toDigits 10 n.natAbs := by
        rw [hds]
        exact List.mem_cons_self
      have hd : d.isDigit := Nat.isDigit_of_mem_toDigits (by decide) (by decide) hmem
      exact ⟨d, ds, rfl, .inr hd⟩

/-- A number is not read as a token of another kind. -/
theorem scanToken_wholeText {n : Int} (h : n.natAbs < UInt64.size) {r : List Char}
    (hr : Delimited r) : scanToken (wholeText n ++ r) = some (.scalar (.whole n), r) := by
  have hnumber := scanNumber_wholeText h hr
  obtain ⟨c, cs, hcs, hc⟩ := head_wholeText n
  have hother : ∀ c', c' ≠ '-' → c'.isDigit = false → ∀ r', wholeText n ++ r ≠ c' :: r' := by
    rintro c' hminus hdigit r' heq
    rw [hcs] at heq
    obtain ⟨rfl, -⟩ := List.cons.inj heq
    rcases hc with hc | hc
    · exact hminus hc
    · rw [hdigit] at hc
      exact Bool.false_ne_true hc
  unfold scanToken
  split
  case h_11 => rw [hnumber, Option.map_some]
  all_goals
    rename_i heq
    exact absurd heq (hother _ (by decide) (by decide) _)

/-- A token is read back from its text. -/
theorem scanToken_render {t : Token} (ht : t.isWritable) {r : List Char}
    (hr : t.isScalar → Delimited r) : scanToken (t.render ++ r) = some (t, r) := by
  cases t with
  | string s =>
    obtain ⟨s, rfl⟩ := Option.isSome_iff_exists.mp ht
    simp only [Token.render, Option.getD_some, List.cons_append, List.append_assoc, List.nil_append,
      scanToken, scanString_toList, Option.map_some]
  | scalar v =>
    cases v with
    | null => rfl
    | bool b => cases b <;> rfl
    | whole n => exact scanToken_wholeText (of_decide_eq_true ht) (hr rfl)
    | _ => exact absurd ht Bool.false_ne_true
  | _ => rfl

/-- The text of a token does not start with a blank. -/
theorem head_render {t : Token} : ∃ c cs, t.render = c :: cs ∧ isSpace c = false := by
  cases t with
  | scalar v =>
    cases v with
    | bool b => cases b <;> exact ⟨_, _, rfl, rfl⟩
    | whole n =>
      obtain ⟨c, cs, hcs, hc⟩ := head_wholeText n
      have hblank : isSpace c → c ≠ '-' ∧ c.isDigit = false := by
        simp only [isSpace, Bool.or_eq_true, decide_eq_true_eq]
        rintro (((rfl | rfl) | rfl) | rfl) <;> decide
      refine ⟨c, cs, hcs, Bool.eq_false_iff.mpr fun h => ?_⟩
      obtain ⟨hminus, hdigit⟩ := hblank h
      rcases hc with hc | hc
      · exact hminus hc
      · rw [hdigit] at hc
        exact Bool.false_ne_true hc
    | _ => exact ⟨_, _, rfl, rfl⟩
  | _ => exact ⟨_, _, rfl, rfl⟩

/-! ## Texts -/

/-- The text is made of the tokens. -/
def Scans (cs : List Char) (ts : List Token) : Prop :=
  ∀ done fuel, cs.length ≤ fuel → scanTokens done fuel cs = some (done.reverse ++ ts)

theorem scans_nil : Scans [] [] := by
  intro done fuel _
  rw [scanTokens, List.append_nil]

theorem Scans.blanks {cs bs : List Char} {ts : List Token} (h : Scans cs ts)
    (hbs : ∀ b ∈ bs, isSpace b) : Scans (bs ++ cs) ts := by
  induction bs with
  | nil => exact h
  | cons b bs ih =>
    obtain ⟨hb, hbs⟩ := List.forall_mem_cons.mp hbs
    rintro done (_ | fuel) hfuel
    · exact absurd hfuel (Nat.not_succ_le_zero _)
    · rw [List.cons_append, scanTokens, if_pos hb]
      exact ih hbs done fuel (Nat.le_of_succ_le_succ hfuel)

theorem Scans.token {r : List Char} {ts : List Token} (h : Scans r ts) {t : Token}
    (ht : t.isWritable) (hr : t.isScalar → Delimited r) : Scans (t.render ++ r) (t :: ts) := by
  have hscan := scanToken_render ht hr
  obtain ⟨c, cs, hcs, hc⟩ := head_render (t := t)
  rw [hcs] at hscan ⊢
  rintro done (_ | fuel) hfuel
  · exact absurd hfuel (Nat.not_succ_le_zero _)
  · have hrest : r.length ≤ fuel := by
      simp only [List.cons_append, List.length_cons, List.length_append] at hfuel
      omega
    rw [List.cons_append] at hscan ⊢
    rw [scanTokens, if_neg (ne_true_of_eq_false hc), hscan]
    simp only [h _ fuel hrest, List.reverse_cons, List.append_assoc, List.singleton_append]

theorem delimited_nil : Delimited [] := by
  rintro c ⟨⟩

theorem Delimited.blanks {bs r : List Char} (h : Delimited r) (hbs : ∀ b ∈ bs, isSpace b) :
    Delimited (bs ++ r) := by
  cases bs with
  | nil => exact h
  | cons b bs =>
    have hb := hbs b List.mem_cons_self
    simp only [isSpace, Bool.or_eq_true, decide_eq_true_eq] at hb
    rintro c ⟨⟩
    rcases hb with ((rfl | rfl) | rfl) | rfl <;> decide

/-- A token that is no scalar ends a number before it. -/
theorem delimited_token {t : Token} (ht : t.isScalar = false) (r : List Char) :
    Delimited (t.render ++ r) := by
  cases t with
  | scalar v => cases ht
  | _ =>
    rintro c ⟨⟩
    decide

/-- How marks are put down: a token as its text, and the layout as blanks, if at all. -/
structure LaysOut (w : Mark → List Char) : Prop where
  token : ∀ t, w (.token t) = t.render
  blanks : ∀ m, m.token? = none → ∀ c ∈ w m, isSpace c

/-- The tokens of the marks are read back when nothing runs into them from behind. -/
def Scanned (w : Mark → List Char) (ms : List Mark) : Prop :=
  ∀ r ts, Delimited r → Scans r ts → Scans (ms.flatMap w ++ r) (ms.filterMap Mark.token? ++ ts)

/-- The tokens of the marks are read back, and nothing before them runs into them. -/
def Sealed (w : Mark → List Char) (ms : List Mark) : Prop :=
  Scanned w ms ∧ ∀ r, Delimited r → Delimited (ms.flatMap w ++ r)

section Layout

variable {w : Mark → List Char} {ms ms' : List Mark}

theorem sealed_nil : Sealed w [] :=
  ⟨fun _ _ _ h => h, fun _ h => h⟩

theorem Scanned.append (h : Scanned w ms) (h' : Sealed w ms') : Scanned w (ms ++ ms') := by
  intro r ts hr hts
  rw [List.flatMap_append, List.filterMap_append, List.append_assoc, List.append_assoc]
  exact h _ _ (h'.2 r hr) (h'.1 r ts hr hts)

theorem Sealed.append (h : Sealed w ms) (h' : Sealed w ms') : Sealed w (ms ++ ms') := by
  refine ⟨h.1.append h', fun r hr => ?_⟩
  rw [List.flatMap_append, List.append_assoc]
  exact h.2 _ (h'.2 r hr)

variable (hw : LaysOut w)

include hw

theorem scanned_scalar {v : Json} (hv : (Token.scalar v).isWritable) :
    Scanned w [.token (.scalar v)] := by
  intro r ts hr hts
  simp only [List.flatMap_singleton, hw.token, List.filterMap_cons, List.filterMap_nil, Mark.token?]
  exact hts.token hv fun _ => hr

/-- A token that is no scalar seals the marks behind it. -/
theorem Scanned.seal (h : Scanned w ms) {t : Token} (ht : t.isWritable) (hs : t.isScalar = false) :
    Sealed w (.token t :: ms) := by
  have htext : ∀ r, (Mark.token t :: ms).flatMap w ++ r = t.render ++ (ms.flatMap w ++ r) := by
    intro r
    rw [List.flatMap_cons, hw.token, List.append_assoc]
  refine ⟨fun r ts hr hts => ?_, fun r _ => ?_⟩
  · rw [htext]
    exact (h r ts hr hts).token ht fun h => absurd h (ne_true_of_eq_false hs)
  · rw [htext]
    exact delimited_token hs _

theorem Scanned.layout (h : Scanned w ms) {m : Mark} (hm : m.token? = none) :
    Scanned w (m :: ms) := by
  intro r ts hr hts
  rw [List.flatMap_cons, List.filterMap_cons_none hm, List.append_assoc]
  exact (h r ts hr hts).blanks (hw.blanks m hm)

theorem Sealed.layout (h : Sealed w ms) {m : Mark} (hm : m.token? = none) : Sealed w (m :: ms) := by
  refine ⟨h.1.layout hw hm, fun r hr => ?_⟩
  rw [List.flatMap_cons, List.append_assoc]
  exact (h.2 r hr).blanks (hw.blanks m hm)

end Layout

/-! ## Values -/

mutual

/-- The value can be written: no part of it is void or a fraction, and numbers have 64 bits. -/
def isWritable : Json → Bool
  | void | fraction => false
  | whole n => n.natAbs < UInt64.size
  | array items => areWritable items
  | object fields => fieldsWritable fields
  | _ => true

/-- All of the values can be written. -/
def areWritable : List Json → Bool
  | [] => true
  | v :: vs => isWritable v && areWritable vs

/-- All of the fields' values can be written. -/
def fieldsWritable : List (String × Json) → Bool
  | [] => true
  | (_, v) :: fs => isWritable v && fieldsWritable fs

end

section Values

variable {w : Mark → List Char} {ms : List Mark} (hw : LaysOut w)

include hw

/-- A name and a colon seal the value of a field. -/
theorem Scanned.field (h : Scanned w ms) (name : String) :
    Sealed w (.token (.string (some name)) :: .token .colon :: .space :: ms) :=
  ((h.layout hw rfl).seal hw rfl rfl).1.seal hw rfl rfl

/-- The end of an array or object that holds something. -/
theorem sealed_close {t : Token} (ht : t.isWritable) (hs : t.isScalar = false) (depth : Nat) :
    Sealed w [.line depth, .token t] :=
  (sealed_nil.1.seal hw ht hs).layout hw rfl

mutual

theorem scanned_marks {v : Json} (hv : v.isWritable) (depth : Nat) :
    Scanned w (marks depth v) := by
  match v, hv with
  | null, _ => exact scanned_scalar hw rfl
  | bool b, _ => exact scanned_scalar hw rfl
  | whole n, hv => exact scanned_scalar hw hv
  | string s, _ => exact (sealed_nil.1.seal hw rfl rfl).1
  | array [], _ => exact ((sealed_nil.1.seal hw rfl rfl).1.seal hw rfl rfl).1
  | object [], _ => exact ((sealed_nil.1.seal hw rfl rfl).1.seal hw rfl rfl).1
  | array (v :: vs), hv =>
    obtain ⟨hv, hvs⟩ := Bool.and_eq_true_iff.mp hv
    have hitems := (sealed_itemMarks hvs (depth + 1)).append
      (sealed_close (t := .closeArray) hw rfl rfl depth)
    have hinside := (scanned_marks hv (depth + 1)).append hitems
    rw [marks, List.append_assoc]
    exact ((hinside.layout hw rfl).seal hw rfl rfl).1
  | object ((name, v) :: fs), hv =>
    obtain ⟨hv, hfs⟩ := Bool.and_eq_true_iff.mp hv
    have hfields := (sealed_fieldMarks hfs (depth + 1)).append
      (sealed_close (t := .closeObject) hw rfl rfl depth)
    have hinside := ((scanned_marks hv (depth + 1)).append hfields).field hw name
    rw [marks, List.append_assoc]
    exact ((hinside.1.layout hw rfl).seal hw rfl rfl).1

theorem sealed_itemMarks {vs : List Json} (hvs : areWritable vs) (depth : Nat) :
    Sealed w (itemMarks depth vs) := by
  match vs, hvs with
  | [], _ => exact sealed_nil
  | v :: vs, hvs =>
    obtain ⟨hv, hvs⟩ := Bool.and_eq_true_iff.mp hvs
    have hinside := (scanned_marks hv depth).append (sealed_itemMarks hvs depth)
    exact (hinside.layout hw rfl).seal hw rfl rfl

theorem sealed_fieldMarks {fs : List (String × Json)} (hfs : fieldsWritable fs) (depth : Nat) :
    Sealed w (fieldMarks depth fs) := by
  match fs, hfs with
  | [], _ => exact sealed_nil
  | (name, v) :: fs, hfs =>
    obtain ⟨hv, hfs⟩ := Bool.and_eq_true_iff.mp hfs
    have hinside := (scanned_marks hv depth).append (sealed_fieldMarks hfs depth)
    exact ((hinside.field hw name).1.layout hw rfl).seal hw rfl rfl

end

/-- The tokens of a value are read back from its text, however it is laid out. -/
theorem scan_marks {v : Json} (hv : v.isWritable) (depth : Nat) :
    Token.scan ((marks depth v).flatMap w) = some ((marks depth v).filterMap Mark.token?) := by
  have h := scanned_marks hw hv depth [] [] delimited_nil scans_nil [] _ (Nat.le_refl _)
  rw [List.append_nil, List.append_nil] at h
  exact h

end Values

/-- `pretty` lays a value out with new lines and spaces. -/
theorem laysOut_render : LaysOut Mark.render where
  token _ := rfl
  blanks m hm c hc := by
    cases m with
    | token t => cases hm
    | space =>
      rw [List.mem_singleton.mp hc]
      rfl
    | line depth =>
      rcases List.mem_cons.mp hc with rfl | hc
      · rfl
      · rw [List.eq_of_mem_replicate hc]
        rfl

/-- The text of a mark without the layout. -/
def Mark.bare (m : Mark) : List Char :=
  match m.token? with
  | some t => t.render
  | none => []

/-- `compact` lays nothing out. -/
theorem laysOut_bare : LaysOut Mark.bare where
  token _ := rfl
  blanks m hm c hc := by
    rw [Mark.bare, hm] at hc
    cases hc

theorem flatMap_bare (ms : List Mark) :
    ms.flatMap Mark.bare = (ms.filterMap Mark.token?).flatMap Token.render := by
  induction ms with
  | nil => rfl
  | cons m ms ih =>
    cases hm : m.token? with
    | none =>
      rw [List.flatMap_cons, List.filterMap_cons_none hm, Mark.bare, hm, ih, List.nil_append]
    | some t =>
      rw [List.flatMap_cons, List.filterMap_cons_some hm, Mark.bare, hm, ih, List.flatMap_cons]

end FastPath.Json
