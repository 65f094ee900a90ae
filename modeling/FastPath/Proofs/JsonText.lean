import FastPath.Json.Reader
import FastPath.Proofs.JsonTokens

/-!
# Values and their texts

A value that can be written is read back from its text, on one line (`read?_compact`) or on several
(`read?_pretty`). The reader keeps what is open around a value on its stack and never looks at it
while it reads the value, so a value read anywhere leaves the stack as it was.
-/

namespace FastPath.Json

/-- Fields as the reader keeps them: the latest first, each under the name that it found. -/
def keptFields (fs : List (String × Json)) : List (Option String × Json) :=
  (fs.map fun f => (some f.1, f.2)).reverse

theorem keptFields_concat (fs : List (String × Json)) (name : String) (v : Json) :
    keptFields (fs ++ [(name, v)]) = (some name, v) :: keptFields fs := by
  rw [keptFields, List.map_append, List.reverse_append]
  rfl

/-- Fields whose names are texts make an object. -/
theorem ofFields_keptFields (fs : List (String × Json)) :
    ofFields (keptFields fs).reverse = object fs := by
  have hall : (fs.map fun f => (some f.1, f.2)).mapM
      (fun f : Option String × Json => f.1.map (·, f.2)) = some fs := by
    induction fs with
    | nil => rfl
    | cons f fs ih => simp [ih]
  rw [keptFields, List.reverse_reverse]
  unfold ofFields
  split
  · rename_i hread
    rw [Option.some.inj (hall.symm.trans hread)]
  · rename_i hread
    cases hall.symm.trans hread

/-- The reader waits for a value, be it the first one of an array. -/
def Awaiting.AValue (a : Awaiting) : Prop :=
  a = .value ∨ a = .firstItem

theorem step_openArray {a : Awaiting} (ha : a.AValue) (stack : List Open) :
    Reader.step ⟨stack, a⟩ .openArray = some ⟨.array [] :: stack, .firstItem⟩ := by
  rcases ha with rfl | rfl <;> rfl

theorem step_openObject {a : Awaiting} (ha : a.AValue) (stack : List Open) :
    Reader.step ⟨stack, a⟩ .openObject = some ⟨stack, .firstName⟩ := by
  rcases ha with rfl | rfl <;> rfl

theorem step_string {a : Awaiting} (ha : a.AValue) (stack : List Open) (s : String) :
    Reader.step ⟨stack, a⟩ (.string (some s)) = some ⟨stack, .after (string s)⟩ := by
  rcases ha with rfl | rfl <;> rfl

theorem step_scalar {a : Awaiting} (ha : a.AValue) (stack : List Open) (v : Json) :
    Reader.step ⟨stack, a⟩ (.scalar v) = some ⟨stack, .after v⟩ := by
  rcases ha with rfl | rfl <;> rfl

/-- The reader takes tokens to get from one state to another. -/
def Takes (r : Reader) (ts : List Token) (r' : Reader) : Prop :=
  ts.foldlM Reader.step r = some r'

theorem takes_nil (r : Reader) : Takes r [] r :=
  rfl

theorem Takes.append {r r' r'' : Reader} {ts ts' : List Token} (h : Takes r ts r')
    (h' : Takes r' ts' r'') : Takes r (ts ++ ts') r'' := by
  rw [Takes, List.foldlM_append, h]
  exact h'

theorem Takes.cons {r r' r'' : Reader} {t : Token} {ts : List Token} (h : r.step t = some r')
    (h' : Takes r' ts r'') : Takes r (t :: ts) r'' := by
  rw [Takes, List.foldlM_cons, h]
  exact h'

/-- The tokens among marks. -/
abbrev tokens (ms : List Mark) : List Token :=
  ms.filterMap Mark.token?

theorem tokens_array (depth : Nat) (v : Json) (vs : List Json) :
    tokens (marks depth (array (v :: vs))) =
      .openArray :: (tokens (marks (depth + 1) v) ++
        (tokens (itemMarks (depth + 1) vs) ++ [.closeArray])) := by
  simp [tokens, marks, List.filterMap_cons, Mark.token?]

theorem tokens_object (depth : Nat) (name : String) (v : Json) (fs : List (String × Json)) :
    tokens (marks depth (object ((name, v) :: fs))) =
      .openObject :: .string (some name) :: .colon :: (tokens (marks (depth + 1) v) ++
        (tokens (fieldMarks (depth + 1) fs) ++ [.closeObject])) := by
  simp [tokens, marks, List.filterMap_cons, Mark.token?]

theorem tokens_itemMarks (depth : Nat) (v : Json) (vs : List Json) :
    tokens (itemMarks depth (v :: vs)) =
      .comma :: (tokens (marks depth v) ++ tokens (itemMarks depth vs)) := by
  simp [tokens, itemMarks, List.filterMap_cons, Mark.token?]

theorem tokens_fieldMarks (depth : Nat) (name : String) (v : Json) (fs : List (String × Json)) :
    tokens (fieldMarks depth ((name, v) :: fs)) =
      .comma :: .string (some name) :: .colon ::
        (tokens (marks depth v) ++ tokens (fieldMarks depth fs)) := by
  simp [tokens, fieldMarks, List.filterMap_cons, Mark.token?]

mutual

/-- The reader takes a value and leaves the stack as it was. -/
theorem takes_marks {v : Json} (hv : v.isWritable) (depth : Nat) (stack : List Open) {a : Awaiting}
    (ha : a.AValue) : Takes ⟨stack, a⟩ (tokens (marks depth v)) ⟨stack, .after v⟩ := by
  match v, hv with
  | null, _ => exact .cons (step_scalar ha stack _) (takes_nil _)
  | bool b, _ => exact .cons (step_scalar ha stack _) (takes_nil _)
  | whole n, hv => exact .cons (step_scalar ha stack _) (takes_nil _)
  | string s, _ => exact .cons (step_string ha stack _) (takes_nil _)
  | array [], _ => exact .cons (step_openArray ha stack) (.cons rfl (takes_nil _))
  | object [], _ => exact .cons (step_openObject ha stack) (.cons rfl (takes_nil _))
  | array (v :: vs), hv =>
    obtain ⟨hv, hvs⟩ := Bool.and_eq_true_iff.mp hv
    have hfirst := takes_marks hv (depth + 1) (.array [] :: stack) (.inr rfl)
    have hrest := takes_itemMarks hvs (depth + 1) stack [] v
    rw [tokens_array]
    exact .cons (step_openArray ha stack) (hfirst.append hrest)
  | object ((name, v) :: fs), hv =>
    obtain ⟨hv, hfs⟩ := Bool.and_eq_true_iff.mp hv
    have hfirst := takes_marks hv (depth + 1) (.object [] (some name) :: stack) (.inl rfl)
    have hrest := takes_fieldMarks hfs (depth + 1) stack [] name v
    rw [tokens_object]
    exact .cons (step_openObject ha stack) (.cons rfl (.cons rfl (hfirst.append hrest)))

/-- The reader takes the items behind the first ones of an array. -/
theorem takes_itemMarks {vs : List Json} (hvs : areWritable vs) (depth : Nat) (stack : List Open)
    (items : List Json) (v : Json) :
    Takes ⟨.array items.reverse :: stack, .after v⟩
      (tokens (itemMarks depth vs) ++ [.closeArray])
      ⟨stack, .after (array (items ++ v :: vs))⟩ := by
  match vs, hvs with
  | [], _ =>
    refine .cons rfl ?_
    rw [List.reverse_cons, List.reverse_reverse]
    exact takes_nil _
  | v' :: vs, hvs =>
    obtain ⟨hv, hvs⟩ := Bool.and_eq_true_iff.mp hvs
    have hnext := takes_marks hv depth (.array (v :: items.reverse) :: stack) (.inl rfl)
    have hrest := takes_itemMarks hvs depth stack (items ++ [v]) v'
    rw [List.reverse_concat, List.append_assoc] at hrest
    rw [tokens_itemMarks, List.cons_append, List.append_assoc]
    exact .cons rfl (hnext.append hrest)

/-- The reader takes the fields behind the first ones of an object. -/
theorem takes_fieldMarks {fs : List (String × Json)} (hfs : fieldsWritable fs) (depth : Nat)
    (stack : List Open) (fields : List (String × Json)) (name : String) (v : Json) :
    Takes ⟨.object (keptFields fields) (some name) :: stack, .after v⟩
      (tokens (fieldMarks depth fs) ++ [.closeObject])
      ⟨stack, .after (object (fields ++ (name, v) :: fs))⟩ := by
  match fs, hfs with
  | [], _ =>
    refine .cons rfl ?_
    rw [← keptFields_concat, ofFields_keptFields]
    exact takes_nil _
  | (name', v') :: fs, hfs =>
    obtain ⟨hv, hfs⟩ := Bool.and_eq_true_iff.mp hfs
    have hnext := takes_marks hv depth
      (.object ((some name, v) :: keptFields fields) (some name') :: stack) (.inl rfl)
    have hrest := takes_fieldMarks hfs depth stack (fields ++ [(name, v)]) name' v'
    rw [keptFields_concat, List.append_assoc] at hrest
    rw [tokens_fieldMarks]
    simp only [List.cons_append, List.append_assoc]
    exact .cons rfl (.cons rfl (.cons rfl (hnext.append hrest)))

end

/-- A value is read back from its tokens. -/
theorem ofTokens?_tokens {v : Json} (hv : v.isWritable) (depth : Nat) :
    ofTokens? (tokens (marks depth v)) = some v := by
  have htaken : (tokens (marks depth v)).foldlM Reader.step ⟨[], .value⟩ = some ⟨[], .after v⟩ :=
    takes_marks hv depth [] (.inl rfl)
  rw [ofTokens?, htaken]

/-- A value is read back from its text, however the writer lays it out. -/
theorem read?_laidOut {w : Mark → List Char} (hw : LaysOut w) {v : Json} (hv : v.isWritable)
    (depth : Nat) : read? (String.ofList ((marks depth v).flatMap w)) = some v := by
  rw [read?, String.toList_ofList, scan_marks hw hv, Option.bind_some, ofTokens?_tokens hv]

theorem read?_pretty {v : Json} (hv : v.isWritable) : read? v.pretty = some v :=
  read?_laidOut laysOut_render hv 0

theorem read?_compact {v : Json} (hv : v.isWritable) : read? v.compact = some v := by
  have h := read?_laidOut laysOut_bare hv 0
  rwa [flatMap_bare] at h

end FastPath.Json
