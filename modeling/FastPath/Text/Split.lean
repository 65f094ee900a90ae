/-!
# Splitting a list at a separator

`splitOn` keeps what stands between separators, so it yields one part more than there are
separators, and joining the parts with the separator gives the list back.
-/

namespace FastPath.Text

/-- Put one element in front of the parts that follow it. -/
def splitStep [DecidableEq α] (sep x : α) (parts : List (List α)) : List (List α) :=
  if x = sep then [] :: parts
  else match parts with
    | [] => [[x]]
    | part :: rest => (x :: part) :: rest

/-- The parts of a list between the separators. -/
def splitOn [DecidableEq α] (sep : α) (xs : List α) : List (List α) :=
  xs.foldr (splitStep sep) [[]]

@[simp] theorem splitOn_nil [DecidableEq α] (sep : α) : splitOn sep [] = [[]] := rfl

@[simp] theorem splitOn_cons [DecidableEq α] (sep x : α) (xs : List α) :
    splitOn sep (x :: xs) = splitStep sep x (splitOn sep xs) := rfl

theorem splitStep_ne_nil [DecidableEq α] (sep x : α) (parts : List (List α)) :
    splitStep sep x parts ≠ [] := by
  cases parts <;> simp only [splitStep] <;> split <;> simp

theorem splitOn_ne_nil [DecidableEq α] (sep : α) (xs : List α) : splitOn sep xs ≠ [] := by
  cases xs with
  | nil => simp
  | cons x xs => exact splitStep_ne_nil sep x _

/-- The parts between the separators are the ones of the library's function. -/
theorem splitOn_eq [DecidableEq α] (sep : α) (xs : List α) : splitOn sep xs = xs.splitOn sep := by
  induction xs with
  | nil => rfl
  | cons x xs ih =>
    rw [splitOn_cons, ih, List.splitOn_cons_eq_if_modifyHead]
    unfold splitStep
    simp only [beq_iff_eq]
    split
    · rfl
    · cases h : xs.splitOn sep with
      | nil => exact absurd h (List.splitOn_ne_nil sep xs)
      | cons part rest => rfl

/-- What stands before a separator is split on its own. -/
theorem splitOn_append_cons [DecidableEq α] (sep : α) (xs ys : List α) :
    splitOn sep (xs ++ sep :: ys) = splitOn sep xs ++ splitOn sep ys := by
  rw [splitOn_eq, splitOn_eq, splitOn_eq, List.splitOn_append_cons_self]

/-- Elements that are no separators belong to the part that follows them. -/
theorem splitOn_append [DecidableEq α] {sep : α} {xs : List α} (h : sep ∉ xs) (ys : List α) :
    splitOn sep (xs ++ ys) = (splitOn sep ys).modifyHead (xs ++ ·) := by
  induction xs with
  | nil =>
    obtain ⟨part, rest, hparts⟩ := List.exists_cons_of_ne_nil (splitOn_ne_nil sep ys)
    rw [List.nil_append, hparts, List.modifyHead_cons, List.nil_append]
  | cons x xs ih =>
    obtain ⟨part, rest, hparts⟩ := List.exists_cons_of_ne_nil (splitOn_ne_nil sep ys)
    rw [List.cons_append, splitOn_cons, ih (List.not_mem_of_not_mem_cons h), hparts]
    exact if_neg (Ne.symm (List.ne_of_not_mem_cons h))

end FastPath.Text
