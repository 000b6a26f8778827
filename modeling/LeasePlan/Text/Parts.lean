namespace LeasePlan.Text

variable {α : Type} [DecidableEq α]

/-- The pieces between the occurrences of a separator; an empty text is one empty piece. -/
def parts (sep : α) : List α → List (List α)
  | [] => [[]]
  | c :: r =>
    if c = sep then [] :: parts sep r
    else match parts sep r with
      | [] => [[c]]
      | p :: ps => (c :: p) :: ps

theorem parts_ne_nil (sep : α) (s : List α) : parts sep s ≠ [] := by
  cases s with
  | nil => simp [parts]
  | cons c r =>
    unfold parts
    split
    · simp
    · split <;> simp

/-- The pieces with the separator between each two neighbours. -/
def joined (sep : α) : List (List α) → List α
  | [] => []
  | [p] => p
  | p :: q :: ps => p ++ sep :: joined sep (q :: ps)

theorem joined_parts (sep : α) (s : List α) : joined sep (parts sep s) = s := by
  induction s with
  | nil => rfl
  | cons c r ih =>
    unfold parts
    split
    next h =>
      cases hp : parts sep r with
      | nil => exact absurd hp (parts_ne_nil sep r)
      | cons p ps => rw [hp] at ih; simp [joined, ih, h]
    next =>
      cases hp : parts sep r with
      | nil => exact absurd hp (parts_ne_nil sep r)
      | cons p ps =>
        rw [hp] at ih
        cases ps with
        | nil => simp_all [joined]
        | cons q qs => simp_all [joined]

/-- The text before the first separator and, if there is one, the text after it. -/
def cut (sep : α) : List α → List α × Option (List α)
  | [] => ([], none)
  | c :: r =>
    if c = sep then ([], some r)
    else
      let p := cut sep r
      (c :: p.1, p.2)

end LeasePlan.Text
