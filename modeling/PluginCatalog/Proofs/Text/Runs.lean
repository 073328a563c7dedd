/-!
# Runs of characters

A run of characters of a class ends where a text does whose continuation begins with none of the
class (`takeWhile_append_of_head`, `dropWhile_append_of_head`). What is left after a run begins so
(`head_dropWhile`).
-/

namespace PluginCatalog.Text

variable {α : Type} {p : α → Bool}

/-- What is left after a run of characters of a class begins with none of the class. -/
theorem head_dropWhile (s : List α) : ∀ c ∈ (s.dropWhile p).head?, p c = false := by
  intro c hc
  have hnot := List.head?_dropWhile_not p s
  rw [Option.mem_def.1 hc] at hnot
  simpa using hnot

variable {r : List α} (h : ∀ c ∈ r.head?, p c = false)

include h

/-- A run of characters of a class stays if what follows begins with none of the class. -/
theorem takeWhile_append_of_head (s : List α) : (s ++ r).takeWhile p = s.takeWhile p := by
  induction s with
  | nil =>
    cases r with
    | nil => rfl
    | cons c r => simp [h c rfl]
  | cons d s ih =>
    rw [List.cons_append, List.takeWhile_cons, List.takeWhile_cons, ih]

/-- What is left after a run of characters of a class, if what follows begins with none of it. -/
theorem dropWhile_append_of_head (s : List α) : (s ++ r).dropWhile p = s.dropWhile p ++ r := by
  induction s with
  | nil =>
    cases r with
    | nil => rfl
    | cons c r => simp [h c rfl]
  | cons d s ih =>
    rw [List.cons_append, List.dropWhile_cons, List.dropWhile_cons, ih]
    split <;> rfl

end PluginCatalog.Text
