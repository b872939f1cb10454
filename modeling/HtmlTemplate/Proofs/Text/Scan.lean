import Mathlib.Data.List.TakeWhile

/-!
Cutting a text where a run of characters of one kind ends.
-/

namespace HtmlTemplate.Text

variable {p : Char → Bool} {front rest : List Char}

theorem takeWhile_run (inside : ∀ c ∈ front, p c = true) (stops : ∀ c ∈ rest.head?, p c = false) :
    (front ++ rest).takeWhile p = front := by
  rw [List.takeWhile_append_of_pos inside]
  cases rest with
  | nil => simp
  | cons c rest => simp [stops c (by simp)]

theorem dropWhile_run (inside : ∀ c ∈ front, p c = true) (stops : ∀ c ∈ rest.head?, p c = false) :
    (front ++ rest).dropWhile p = rest := by
  rw [List.dropWhile_append_of_pos inside]
  cases rest with
  | nil => rfl
  | cons c rest => simp [stops c (by simp)]

end HtmlTemplate.Text
