import ByteBench.Text.Blank
import ByteBench.Text.WordChar

/-!
# Runs of characters

Main statements: `takeWhile_run` and `dropWhile_run`, a text is cut where a run of characters of one
kind ends, and `isWordChar_of_isBlank`, blanks end the runs of word characters.
-/

namespace ByteBench.Text

variable {α : Type} {p : α → Bool} {xs ys : List α}

theorem takeWhile_of_head? (h : ∀ y ∈ ys.head?, p y = false) : ys.takeWhile p = [] := by
  cases ys with
  | nil => rfl
  | cons y ys =>
    have hy : p y = false := h y rfl
    rw [List.takeWhile_cons, hy]
    rfl

theorem dropWhile_of_head? (h : ∀ y ∈ ys.head?, p y = false) : ys.dropWhile p = ys := by
  cases ys with
  | nil => rfl
  | cons y ys =>
    have hy : p y = false := h y rfl
    rw [List.dropWhile_cons, hy]
    rfl

theorem takeWhile_run (hx : ∀ x ∈ xs, p x = true) (hy : ∀ y ∈ ys.head?, p y = false) :
    (xs ++ ys).takeWhile p = xs := by
  rw [List.takeWhile_append_of_pos hx, takeWhile_of_head? hy, List.append_nil]

theorem dropWhile_run (hx : ∀ x ∈ xs, p x = true) (hy : ∀ y ∈ ys.head?, p y = false) :
    (xs ++ ys).dropWhile p = ys := by
  rw [List.dropWhile_append_of_pos hx, dropWhile_of_head? hy]

theorem takeWhile_of_all (h : ∀ x ∈ xs, p x = true) : xs.takeWhile p = xs := by
  have hnil : ∀ y ∈ ([] : List α).head?, p y = false := by
    intro y hy
    cases hy
  have hrun := takeWhile_run h hnil
  rw [List.append_nil] at hrun
  exact hrun

theorem of_mem_takeWhile {x : α} (h : x ∈ xs.takeWhile p) : p x = true :=
  List.all_eq_true.mp List.all_takeWhile x h

theorem head?_dropWhile (p : α → Bool) (xs : List α) :
    ∀ y ∈ (xs.dropWhile p).head?, p y = false := by
  intro y hy
  have h := List.head?_dropWhile_not p xs
  rw [Option.mem_def] at hy
  rw [hy] at h
  exact h

theorem isWordChar_of_isBlank {c : Char} (h : isBlank c = true) : isWordChar c = false := by
  rw [isBlank_iff_mem] at h
  simp only [blanks, List.mem_cons, List.not_mem_nil, or_false] at h
  rcases h with rfl | rfl | rfl | rfl | rfl | rfl <;> rfl

theorem isWordChar_of_isDigit {c : Char} (h : c.isDigit = true) : isWordChar c = true := by
  simp [isWordChar, Char.isAlphanum, h]

theorem isBlank_of_isWordChar {c : Char} (h : isWordChar c = true) : isBlank c = false := by
  cases hb : isBlank c with
  | false => rfl
  | true =>
    rw [isWordChar_of_isBlank hb] at h
    cases h

end ByteBench.Text
