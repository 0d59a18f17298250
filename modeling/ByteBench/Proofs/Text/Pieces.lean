import ByteBench.Proofs.Text.Runs

/-!
# Pieces of a text

The pieces of a text are what stands between its blanks. Main statements: `pieces_run`, a run of
other characters with blanks after it is one piece, and `pieces_append_of_solid`, a run with no
blank after it begins the piece that follows.
-/

namespace ByteBench.Text

/-- A text split at each of its blanks, without what is empty. -/
def pieces (cs : List Char) : List (List Char) := (cs.splitOnP isBlank).filter (!·.isEmpty)

variable {c : Char} {xs ys : List Char}

theorem isBlank_of_not_mem (h : c ∉ blanks) : isBlank c = false := by
  rw [← Bool.not_eq_true, isBlank_iff_mem]
  exact h

theorem head?_blank_or_solid (cs : List Char) :
    (∀ c ∈ cs.head?, c ∈ blanks) ∨ ∃ c cs', cs = c :: cs' ∧ c ∉ blanks := by
  cases cs with
  | nil => exact Or.inl nofun
  | cons c cs =>
    by_cases hc : c ∈ blanks
    · left
      rintro x ⟨⟩
      exact hc
    · exact Or.inr ⟨c, cs, rfl, hc⟩

/-- All else about pieces comes of this: a text can be split at any of its blanks first. -/
theorem pieces_append_blank (hc : c ∈ blanks) (xs ys : List Char) :
    pieces (xs ++ c :: ys) = pieces xs ++ pieces ys := by
  rw [pieces, List.splitOnP_append_cons xs ys (isBlank_iff_mem.mpr hc), List.filter_append]
  rfl

theorem pieces_of_solid (hne : xs ≠ []) (hx : ∀ x ∈ xs, x ∉ blanks) : pieces xs = [xs] := by
  have hsolid : ∀ x ∈ xs, isBlank x = false := fun x h => isBlank_of_not_mem (hx x h)
  rw [pieces, List.splitOnP_eq_singleton hsolid]
  simp [hne]

theorem pieces_append_of_blanks (hx : ∀ x ∈ xs, x ∈ blanks) (ys : List Char) :
    pieces (xs ++ ys) = pieces ys := by
  induction xs with
  | nil => rfl
  | cons x xs ih =>
    have hxs : ∀ y ∈ xs, y ∈ blanks := fun y hy => hx y (List.mem_cons_of_mem x hy)
    have hsplit := pieces_append_blank (hx x List.mem_cons_self) [] (xs ++ ys)
    rw [ih hxs] at hsplit
    exact hsplit

theorem pieces_of_blanks (hx : ∀ x ∈ xs, x ∈ blanks) : pieces xs = [] := by
  have h := pieces_append_of_blanks hx []
  rw [List.append_nil] at h
  exact h

theorem pieces_run (hne : xs ≠ []) (hx : ∀ x ∈ xs, x ∉ blanks)
    (hy : ∀ y ∈ ys.head?, y ∈ blanks) : pieces (xs ++ ys) = xs :: pieces ys := by
  cases ys with
  | nil => rw [List.append_nil, pieces_of_solid hne hx]; rfl
  | cons y ys =>
    have hblank : y ∈ blanks := hy y rfl
    have hrest : pieces (y :: ys) = pieces ys := pieces_append_blank hblank [] ys
    rw [pieces_append_blank hblank, pieces_of_solid hne hx, hrest]
    rfl

theorem pieces_append_of_solid (ys : List Char) (hx : ∀ x ∈ xs, x ∉ blanks) (hc : c ∉ blanks) :
    ∃ p ps, pieces (c :: ys) = p :: ps ∧ pieces (xs ++ c :: ys) = (xs ++ p) :: ps := by
  -- what follows is the piece up to the next blank, with the run before it and without
  let p := (c :: ys).takeWhile (!isBlank ·)
  let rest := (c :: ys).dropWhile (!isBlank ·)
  have hp : p = c :: ys.takeWhile (!isBlank ·) :=
    List.takeWhile_cons_of_pos (by rw [isBlank_of_not_mem hc]; rfl)
  have hne : p ≠ [] := by rw [hp]; exact List.cons_ne_nil _ _
  have hsolid : ∀ x ∈ p, x ∉ blanks := by
    intro x hmem
    have hblank : (!isBlank x) = true := of_mem_takeWhile (p := (!isBlank ·)) hmem
    rw [← isBlank_iff_mem]
    simpa using hblank
  have hrest : ∀ y ∈ rest.head?, y ∈ blanks := by
    intro y hmem
    have hblank : (!isBlank y) = false := head?_dropWhile _ _ y hmem
    rw [← isBlank_iff_mem]
    simpa using hblank
  have htext : c :: ys = p ++ rest := List.takeWhile_append_dropWhile.symm
  have hboth : ∀ x ∈ xs ++ p, x ∉ blanks := by
    intro x hmem
    rcases List.mem_append.mp hmem with h | h
    · exact hx x h
    · exact hsolid x h
  refine ⟨p, pieces rest, ?_, ?_⟩
  · rw [htext, pieces_run hne hsolid hrest]
  · rw [htext, ← List.append_assoc, pieces_run (by simp [hne]) hboth hrest]

end ByteBench.Text
