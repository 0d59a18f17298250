import ByteBench.Proofs.Source.Grammar
import ByteBench.Proofs.Text.Pieces
import Mathlib.Data.List.Basic

/-!
# Scanning a line part by part

Main statements: `scanFrom_append`, a text may be cut wherever no token goes on, and its parts
scanned one after the other; `FirstWord.ofLine_eq` and `FirstWord.pieces_eq`, where the first word
of a line is.
-/

namespace ByteBench.Source

open ByteBench.Text

/-- No token goes on from one part of a text to the next: if the second begins with a word
character, then the first does not end in a token. -/
def Parted (xs ys : List Char) : Prop :=
  ∀ c ∈ ys.head?, isWordChar c = true → ∀ b ∈ xs.getLast?, b ∈ blanks

variable {c : Char} {xs ys : List Char}

theorem parted_of_head? (h : ∀ c ∈ ys.head?, isWordChar c = false) : Parted xs ys := by
  intro c hc hword
  rw [h c hc] at hword
  cases hword

theorem Parted.of_append (ws : List Char) (h : Parted (ws ++ xs) ys) : Parted xs ys := by
  intro d hd hword b hb
  exact h d hd hword b (List.mem_getLast?_append_of_mem_getLast? hb)

theorem Parted.append (ws : List Char) (h : Parted xs ys) (hnil : xs = [] → Parted ws ys) :
    Parted (ws ++ xs) ys := by
  cases xs with
  | nil =>
    rw [List.append_nil]
    exact hnil rfl
  | cons x xs =>
    intro d hd hword b hb
    rw [List.getLast?_append_cons] at hb
    exact h d hd hword b hb

theorem Parted.dropWhile (p : Char → Bool) (h : Parted xs ys) : Parted (xs.dropWhile p) ys := by
  rw [← List.takeWhile_append_dropWhile (p := p) (l := xs)] at h
  exact h.of_append _

/-- The text goes on with no word character after a run of them, if a cut may be made after the
run. -/
theorem Parted.head?_eq_false {ws : List Char} (h : Parted (c :: ws) ys) (hc : isBlank c = false)
    (hws : ∀ x ∈ ws, isWordChar x = true) : ∀ y ∈ ys.head?, isWordChar y = false := by
  intro y hy
  rw [← Bool.not_eq_true]
  intro hword
  obtain ⟨b, hb⟩ : ∃ b, (c :: ws).getLast? = some b :=
    ⟨_, List.getLast?_eq_some_getLast (List.cons_ne_nil c ws)⟩
  have hblank : isBlank b = true := isBlank_iff_mem.mpr (h y hy hword b hb)
  rcases List.mem_cons.mp (List.mem_of_getLast? hb) with rfl | hmem
  · rw [hc] at hblank
    cases hblank
  · rw [isBlank_of_isWordChar (hws b hmem)] at hblank
    cases hblank

theorem Parted.word_append (h : Parted (c :: xs) ys) (hc : isBlank c = false) :
    (xs ++ ys).takeWhile isWordChar = xs.takeWhile isWordChar ∧
      (xs ++ ys).dropWhile isWordChar = xs.dropWhile isWordChar ++ ys := by
  obtain ⟨ws, hws⟩ : ∃ ws, xs.takeWhile isWordChar = ws := ⟨_, rfl⟩
  obtain ⟨rest, hrest⟩ : ∃ rest, xs.dropWhile isWordChar = rest := ⟨_, rfl⟩
  have htext : xs = ws ++ rest := by rw [← hws, ← hrest, List.takeWhile_append_dropWhile]
  have hword : ∀ x ∈ ws, isWordChar x = true := by
    intro x hx
    rw [← hws] at hx
    exact of_mem_takeWhile hx
  have hstop : ∀ y ∈ (rest ++ ys).head?, isWordChar y = false := by
    cases rest with
    | nil =>
      rw [htext, List.append_nil] at h
      exact h.head?_eq_false hc hword
    | cons r rest =>
      have hhead := head?_dropWhile isWordChar xs
      rw [hrest] at hhead
      exact hhead
  rw [hws, hrest, htext, List.append_assoc]
  exact ⟨takeWhile_run hword hstop, dropWhile_run hword hstop⟩

/-- A character and the run of others after it, and what is left. -/
theorem word_append_rest (p : Char → Bool) (c : Char) (xs : List Char) :
    c :: xs.takeWhile p ++ xs.dropWhile p = c :: xs := by
  rw [List.cons_append, List.takeWhile_append_dropWhile]

theorem byteLength_word (p : Char → Bool) (c : Char) (xs : List Char) :
    byteLength (c :: xs.takeWhile p) + byteLength (xs.dropWhile p) = byteLength (c :: xs) := by
  rw [← byteLength_append, word_append_rest]

theorem not_isBlank_of_startOf {start : Start} (h : startOf c = start) (hne : start ≠ .blank) :
    isBlank c = false := by
  rw [← Bool.not_eq_true]
  intro hblank
  rw [startOf_of_isBlank hblank] at h
  exact hne h.symm

theorem scanFrom_append (start : Nat) (h : Parted xs ys) :
    scanFrom start (xs ++ ys) = scanFrom start xs ++ scanFrom (start + byteLength xs) ys := by
  fun_induction scanFrom start xs with
  | case1 => rfl
  | case2 start c xs hc ih =>
    have hrest : Parted xs ys := h.of_append [c]
    rw [List.cons_append, scanFrom_blank start _ hc, ih hrest, byteLength_cons, Nat.add_assoc]
  | case3 start c xs hc ih =>
    have hrest : Parted xs ys := h.of_append [c]
    rw [List.cons_append, scanFrom_symbol start _ hc, ih hrest, byteLength_cons, Nat.add_assoc]
    rfl
  | case4 start c xs hc word ih =>
    obtain ⟨htake, hdrop⟩ := h.word_append (not_isBlank_of_startOf hc (by decide))
    have hrest := (h.of_append [c]).dropWhile isWordChar
    rw [List.cons_append, scanFrom_number start _ hc, htake, hdrop, ih hrest, Nat.add_assoc,
      byteLength_word]
    rfl
  | case5 start c xs hc word ih =>
    obtain ⟨htake, hdrop⟩ := h.word_append (not_isBlank_of_startOf hc (by decide))
    have hrest := (h.of_append [c]).dropWhile isWordChar
    rw [List.cons_append, scanFrom_name start _ hc, htake, hdrop, ih hrest, Nat.add_assoc,
      byteLength_word]
    rfl

theorem ofLine_of_blanks {cs : List Char} (h : ∀ c ∈ cs, c ∈ blanks) :
    Cut.ofLine cs = ⟨cs, [], []⟩ := by
  have hblank : ∀ c ∈ cs, isBlank c = true := fun c hc => isBlank_iff_mem.mpr (h c hc)
  have hnil : ∀ c ∈ ([] : List Char).head?, isBlank c = false := nofun
  have htake := takeWhile_run hblank hnil
  have hdrop := dropWhile_run hblank hnil
  rw [List.append_nil] at htake hdrop
  rw [Cut.ofLine, htake, hdrop]
  rfl

/-- A text up to the blanks after its first word, and what is left. There is no word only if all of
the text is blank. -/
structure FirstWord (cs lead word rest : List Char) : Prop where
  text_eq : lead ++ (word ++ rest) = cs
  blank_lead : ∀ c ∈ lead, c ∈ blanks
  not_blank : ∀ c ∈ word, c ∉ blanks
  blank_rest : ∀ c ∈ rest.head?, c ∈ blanks
  rest_eq_nil : word = [] → rest = []

theorem firstWord_ofLine (cs : List Char) :
    FirstWord cs (Cut.ofLine cs).lead (Cut.ofLine cs).word (Cut.ofLine cs).rest := by
  have htext := Cut.ofLine_text cs
  rw [List.append_assoc] at htext
  refine ⟨htext, Cut.blank_lead cs, ?_, Cut.blank_rest cs, ?_⟩
  · intro c hc
    have hsolid : (!isBlank c) = true := of_mem_takeWhile (p := (!isBlank ·)) hc
    rw [← isBlank_iff_mem]
    simpa using hsolid
  · intro hword
    have hword' : (cs.dropWhile isBlank).takeWhile (!isBlank ·) = [] := hword
    have hbody := head?_dropWhile isBlank cs
    show (cs.dropWhile isBlank).dropWhile (!isBlank ·) = []
    cases hdrop : cs.dropWhile isBlank with
    | nil => rfl
    | cons c body =>
      -- a character after the blanks at the front is part of the word
      have hsolid : isBlank c = false := hbody c (by rw [hdrop]; rfl)
      rw [hdrop, List.takeWhile_cons_of_pos (by rw [hsolid]; rfl)] at hword'
      cases hword'

namespace FirstWord

variable {cs lead word rest : List Char}

theorem ofLine_eq (h : FirstWord cs lead word rest) : Cut.ofLine cs = ⟨lead, word, rest⟩ := by
  obtain ⟨rfl, hlead, hword, hrest, hnil⟩ := h
  by_cases hne : word = []
  · subst hne
    rw [hnil rfl, List.append_nil, List.append_nil]
    exact ofLine_of_blanks hlead
  · rw [← List.append_assoc]
    exact Cut.ofLine_eq hlead hword hne hrest

theorem pieces_eq (h : FirstWord cs lead word rest) :
    pieces cs = if word = [] then [] else word :: pieces rest := by
  obtain ⟨rfl, hlead, hword, hrest, hnil⟩ := h
  rw [pieces_append_of_blanks hlead]
  split
  · next hne =>
    rw [hnil hne, hne]
    rfl
  · next hne => exact pieces_run hne hword hrest

end FirstWord

end ByteBench.Source
