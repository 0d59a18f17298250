import ByteBench.Proofs.Source.NumberToken

/-!
# Tokens tile their text

Scanning loses no character and reads none twice: the spans of the tokens and the white space between
them make up the text. Main statements: `tiled_scanFrom`, the tokens of a text are put down one after
the other, and `tiling_scan`, what this says of their spans.
-/

namespace ByteBench.Source

open ByteBench.Text

/-- A character that begins nothing, and is not passed over. -/
structure IsSymbol (c : Char) : Prop where
  not_space : isSpace c = false
  not_sign : isSign c = false
  not_digit : isDigit c = false
  not_letter : c.isAlpha = false
  not_underscore : c ≠ '_'

/-- The text `word`, with `after` behind it, is one token as a whole. -/
inductive Matches : List Char → List Char → Token → Prop
  | number {c : Char} {ws after : List Char} (hc : isSign c = true ∨ isDigit c = true)
      (hws : ∀ w ∈ ws, isWordChar w = true) (hafter : ∀ x ∈ after.head?, isWordChar x = false) :
      Matches (c :: ws) after (numberToken (c :: ws))
  | name {c : Char} {ws after : List Char} (hc : c.isAlpha = true ∨ c = '_')
      (hws : ∀ w ∈ ws, isWordChar w = true) (hafter : ∀ x ∈ after.head?, isWordChar x = false) :
      Matches (c :: ws) after (.name (String.ofList (c :: ws)))
  | symbol {c : Char} {after : List Char} (hc : IsSymbol c) : Matches [c] after (.invalid .symbol)

/-- Tokens put down one after the other from byte `start` on, with white space between them. -/
inductive Tiled : Nat → List Char → List Lexeme → Prop
  | nil {start : Nat} : Tiled start [] []
  | space {start : Nat} {c : Char} {cs : List Char} {ls : List Lexeme} (hc : isSpace c = true)
      (h : Tiled (start + c.utf8Size) cs ls) : Tiled start (c :: cs) ls
  | token {start : Nat} {word rest : List Char} {token : Token} {ls : List Lexeme}
      (hword : Matches word rest token) (h : Tiled (start + byteLength word) rest ls) :
      Tiled start (word ++ rest) (⟨token, spanFrom start word⟩ :: ls)

/-- All of the character at byte `place` is in the span. -/
def Holds (s : Span) (place : Nat) (c : Char) : Prop :=
  s.start ≤ place ∧ place + c.utf8Size ≤ s.stop

/-- No byte of the character at byte `place` is in the span. -/
def Misses (s : Span) (place : Nat) (c : Char) : Prop :=
  s.stop ≤ place ∨ place + c.utf8Size ≤ s.start

/-- The span `s` is that of the characters `inside`, which stand between `before` and `after`. -/
structure Stands (s : Span) (cs before inside after : List Char) : Prop where
  text_eq : before ++ (inside ++ after) = cs
  span_eq : s = spanFrom (byteLength before) inside

/-- The tokens `ls` and white space make up the text `cs`. -/
structure Tiling (cs : List Char) (ls : List Lexeme) : Prop where
  nonempty : ∀ l ∈ ls, l.span.start < l.span.stop
  increasing : ls.Pairwise fun l l' => l.span.stop ≤ l'.span.start
  aligned : ∀ l ∈ ls, ∃ before inside after, Stands l.span cs before inside after ∧
    Matches inside after l.token
  space_iff : ∀ before c after, before ++ c :: after = cs →
    (isSpace c = true ↔ ∀ l ∈ ls, Misses l.span (byteLength before) c)
  other_iff : ∀ before c after, before ++ c :: after = cs →
    (isSpace c = false ↔ ∃ l ∈ ls, Holds l.span (byteLength before) c)
  maximal : ∀ l ∈ ls, l.token ≠ .invalid .symbol → ∀ before inside after,
    Stands l.span cs before inside after → ∀ x ∈ after.head?, isWordChar x = false
  symbol : ∀ l ∈ ls, l.token = .invalid .symbol → ∀ before inside after,
    Stands l.span cs before inside after → ∃ c, inside = [c] ∧ IsSymbol c

variable {start : Nat} {c : Char} {cs word before inside after : List Char} {ls : List Lexeme}
  {token : Token} {l : Lexeme} {s : Span}

theorem number_of_startOf (h : startOf c = .number) : isSign c = true ∨ isDigit c = true := by
  rw [startOf] at h
  split_ifs at h with _ hnumber
  exact Bool.or_eq_true_iff.mp hnumber

theorem name_of_startOf (h : startOf c = .name) : c.isAlpha = true ∨ c = '_' := by
  rw [startOf] at h
  split_ifs at h with _ _ hname
  simpa using hname

theorem isSymbol_of_startOf (h : startOf c = .symbol) : IsSymbol c := by
  rw [startOf] at h
  split_ifs at h with hblank hnumber hname
  simp only [Bool.or_eq_true, not_or, Bool.not_eq_true, beq_eq_false_iff_ne] at hnumber hname
  refine ⟨?_, hnumber.1, hnumber.2, hname.1, hname.2⟩
  rw [isSpace_eq_isBlank]
  simpa using hblank

theorem tiled_scanFrom (start : Nat) (cs : List Char) : Tiled start cs (scanFrom start cs) := by
  fun_induction scanFrom start cs with
  | case1 => exact .nil
  | case2 start c cs hc ih =>
    refine .space ?_ ih
    rw [isSpace_eq_isBlank]
    exact isBlank_of_startOf hc
  | case3 start c cs hc ih => exact .token (.symbol (isSymbol_of_startOf hc)) ih
  | case4 start c cs hc word ih =>
    have hword : Matches word (cs.dropWhile isWordChar) (numberToken word) :=
      .number (number_of_startOf hc) (fun _ => of_mem_takeWhile) (head?_dropWhile isWordChar cs)
    rw [← word_append_rest isWordChar c cs]
    exact .token hword ih
  | case5 start c cs hc word ih =>
    have hword : Matches word (cs.dropWhile isWordChar) (.name (String.ofList word)) :=
      .name (name_of_startOf hc) (fun _ => of_mem_takeWhile) (head?_dropWhile isWordChar cs)
    rw [← word_append_rest isWordChar c cs]
    exact .token hword ih

namespace Matches

theorem byteLength_pos (h : Matches word after token) : 0 < byteLength word := by
  have hpos : ∀ (c : Char) (ws : List Char), 0 < byteLength (c :: ws) := by
    intro c ws
    have hc := c.utf8Size_pos
    rw [byteLength_cons]
    omega
  cases h <;> exact hpos _ _

theorem not_space (h : Matches word after token) : ∀ x ∈ word, isSpace x = false := by
  have hword : ∀ {x : Char}, isWordChar x = true → isSpace x = false := by
    intro x hx
    rw [isSpace_eq_isBlank]
    exact isBlank_of_isWordChar hx
  intro x hx
  cases h with
  | @number c ws _ hc hws =>
    rcases List.mem_cons.mp hx with rfl | hmem
    · rw [isSpace_eq_isBlank]
      exact not_isBlank_of_startOf (startOf_of_number hc) (by decide)
    · exact hword (hws x hmem)
  | @name c ws _ hc hws =>
    rcases List.mem_cons.mp hx with rfl | hmem
    · apply hword
      rcases hc with hc | rfl
      · simp [isWordChar, Char.isAlphanum, hc]
      · rfl
    · exact hword (hws x hmem)
  | symbol hc =>
    cases List.mem_singleton.mp hx
    exact hc.not_space

theorem head?_after (h : Matches word after token) (ht : token ≠ .invalid .symbol) :
    ∀ x ∈ after.head?, isWordChar x = false := by
  cases h with
  | number _ _ hafter | name _ _ hafter => exact hafter
  | symbol => exact absurd rfl ht

/-- A number is never wrong in the way that a symbol is. -/
theorem eq_singleton (h : Matches word after (.invalid .symbol)) :
    ∃ c, word = [c] ∧ IsSymbol c := by
  generalize ht : Token.invalid .symbol = token at h
  cases h with
  | @number c ws =>
    have hread := numberToken_eq_invalid_iff.mp ht.symm
    rw [readLiteral_eq (List.cons_ne_nil c ws)] at hread
    split_ifs at hread <;> cases hread
  | name => cases ht
  | symbol hc => exact ⟨_, rfl, hc⟩

end Matches

theorem Stands.parts_eq {before' inside' after' : List Char}
    (h : Stands s cs before inside after) (h' : Stands s cs before' inside' after') :
    inside = inside' ∧ after = after' := by
  obtain ⟨rfl, rfl⟩ := h
  obtain ⟨htext, hspan⟩ := h'
  rw [spanFrom, spanFrom, Span.mk.injEq] at hspan
  obtain ⟨hstart, hstop⟩ := hspan
  obtain ⟨rfl, hrest⟩ := eq_of_byteLength_eq htext.symm hstart
  exact eq_of_byteLength_eq hrest (by omega)

/-- A character of a text in two parts is in the first of them or in the second. -/
theorem before_or_behind {rest : List Char} (h : before ++ c :: after = word ++ rest) :
    (∃ more, word = before ++ c :: more) ∨
      ∃ more, before = word ++ more ∧ more ++ c :: after = rest := by
  rcases List.append_eq_append_iff.mp h with ⟨more, hword, hrest⟩ | ⟨more, hbefore, hrest⟩
  · cases more with
    | nil =>
      rw [List.append_nil] at hword
      exact Or.inr ⟨[], by rw [hword, List.append_nil], hrest⟩
    | cons d more =>
      cases hrest
      exact Or.inl ⟨more, hword⟩
  · exact Or.inr ⟨more, hbefore, hrest.symm⟩

namespace Tiled

theorem start_le (h : Tiled start cs ls) : ∀ l ∈ ls, start ≤ l.span.start := by
  induction h with
  | nil => nofun
  | space hc _ ih =>
    intro l hl
    exact Nat.le_trans (Nat.le_add_right _ _) (ih l hl)
  | token hword _ ih =>
    intro l hl
    rcases List.mem_cons.mp hl with rfl | hrest
    · exact Nat.le_refl _
    · exact Nat.le_trans (Nat.le_add_right _ _) (ih l hrest)

theorem increasing (h : Tiled start cs ls) :
    ls.Pairwise fun l l' => l.span.stop ≤ l'.span.start := by
  induction h with
  | nil => exact .nil
  | space _ _ ih => exact ih
  | token _ hrest ih => exact .cons hrest.start_le ih

theorem aligned (h : Tiled start cs ls) : ∀ l ∈ ls, ∃ before inside after,
    before ++ (inside ++ after) = cs ∧ l.span = spanFrom (start + byteLength before) inside ∧
      Matches inside after l.token := by
  induction h with
  | nil => nofun
  | @space start c cs ls _ _ ih =>
    intro l hl
    obtain ⟨before, inside, after, rfl, hspan, hmatch⟩ := ih l hl
    exact ⟨c :: before, inside, after, rfl, by rw [hspan, byteLength_cons, Nat.add_assoc], hmatch⟩
  | @token start word rest token ls hword _ ih =>
    intro l hl
    rcases List.mem_cons.mp hl with rfl | hrest
    · exact ⟨[], word, rest, rfl, rfl, hword⟩
    · obtain ⟨before, inside, after, rfl, hspan, hmatch⟩ := ih l hrest
      refine ⟨word ++ before, inside, after, List.append_assoc _ _ _, ?_, hmatch⟩
      rw [hspan, byteLength_append, Nat.add_assoc]

/-- Each character is white space that no span touches, or lies in one span as a whole. -/
theorem held_or_missed (h : Tiled start cs ls) (htext : before ++ c :: after = cs) :
    (isSpace c = true ∧ ∀ l ∈ ls, Misses l.span (start + byteLength before) c) ∨
      (isSpace c = false ∧ ∃ l ∈ ls, Holds l.span (start + byteLength before) c) := by
  induction h generalizing before with
  | nil => simp at htext
  | @space start d cs ls hd hrest ih =>
    cases before with
    | nil =>
      cases htext
      exact Or.inl ⟨hd, fun l hl => Or.inr (hrest.start_le l hl)⟩
    | cons b before =>
      cases htext
      have hc := ih rfl
      rw [byteLength_cons, ← Nat.add_assoc]
      exact hc
  | @token start word rest token ls hword hrest ih =>
    rcases before_or_behind htext with ⟨more, rfl⟩ | ⟨more, rfl, hmore⟩
    · have hc : isSpace c = false := hword.not_space c (by simp)
      refine Or.inr ⟨hc, _, List.mem_cons_self, Nat.le_add_right _ _, ?_⟩
      simp only [spanFrom, byteLength_append, byteLength_cons]
      omega
    · have hplace := ih hmore
      rw [Nat.add_assoc, ← byteLength_append] at hplace
      refine hplace.imp (And.imp_right ?_) (And.imp_right ?_)
      · intro hall l hl
        rcases List.mem_cons.mp hl with rfl | htail
        · left
          simp only [spanFrom, byteLength_append]
          omega
        · exact hall l htail
      · rintro ⟨l, hl, hholds⟩
        exact ⟨l, List.mem_cons_of_mem _ hl, hholds⟩

end Tiled

theorem not_holds_of_misses {place : Nat} (h : Misses s place c) : ¬ Holds s place c := by
  have hc := c.utf8Size_pos
  rintro ⟨hstart, hstop⟩
  rcases h with h | h <;> omega

/-- The tokens of a text and the white space between them. -/
theorem tiling_scan (text : String) : Tiling text.toList (scan text) := by
  obtain ⟨cs, hcs⟩ : ∃ cs, text.toList = cs := ⟨_, rfl⟩
  have htiled : Tiled 0 cs (scan text) := by
    rw [scan, hcs]
    exact tiled_scanFrom 0 cs
  have haligned : ∀ l ∈ scan text, ∃ before inside after, Stands l.span cs before inside after ∧
      Matches inside after l.token := by
    intro l hl
    obtain ⟨before, inside, after, htext, hspan, hmatch⟩ := htiled.aligned l hl
    rw [Nat.zero_add] at hspan
    exact ⟨before, inside, after, ⟨htext, hspan⟩, hmatch⟩
  have hplace : ∀ before c after, before ++ c :: after = cs →
      (isSpace c = true ∧ ∀ l ∈ scan text, Misses l.span (byteLength before) c) ∨
        (isSpace c = false ∧ ∃ l ∈ scan text, Holds l.span (byteLength before) c) := by
    intro before c after htext
    have hboth := htiled.held_or_missed htext
    rwa [Nat.zero_add] at hboth
  rw [hcs]
  constructor
  case nonempty =>
    intro l hl
    obtain ⟨before, inside, after, hstands, hmatch⟩ := haligned l hl
    have hpos := hmatch.byteLength_pos
    rw [hstands.span_eq]
    exact Nat.lt_add_of_pos_right hpos
  case increasing => exact htiled.increasing
  case aligned => exact haligned
  case space_iff =>
    intro before c after htext
    rcases hplace before c after htext with ⟨hc, hall⟩ | ⟨hc, l, hl, hholds⟩
    · exact iff_of_true hc hall
    · refine iff_of_false (by simp [hc]) fun hall => ?_
      exact not_holds_of_misses (hall l hl) hholds
  case other_iff =>
    intro before c after htext
    rcases hplace before c after htext with ⟨hc, hall⟩ | ⟨hc, hexists⟩
    · refine iff_of_false (by simp [hc]) ?_
      rintro ⟨l, hl, hholds⟩
      exact not_holds_of_misses (hall l hl) hholds
    · exact iff_of_true hc hexists
  case maximal =>
    intro l hl ht before inside after hstands
    obtain ⟨before', inside', after', hstands', hmatch⟩ := haligned l hl
    rw [(hstands.parts_eq hstands').2]
    exact hmatch.head?_after ht
  case symbol =>
    intro l hl ht before inside after hstands
    obtain ⟨before', inside', after', hstands', hmatch⟩ := haligned l hl
    rw [ht] at hmatch
    rw [(hstands.parts_eq hstands').1]
    exact hmatch.eq_singleton

end ByteBench.Source
