import ByteBench.Text.Lines

/-!
# Reading lines back

Main statements: `lines_of_madeOf`, a text that was made of lines has these lines, whichever way
each of them was ended; `lines_join` and `lines_intercalate`, two ways to make a text of lines.
-/

namespace ByteBench.Text

/-- Whether a row of characters is one line as it stands. -/
structure IsLine (line : List Char) : Prop where
  not_mem : '\n' ∉ line
  /-- A carriage return at the end would be taken for a part of the ending. -/
  getLast?_ne : line.getLast? ≠ some '\r'

instance (line : List Char) : Decidable (IsLine line) :=
  decidable_of_iff ('\n' ∉ line ∧ line.getLast? ≠ some '\r')
    ⟨fun h => ⟨h.1, h.2⟩, fun h => ⟨h.1, h.2⟩⟩

/-- The two ways in which a line is ended. -/
inductive LineEnd
  | lineFeed
  | returnLineFeed
  deriving DecidableEq

def LineEnd.text : LineEnd → String
  | lineFeed => "\n"
  | returnLineFeed => "\r\n"

/-- A text made of lines: each of them is ended in either way, but the last one need not be ended
if it is not empty. -/
inductive MadeOf : List String → String → Prop
  | nil : MadeOf [] ""
  | last {line : String} (h : line ≠ "") : MadeOf [line] line
  | cons (line : String) (e : LineEnd) {ls : List String} {text : String} (h : MadeOf ls text) :
      MadeOf (line :: ls) (line ++ e.text ++ text)

variable {line : List Char} {ls : List String} {text : String}

theorem isLine_of_forall (h : ∀ c ∈ line, c ≠ '\n' ∧ c ≠ '\r') : IsLine line := by
  refine ⟨fun hmem => (h '\n' hmem).1 rfl, fun hlast => ?_⟩
  exact (h '\r' (List.mem_of_getLast? hlast)).2 rfl

theorem linesFrom_append (started cs : List Char) (h : '\n' ∉ line) :
    linesFrom started (line ++ cs) = linesFrom (line.reverse ++ started) cs := by
  induction line generalizing started with
  | nil => rfl
  | cons c line ih =>
    rw [List.mem_cons, not_or] at h
    obtain ⟨hc, hline⟩ := h
    have hstep : linesFrom started (c :: (line ++ cs)) = linesFrom (c :: started) (line ++ cs) := by
      rw [linesFrom]
      exact fun hne => hc hne.symm
    rw [List.cons_append, hstep, ih _ hline, List.reverse_cons, List.append_assoc]
    rfl

theorem linesFrom_line (e : LineEnd) (cs : List Char) (h : IsLine line) :
    linesFrom [] (line ++ e.text.toList ++ cs) = line :: linesFrom [] cs := by
  rw [List.append_assoc, linesFrom_append [] _ h.not_mem]
  cases e with
  | lineFeed =>
    have hline : dropReturn line = line := if_neg h.getLast?_ne
    simp [LineEnd.text, linesFrom, hline]
  | returnLineFeed =>
    have hline : dropReturn (line ++ ['\r']) = line := by simp [dropReturn]
    simp [LineEnd.text, linesFrom, hline]

/-- The last line needs no ending, but it is one only if it is not empty. -/
theorem linesFrom_last (h : '\n' ∉ line) (hne : line ≠ []) : linesFrom [] line = [line] := by
  have hread := linesFrom_append [] [] h
  rw [List.append_nil, List.append_nil] at hread
  rw [hread, linesFrom, List.reverse_reverse]
  simp [hne]

theorem linesFrom_of_madeOf (h : MadeOf ls text) (hls : ∀ l ∈ ls, IsLine l.toList) :
    linesFrom [] text.toList = ls.map String.toList := by
  induction h with
  | nil => rfl
  | @last l hne =>
    have hl := hls l List.mem_cons_self
    have hne' : l.toList ≠ [] := by simpa using hne
    exact linesFrom_last hl.not_mem hne'
  | cons l e _ ih =>
    obtain ⟨hl, hrest⟩ := List.forall_mem_cons.mp hls
    rw [String.toList_append, String.toList_append, linesFrom_line e _ hl, ih hrest, List.map_cons]

theorem lines_of_madeOf (h : MadeOf ls text) (hls : ∀ l ∈ ls, IsLine l.toList) :
    lines text = ls := by
  rw [lines, linesFrom_of_madeOf h hls, List.map_map]
  simp [Function.comp_def]

/-- Ending the last line does not make a further one. -/
theorem MadeOf.ended (h : MadeOf ls text) (e : LineEnd) (hne : text ≠ "")
    (hlast : text.toList.getLast? ≠ some '\n') : MadeOf ls (text ++ e.text) := by
  induction h with
  | nil => exact absurd rfl hne
  | @last l _ =>
    have hended := MadeOf.cons l e .nil
    rwa [String.append_empty] at hended
  | @cons l e' ls rest _ ih =>
    have hrest : rest ≠ "" := by
      rintro rfl
      cases e' <;> simp [LineEnd.text] at hlast
    have hlast' : rest.toList.getLast? ≠ some '\n' := by
      intro h
      exact hlast (by rw [String.toList_append, List.getLast?_append, h]; rfl)
    rw [String.append_assoc]
    exact .cons l e' (ih hrest hlast')

theorem madeOf_join (ls : List String) : MadeOf ls (String.join (ls.map (· ++ "\n"))) := by
  induction ls with
  | nil => exact .nil
  | cons l ls ih =>
    rw [List.map_cons, String.join_cons]
    exact .cons l .lineFeed ih

theorem madeOf_intercalate (hlast : ls.getLast? ≠ some "") :
    MadeOf ls ("\n".intercalate ls) := by
  induction ls with
  | nil => exact .nil
  | cons l ls ih =>
    cases ls with
    | nil =>
      have hne : l ≠ "" := fun hnil => hlast (by rw [hnil]; rfl)
      rw [String.intercalate_singleton]
      exact .last hne
    | cons next ls =>
      rw [String.intercalate_cons_cons]
      exact .cons l .lineFeed (ih hlast)

theorem lines_join (h : ∀ l ∈ ls, IsLine l.toList) :
    lines (String.join (ls.map (· ++ "\n"))) = ls :=
  lines_of_madeOf (madeOf_join ls) h

theorem lines_intercalate (h : ∀ l ∈ ls, IsLine l.toList) (hlast : ls.getLast? ≠ some "") :
    lines ("\n".intercalate ls) = ls :=
  lines_of_madeOf (madeOf_intercalate hlast) h

end ByteBench.Text
