import ByteBench.Proofs.Program.Batch

/-!
# The source map of a batch

Which word came from which line, and what was said of the lines that gave none. The lines of the
cells increase strictly, and all else about the map follows from this. Main statement:
`sourceMap_ofLines`.
-/

namespace ByteBench

open ByteBench.Source

/-- Lines increase from each cell that remembers one to the next. -/
def Increasing (cells : List Cell) : Prop :=
  cells.Pairwise fun c d => ∀ k l, c.line = some k → d.line = some l → k < l

namespace Program

variable {p : Program} {a b k l : Nat}

theorem sourceLine?_eq_some_iff :
    p.sourceLine? a = some k ↔ ∃ c, p.cells[a]? = some c ∧ c.line = some k := by
  rw [sourceLine?, lines, List.getElem?_map, Option.join_eq_some_iff, Option.map_eq_some_iff]

theorem lt_size_of_sourceLine? (h : p.sourceLine? a = some k) : a < p.size := by
  obtain ⟨c, hc, -⟩ := sourceLine?_eq_some_iff.mp h
  exact (List.getElem?_eq_some_iff.mp hc).1

theorem sourceLine?_of_size_le (h : p.size ≤ a) : p.sourceLine? a = none := by
  rw [Option.eq_none_iff_forall_ne_some]
  intro k hk
  have hlt := lt_size_of_sourceLine? hk
  omega

theorem get?_of_size_le (h : p.size ≤ a) : p.get? a = none := by
  rw [get?, List.getElem?_eq_none_iff, length_words]
  exact h

theorem get?_eq (p : Program) (a : Nat) : p.get? a = p.cells[a]?.map Cell.word := by
  rw [get?, words, List.getElem?_map]

theorem sourceLine?_eq (p : Program) (a : Nat) : p.sourceLine? a = p.cells[a]?.bind Cell.line := by
  rw [sourceLine?, lines, List.getElem?_map]
  cases p.cells[a]? <;> rfl

theorem lt_of_sourceLine? (hp : Increasing p.cells) (hab : a < b) (ha : p.sourceLine? a = some k)
    (hb : p.sourceLine? b = some l) : k < l := by
  obtain ⟨c, hc, hk⟩ := sourceLine?_eq_some_iff.mp ha
  obtain ⟨d, hd, hl⟩ := sourceLine?_eq_some_iff.mp hb
  obtain ⟨ha', rfl⟩ := List.getElem?_eq_some_iff.mp hc
  obtain ⟨hb', rfl⟩ := List.getElem?_eq_some_iff.mp hd
  exact List.pairwise_iff_getElem.mp hp a b ha' hb' hab k l hk hl

theorem eq_of_sourceLine? (hp : Increasing p.cells) (ha : p.sourceLine? a = some k)
    (hb : p.sourceLine? b = some k) : a = b := by
  rcases Nat.lt_trichotomy a b with hab | hab | hab
  · exact absurd (lt_of_sourceLine? hp hab ha hb) (Nat.lt_irrefl k)
  · exact hab
  · exact absurd (lt_of_sourceLine? hp hab hb ha) (Nat.lt_irrefl k)

/-- As no line occurs twice, the first address at which a line is found is the only one. -/
theorem addressOfLine?_eq_some_iff (hp : Increasing p.cells) :
    p.addressOfLine? k = some a ↔ p.sourceLine? a = some k := by
  have hread : ∀ i, p.sourceLine? i = some k ↔ ∃ h : i < p.lines.length, p.lines[i] = some k := by
    intro i
    rw [sourceLine?, Option.join_eq_some_iff, List.getElem?_eq_some_iff]
  rw [addressOfLine?, List.findIdx?_eq_some_iff_getElem]
  constructor
  · rintro ⟨h, hfound, -⟩
    exact (hread a).mpr ⟨h, eq_of_beq hfound⟩
  · intro ha
    obtain ⟨h, hfound⟩ := (hread a).mp ha
    refine ⟨h, beq_iff_eq.mpr hfound, ?_⟩
    intro j hj hbeq
    have hj' : p.sourceLine? j = some k := (hread j).mpr ⟨Nat.lt_trans hj h, eq_of_beq hbeq⟩
    have hsame := eq_of_sourceLine? hp hj' ha
    omega

theorem addressOfLine?_eq_none_iff (hp : Increasing p.cells) :
    p.addressOfLine? k = none ↔ ∀ c ∈ p.cells, c.line ≠ some k := by
  constructor
  · intro h c hc hline
    obtain ⟨i, hi⟩ := List.mem_iff_getElem?.mp hc
    have hmapped := (addressOfLine?_eq_some_iff hp).mpr (sourceLine?_eq_some_iff.mpr ⟨c, hi, hline⟩)
    rw [h] at hmapped
    cases hmapped
  · intro h
    rw [Option.eq_none_iff_forall_ne_some]
    intro i hi
    obtain ⟨c, hc, hline⟩ := sourceLine?_eq_some_iff.mp ((addressOfLine?_eq_some_iff hp).mp hi)
    exact h c (List.mem_of_getElem? hc) hline

end Program

namespace Assembly

/-- The lines that are remembered are those that were assembled. -/
theorem line_of_mem_cellsFrom {policy : OnError} {start k : Nat} {lines : List String} {c : Cell}
    (hc : c ∈ cellsFrom policy start lines) (hline : c.line = some k) :
    start ≤ k ∧ k < start + lines.length := by
  induction lines generalizing start with
  | nil => cases hc
  | cons line lines ih =>
    rw [cellsFrom_cons, List.mem_append] at hc
    rw [List.length_cons]
    rcases hc with hc | hc
    · rcases mem_cellsOf hc with ⟨-, hc⟩ | ⟨-, -, hc⟩
      · rw [hline] at hc
        cases hc
        omega
      · rw [hline] at hc
        cases hc
    · have hrest := ih hc
      omega

theorem increasing_cellsFrom (policy : OnError) (start : Nat) (lines : List String) :
    Increasing (cellsFrom policy start lines) := by
  induction lines generalizing start with
  | nil => exact List.Pairwise.nil
  | cons line lines ih =>
    rw [cellsFrom_cons, Increasing, List.pairwise_append]
    refine ⟨?_, ih (start + 1), ?_⟩
    · cases lineOutcome start line with
      | ok cell => exact List.pairwise_singleton _ cell
      | error d =>
        cases policy with
        | skip => exact List.Pairwise.nil
        | placeholder => exact List.pairwise_singleton _ _
    · intro c hc d hd k l hk hl
      rw [← cellsFrom_singleton] at hc
      have hfirst := line_of_mem_cellsFrom hc hk
      have hrest := line_of_mem_cellsFrom hd hl
      rw [List.length_singleton] at hfirst
      omega

def report? (x : String × Nat) : Option Diagnostic :=
  match parseLine x.1 with
  | .ok _ => none
  | .error d => some (d.atLine x.2)

theorem errorsFrom_eq (start : Nat) (lines : List String) :
    errorsFrom start lines = (lines.zipIdx start).filterMap report? := by
  induction lines generalizing start with
  | nil => rfl
  | cons line lines ih =>
    rw [List.zipIdx_cons]
    cases h : parseLine line with
    | ok i =>
      have hnone : report? (line, start) = none := by rw [report?, h]
      rw [errorsFrom_cons_of_ok start lines h, ih, List.filterMap_cons_none hnone]
    | error d =>
      have hsome : report? (line, start) = some (d.atLine start) := by rw [report?, h]
      rw [errorsFrom_cons_of_error start lines h, ih, List.filterMap_cons_some hsome]

theorem mem_errorsFrom_iff {lines : List String} {d : Diagnostic} :
    d ∈ errorsFrom 0 lines ↔
      ∃ k line d₀, lines[k]? = some line ∧ parseLine line = .error d₀ ∧ d = d₀.atLine k := by
  rw [errorsFrom_eq, List.mem_filterMap]
  constructor
  · rintro ⟨⟨line, k⟩, hmem, hreport⟩
    have hline := List.mk_mem_zipIdx_iff_getElem?.mp hmem
    unfold report? at hreport
    split at hreport
    · cases hreport
    · next d₀ hparse => exact ⟨k, line, d₀, hline, hparse, (Option.some.inj hreport).symm⟩
  · rintro ⟨k, line, d₀, hline, hparse, rfl⟩
    refine ⟨(line, k), List.mk_mem_zipIdx_iff_getElem?.mpr hline, ?_⟩
    rw [report?, hparse]

/-- What a line leaves lies between what the lines before it and after it leave. -/
theorem cellsFrom_split {lines : List String} {line : String} {k : Nat} (policy : OnError)
    (h : lines[k]? = some line) :
    cellsFrom policy 0 lines = cellsFrom policy 0 (lines.take k) ++
      (cellsOf policy (lineOutcome k line) ++ cellsFrom policy (k + 1) (lines.drop (k + 1))) := by
  obtain ⟨hk, rfl⟩ := List.getElem?_eq_some_iff.mp h
  have hparts : lines.take k ++ lines[k] :: lines.drop (k + 1) = lines := by
    rw [← List.drop_eq_getElem_cons hk, List.take_append_drop]
  have hlength : 0 + (lines.take k).length = k := by
    rw [List.length_take]
    omega
  conv => lhs; rw [← hparts, cellsFrom_append, hlength, cellsFrom_cons]

theorem cell_of_ok {lines : List String} {line : String} {k : Nat} {i : Instr} (policy : OnError)
    (h : lines[k]? = some line) (hi : parseLine line = .ok i) :
    (cellsFrom policy 0 lines)[(cellsFrom policy 0 (lines.take k)).length]? =
      some ⟨i.encode, some k⟩ := by
  rw [cellsFrom_split policy h, lineOutcome_of_ok k hi, List.getElem?_append_right (Nat.le_refl _),
    Nat.sub_self]
  rfl

theorem line_ne_of_fails {lines : List String} {line : String} {k : Nat} (policy : OnError)
    (h : lines[k]? = some line) (hfails : fails line = true) :
    ∀ c ∈ cellsFrom policy 0 lines, c.line ≠ some k := by
  intro c hc hline
  rw [cellsFrom_split policy h, List.mem_append, List.mem_append] at hc
  rcases hc with hc | hc | hc
  · have hbefore := line_of_mem_cellsFrom hc hline
    rw [List.length_take] at hbefore
    omega
  · rcases mem_cellsOf hc with ⟨hfine, -⟩ | ⟨-, -, hnone⟩
    · rw [hfails] at hfine
      cases hfine
    · rw [hnone] at hline
      cases hline
  · have hafter := line_of_mem_cellsFrom hc hline
    omega

theorem assembleLine_eq_ok_iff {line : String} {word : UInt8} :
    assembleLine line = .ok word ↔ ∃ i, parseLine line = .ok i ∧ i.encode = word := by
  rw [assembleLine]
  cases parseLine line with
  | ok i => simp [Except.map]
  | error d => simp [Except.map]

/-- What holds of an assembly of lines, whatever becomes of the lines that fail. -/
structure SourceMap (lines : List String) (a : Assembly) : Prop where
  errors_eq : a.errors = lines.zipIdx.filterMap report?
  of_assembled : ∀ k line word, lines[k]? = some line → assembleLine line = .ok word →
    ∃ address, a.program.addressOfLine? k = some address ∧
      a.program.get? address = some word ∧ a.program.sourceLine? address = some k
  of_fails : ∀ k line, lines[k]? = some line → fails line = true →
    a.program.addressOfLine? k = none
  of_length_le : ∀ k, lines.length ≤ k → a.program.addressOfLine? k = none
  of_sourceLine : ∀ address k, a.program.sourceLine? address = some k →
    a.program.addressOfLine? k = some address
  increasing : ∀ address address' k k', address < address' →
    a.program.sourceLine? address = some k → a.program.sourceLine? address' = some k' → k < k'
  of_size_le : ∀ address, a.program.size ≤ address →
    a.program.sourceLine? address = none ∧ a.program.get? address = none

/-- Lines that fail leave nothing. -/
structure Skipped (lines : List String) (a : Assembly) : Prop where
  address_add : ∀ k address, a.program.addressOfLine? k = some address →
    address + (lines.take k).countP fails = k
  size_add : a.program.size + a.errors.length = lines.length
  mapped : ∀ address, address < a.program.size → ∃ k, a.program.sourceLine? address = some k

/-- Lines that fail leave a word that came from no line. -/
structure Placed (lines : List String) (a : Assembly) : Prop where
  address_eq : ∀ k address, a.program.addressOfLine? k = some address → address = k
  size_eq : a.program.size = lines.length
  of_fails : ∀ k line, lines[k]? = some line → fails line = true →
    a.program.get? k = some 0 ∧ a.program.sourceLine? k = none

theorem cells_ofLines (policy : OnError) (lines : List String) :
    (ofLines policy lines).program.cells = cellsFrom policy 0 lines := by
  rw [ofLines_eq]

theorem increasing_ofLines (policy : OnError) (lines : List String) :
    Increasing (ofLines policy lines).program.cells := by
  rw [cells_ofLines]
  exact increasing_cellsFrom policy 0 lines

theorem sourceMap (policy : OnError) (lines : List String) :
    SourceMap lines (ofLines policy lines) := by
  have hcells := cells_ofLines policy lines
  have hincreasing := increasing_ofLines policy lines
  refine ⟨?_, ?_, ?_, ?_, ?_, ?_, ?_⟩
  · rw [ofLines_eq]
    exact errorsFrom_eq 0 lines
  · intro k line word hline hword
    obtain ⟨i, hi, rfl⟩ := assembleLine_eq_ok_iff.mp hword
    have hcell := cell_of_ok policy hline hi
    rw [← hcells] at hcell
    have hsource := Program.sourceLine?_eq_some_iff.mpr ⟨_, hcell, rfl⟩
    refine ⟨_, (Program.addressOfLine?_eq_some_iff hincreasing).mpr hsource, ?_, hsource⟩
    rw [Program.get?_eq, hcell]
    rfl
  · intro k line hline hfails
    rw [Program.addressOfLine?_eq_none_iff hincreasing, hcells]
    exact line_ne_of_fails policy hline hfails
  · intro k hk
    rw [Program.addressOfLine?_eq_none_iff hincreasing, hcells]
    intro c hc hline
    have hbound := line_of_mem_cellsFrom hc hline
    omega
  · intro address k hsource
    exact (Program.addressOfLine?_eq_some_iff hincreasing).mpr hsource
  · intro address address' k k' hlt ha ha'
    exact Program.lt_of_sourceLine? hincreasing hlt ha ha'
  · intro address hle
    exact ⟨Program.sourceLine?_of_size_le hle, Program.get?_of_size_le hle⟩

/-- The address of a line is the number of words that the lines before it leave. -/
theorem address_eq_length {policy : OnError} {lines : List String} {k address : Nat}
    (h : (ofLines policy lines).program.addressOfLine? k = some address) :
    address = (cellsFrom policy 0 (lines.take k)).length := by
  have hincreasing := increasing_ofLines policy lines
  have hsource := (Program.addressOfLine?_eq_some_iff hincreasing).mp h
  obtain ⟨c, hc, hline⟩ := Program.sourceLine?_eq_some_iff.mp hsource
  rw [cells_ofLines] at hc
  have hmem := List.mem_of_getElem? hc
  have hk : k < lines.length := by
    have hbound := line_of_mem_cellsFrom hmem hline
    omega
  have hat : lines[k]? = some lines[k] := List.getElem?_eq_getElem hk
  cases hparse : parseLine lines[k] with
  | error d => exact absurd hline (line_ne_of_fails policy hat (fails_of_error hparse) c hmem)
  | ok i =>
    have hcell := cell_of_ok policy hat hparse
    rw [← cells_ofLines] at hcell
    have hhere := Program.sourceLine?_eq_some_iff.mpr ⟨_, hcell, rfl⟩
    exact Program.eq_of_sourceLine? hincreasing hsource hhere

theorem line_ne_none_of_skip {start : Nat} {lines : List String} {c : Cell}
    (hc : c ∈ cellsFrom .skip start lines) : c.line ≠ none := by
  induction lines generalizing start with
  | nil => cases hc
  | cons line lines ih =>
    rw [cellsFrom_cons, List.mem_append] at hc
    rcases hc with hc | hc
    · rcases mem_cellsOf hc with ⟨-, hsome⟩ | ⟨-, hpolicy, -⟩
      · rw [hsome]
        exact Option.some_ne_none start
      · cases hpolicy
    · exact ih hc

theorem skipped (lines : List String) : Skipped lines (ofLines .skip lines) := by
  refine ⟨?_, ?_, ?_⟩
  · intro k address h
    have hbefore := length_cellsFrom_skip 0 (lines.take k)
    have hk : k < lines.length := by
      rcases Nat.lt_or_ge k lines.length with hlt | hle
      · exact hlt
      · rw [(sourceMap .skip lines).of_length_le k hle] at h
        cases h
    have htake : (lines.take k).length = k := by
      rw [List.length_take]
      omega
    rw [address_eq_length h, hbefore, htake]
  · have hall := length_cellsFrom_skip 0 lines
    rw [ofLines_eq, Program.size, length_errorsFrom]
    exact hall
  · intro address hlt
    rw [Program.size, cells_ofLines] at hlt
    have hmem := List.getElem_mem hlt
    obtain ⟨k, hk⟩ := Option.ne_none_iff_exists'.mp (line_ne_none_of_skip hmem)
    refine ⟨k, Program.sourceLine?_eq_some_iff.mpr ⟨_, ?_, hk⟩⟩
    rw [cells_ofLines]
    exact List.getElem?_eq_getElem hlt

theorem placed (lines : List String) : Placed lines (ofLines .placeholder lines) := by
  have hsize : (ofLines .placeholder lines).program.size = lines.length := by
    rw [Program.size, cells_ofLines]
    exact length_cellsFrom_placeholder 0 lines
  refine ⟨?_, hsize, ?_⟩
  · intro k address h
    have hsource := (Program.addressOfLine?_eq_some_iff (increasing_ofLines _ _)).mp h
    have hlt := Program.lt_size_of_sourceLine? hsource
    have haddress := address_eq_length h
    rw [length_cellsFrom_placeholder, List.length_take] at haddress
    omega
  · intro k line hline hfails
    have hlt := (List.getElem?_eq_some_iff.mp hline).1
    have hbefore : (cellsFrom .placeholder 0 (lines.take k)).length = k := by
      rw [length_cellsFrom_placeholder, List.length_take]
      omega
    have hcell : (ofLines .placeholder lines).program.cells[k]? = some ⟨Instr.nopWord, none⟩ := by
      cases hd : parseLine line with
      | ok i =>
        rw [fails_of_ok hd] at hfails
        cases hfails
      | error d =>
        have hright : (cellsFrom .placeholder 0 (lines.take k)).length ≤ k := by omega
        rw [cells_ofLines, cellsFrom_split .placeholder hline, lineOutcome_of_error k hd,
          List.getElem?_append_right hright, hbefore, Nat.sub_self]
        rfl
    constructor
    · rw [Program.get?_eq, hcell]
      rfl
    · rw [Option.eq_none_iff_forall_ne_some]
      intro l hl
      obtain ⟨c, hc, hline'⟩ := Program.sourceLine?_eq_some_iff.mp hl
      rw [hcell] at hc
      cases hc
      cases hline'

/-- Every batch of lines gives a program with its source map, and all diagnostics of its lines. -/
theorem sourceMap_ofLines (policy : OnError) (lines : List String) :
    SourceMap lines (ofLines policy lines) ∧ Skipped lines (ofLines .skip lines) ∧
      Placed lines (ofLines .placeholder lines) :=
  ⟨sourceMap policy lines, skipped lines, placed lines⟩

end Assembly

end ByteBench
