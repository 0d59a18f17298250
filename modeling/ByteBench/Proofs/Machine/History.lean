import ByteBench.Proofs.Machine.Bus

/-!
# What the bus model keeps of its pins

All that the bus model holds can be told from the rows of pins that it was evaluated with: from the
rows at which the clock rises, and from how many rows there are. Main statements: `Records.advance`,
what one more evaluation adds, and `ofRows_records`, what a model holds after any rows.
-/

namespace ByteBench.Bus

/-- The rows at which the clock rises, if it was `clock` before the first row. -/
def risings (clock : Bool) : List Pins → List Pins
  | [] => []
  | p :: ps => if p.clock && !clock then p :: risings p.clock ps else risings p.clock ps

/-- Whether a rising edge writes a word. An edge that clears does not write. -/
def writes (p : Pins) : Bool := p.serviceMode && p.writeEnable && !p.programReset

def writesTo (address : UInt16) (p : Pins) : Bool :=
  writes p && p.programAddress.toNat % 256 == address.toNat % 256

/-- The edges after the last one that does as `stops` says, the latest first. -/
def sinceLast (stops : Pins → Bool) (edges : List Pins) : List Pins :=
  edges.reverse.takeWhile (!stops ·)

/-- The last byte written to an address since the last clear; before any write, what the clear left
or what was there in the beginning. -/
def byteAfter (initial : Memory) (edges : List Pins) (address : UInt16) : UInt8 :=
  match (sinceLast Pins.programReset edges).find? (writesTo address) with
  | some p => p.programData
  | none => if edges.any Pins.programReset then 0 else initial.get address

/-- A model that has not been evaluated yet. -/
def new (program data : Memory) (finishAfter faultAfter : Option Nat) : Bus :=
  { program, data, finishAfter, faultAfter }

/-- The rows that a model was evaluated with successfully, of those that it is fed. -/
def answered (rows : List Pins) (b : Bus) : List Pins :=
  rows.take (Feed.ofRows rows b).answers.length

/-- The model is what the evaluations with `rows` made of a new one with the given memories. -/
structure Records (program data : Memory) (rows : List Pins) (b : Bus) : Prop where
  get_program : ∀ address, b.program.get address = byteAfter program (risings false rows) address
  programWrites_eq : b.programWrites = (risings false rows).countP writes
  runEdges_eq :
    b.runEdges = (sinceLast Pins.reset (risings false rows)).countP (!·.serviceMode)
  evals_eq : b.evals = rows.length
  data_eq : b.data = data
  lastClock_eq : b.lastClock = (rows.getLast?.map Pins.clock).getD false
  /-- Nothing is counted that is not a row. -/
  counts_lt : b.CountsBelow (rows.length + 1)

variable {program data : Memory} {rows : List Pins} {b : Bus}

theorem risings_append (clock : Bool) (rows : List Pins) (p : Pins) :
    risings clock (rows ++ [p]) =
      risings clock rows ++
        if p.clock && !(rows.getLast?.map Pins.clock).getD clock then [p] else [] := by
  induction rows generalizing clock with
  | nil => rfl
  | cons q rows ih =>
    have hlast : ((q :: rows).getLast?.map Pins.clock).getD clock =
        (rows.getLast?.map Pins.clock).getD q.clock := by
      rw [List.getLast?_cons]
      cases rows.getLast? <;> rfl
    rw [List.cons_append, risings, risings, ih q.clock, hlast]
    cases q.clock && !clock <;> rfl

theorem sinceLast_append (stops : Pins → Bool) (edges : List Pins) (p : Pins) :
    sinceLast stops (edges ++ [p]) = if stops p then [] else p :: sinceLast stops edges := by
  rw [sinceLast, List.reverse_append, List.reverse_singleton, List.singleton_append,
    List.takeWhile_cons]
  cases stops p <;> rfl

theorem byteAfter_append (initial : Memory) (edges : List Pins) (p : Pins) (address : UInt16) :
    byteAfter initial (edges ++ [p]) address =
      if p.programReset then 0
      else if writesTo address p then p.programData
      else byteAfter initial edges address := by
  rw [byteAfter, sinceLast_append, List.any_append]
  cases hclear : p.programReset with
  | true => simp [hclear]
  | false =>
    rw [if_neg Bool.false_ne_true, List.find?_cons]
    cases hwrite : writesTo address p with
    | true => rfl
    | false => simp [byteAfter, hclear]

theorem get_programEdge (p : Pins) (b : Bus) (address : UInt16) :
    (programEdge p b).program.get address =
      if p.programReset then 0
      else if writesTo address p then p.programData
      else b.program.get address := by
  rw [programEdge, writesTo, writes]
  cases hclear : p.programReset with
  | true => simp
  | false =>
    cases hwrite : p.serviceMode && p.writeEnable with
    | false => simp
    | true => simp [Memory.get_set, Memory.index_eq_iff]

theorem programWrites_programEdge (p : Pins) (b : Bus) :
    (programEdge p b).programWrites = b.programWrites + if writes p then 1 else 0 := by
  rw [programEdge, writes]
  cases p.programReset <;> cases p.serviceMode && p.writeEnable <;> rfl

theorem runEdges_programEdge (p : Pins) (b : Bus) : (programEdge p b).runEdges = b.runEdges := by
  rw [programEdge]
  cases p.programReset <;> cases p.serviceMode && p.writeEnable <;> rfl

theorem runEdges_countEdge (p : Pins) (b : Bus) :
    (countEdge p b).runEdges =
      if p.reset then 0 else b.runEdges + if p.serviceMode then 0 else 1 := by
  rw [countEdge]
  cases p.reset <;> cases p.serviceMode <;> rfl

theorem program_countEdge (p : Pins) (b : Bus) :
    (countEdge p b).program = b.program ∧ (countEdge p b).programWrites = b.programWrites := by
  rw [countEdge]
  cases p.reset <;> cases p.serviceMode <;> exact ⟨rfl, rfl⟩

theorem advance_of_rises {p : Pins} (h : b.rises p = true) :
    b.advance p =
      { countEdge p (programEdge p b) with lastClock := p.clock, evals := b.evals + 1 } := by
  rw [Bus.advance, h]
  rfl

theorem advance_of_not_rises {p : Pins} (h : b.rises p = false) :
    b.advance p = { b with lastClock := p.clock, evals := b.evals + 1 } := by
  rw [Bus.advance, h]
  rfl

theorem records_new (program data : Memory) (finishAfter faultAfter : Option Nat) :
    Records program data [] (new program data finishAfter faultAfter) :=
  ⟨fun _ => rfl, rfl, rfl, rfl, rfl, rfl, Nat.one_pos, Nat.one_pos, Nat.one_pos⟩

/-- What one more evaluation adds. -/
theorem Records.advance (h : Records program data rows b) (p : Pins) :
    Records program data (rows ++ [p]) (b.advance p) := by
  have hdata : (b.advance p).data = data := (data_advance p b).trans h.data_eq
  have hlast : ((rows ++ [p]).getLast?.map Pins.clock).getD false = p.clock := by
    rw [List.getLast?_concat]
    rfl
  have hcounts : (b.advance p).CountsBelow ((rows ++ [p]).length + 1) := by
    rw [List.length_append]
    exact h.counts_lt.advance p
  have hrisings := risings_append false rows p
  rw [← h.lastClock_eq] at hrisings
  cases hrises : b.rises p with
  | false =>
    have hsame : risings false (rows ++ [p]) = risings false rows := by
      rw [hrisings, if_neg (by rw [← rises, hrises]; exact Bool.false_ne_true), List.append_nil]
    rw [advance_of_not_rises hrises] at hdata hcounts ⊢
    refine ⟨?_, ?_, ?_, ?_, hdata, hlast.symm, hcounts⟩
    · rw [hsame]
      exact h.get_program
    · rw [hsame]
      exact h.programWrites_eq
    · rw [hsame]
      exact h.runEdges_eq
    · rw [List.length_append, ← h.evals_eq]
      rfl
  | true =>
    have hedge : risings false (rows ++ [p]) = risings false rows ++ [p] := by
      rw [hrisings, if_pos (by rw [← rises, hrises])]
    obtain ⟨hprogram, hwrites⟩ := program_countEdge p (programEdge p b)
    rw [advance_of_rises hrises] at hdata hcounts ⊢
    refine ⟨?_, ?_, ?_, ?_, hdata, hlast.symm, hcounts⟩
    · intro address
      show (countEdge p (programEdge p b)).program.get address = _
      rw [hprogram, get_programEdge, h.get_program, hedge, byteAfter_append]
    · show (countEdge p (programEdge p b)).programWrites = _
      rw [hwrites, programWrites_programEdge, h.programWrites_eq, hedge, List.countP_append,
        List.countP_singleton]
    · show (countEdge p (programEdge p b)).runEdges = _
      rw [runEdges_countEdge, runEdges_programEdge, h.runEdges_eq, hedge, sinceLast_append]
      cases p.reset with
      | true => rfl
      | false =>
        rw [if_neg Bool.false_ne_true, if_neg Bool.false_ne_true, List.countP_cons]
        cases p.serviceMode <;> rfl
    · rw [List.length_append, ← h.evals_eq]
      rfl

theorem answered_of_accepted {p : Pins} (rows : List Pins) (h : b.refusal? = none) :
    answered (p :: rows) b = p :: answered rows (b.advance p) := by
  have heval : Processor.eval p b = (.ok (b.outputs p), b.advance p) := eval_of_accepted h
  rw [answered, Feed.ofRows_of_ok rows heval]
  rfl

theorem answered_of_refusal {p : Pins} {error : ModelError} (rows : List Pins)
    (h : b.refusal? = some error) : answered (p :: rows) b = [] := by
  have heval : Processor.eval p b = (.error error, b) := eval_of_refusal h
  rw [answered, Feed.ofRows_of_error rows heval]
  rfl

theorem Records.ofRows {past : List Pins} (h : Records program data past b) (rows : List Pins) :
    Records program data (past ++ answered rows b) (Feed.ofRows rows b).model ∧
      (Feed.ofRows rows b).answers =
        (answered rows b).map fun p => ⟨data.get p.dataAddress⟩ := by
  induction rows generalizing past b with
  | nil =>
    have hnil : answered [] b = [] := rfl
    rw [hnil, List.append_nil]
    exact ⟨h, rfl⟩
  | cons p rows ih =>
    cases hrefusal : b.refusal? with
    | some error =>
      have heval : Processor.eval p b = (.error error, b) := eval_of_refusal hrefusal
      rw [answered_of_refusal rows hrefusal, Feed.ofRows_of_error rows heval, List.append_nil]
      exact ⟨h, rfl⟩
    | none =>
      have heval : Processor.eval p b = (.ok (b.outputs p), b.advance p) :=
        eval_of_accepted hrefusal
      obtain ⟨hrecords, hanswers⟩ := ih (h.advance p)
      rw [List.append_assoc, List.singleton_append,
        ← answered_of_accepted rows hrefusal] at hrecords
      rw [Feed.ofRows_of_ok rows heval]
      refine ⟨hrecords, ?_⟩
      rw [answered_of_accepted rows hrefusal, Feed.append, hanswers, List.map_cons, outputs,
        h.data_eq]
      rfl

/-- All that a model holds and answers, told by the rows of pins that it was evaluated with. -/
theorem ofRows_records (program data : Memory) (finishAfter faultAfter : Option Nat)
    (rows : List Pins) :
    Records program data (answered rows (new program data finishAfter faultAfter))
        (Feed.ofRows rows (new program data finishAfter faultAfter)).model ∧
      (Feed.ofRows rows (new program data finishAfter faultAfter)).answers =
        (answered rows (new program data finishAfter faultAfter)).map
          (fun p => ⟨data.get p.dataAddress⟩) ∧
      ((Feed.ofRows rows (new program data finishAfter faultAfter)).failure = none →
        answered rows (new program data finishAfter faultAfter) = rows) := by
  obtain ⟨hrecords, hanswers⟩ :=
    (records_new program data finishAfter faultAfter).ofRows rows
  refine ⟨hrecords, hanswers, ?_⟩
  intro hfailure
  rw [answered, Feed.length_answers hfailure, List.take_length]

end ByteBench.Bus
