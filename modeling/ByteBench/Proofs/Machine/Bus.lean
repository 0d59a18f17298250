import ByteBench.Machine.Bus
import ByteBench.Proofs.Machine.Memory
import ByteBench.Proofs.Session.Schedule

/-!
# The bus model in a session

A clock period does to the bus model what its rising edge does. Main statements:
`CountsBelow.advance`, an evaluation raises no counter by more than one, `ofRows_edges`, a bus model
that is neither closed nor limited answers everything, and `driven_schedule`, what it is after all
clock periods of a session.
-/

namespace ByteBench.Bus

/-- Whether no evaluation fails, as long as the model is not closed. -/
structure Willing (b : Bus) : Prop where
  closes_eq : b.closes = 0
  finishAfter_eq : b.finishAfter = none
  faultAfter_eq : b.faultAfter = none

/-- All that evaluations count is below `limit`. Below 2 ^ 64 it is what words of 64 bits count. -/
structure CountsBelow (limit : Nat) (b : Bus) : Prop where
  evals_lt : b.evals < limit
  programWrites_lt : b.programWrites < limit
  runEdges_lt : b.runEdges < limit

/-- What a clock period does to the model. -/
def period (p : Pins) (b : Bus) : Bus :=
  { countEdge p (programEdge p b) with lastClock := false, evals := b.evals + 2 }

def driven (ds : List Period) (b : Bus) : Bus := ds.foldl (fun b d => b.period d.pins) b

variable {b : Bus}

theorem Willing.refusal?_eq (h : b.Willing) : b.refusal? = none := by
  obtain ⟨hcloses, hfinish, hfault⟩ := h
  simp [refusal?, isClosed, finished, reached, hcloses, hfinish, hfault]

theorem limits_advance (p : Pins) (b : Bus) :
    (b.advance p).closes = b.closes ∧ (b.advance p).finishAfter = b.finishAfter ∧
      (b.advance p).faultAfter = b.faultAfter := by
  simp only [advance, countEdge, programEdge]
  repeat' split
  all_goals exact ⟨rfl, rfl, rfl⟩

theorem Willing.advance (h : b.Willing) (p : Pins) : (b.advance p).Willing := by
  obtain ⟨hcloses, hfinish, hfault⟩ := limits_advance p b
  exact ⟨hcloses.trans h.closes_eq, hfinish.trans h.finishAfter_eq, hfault.trans h.faultAfter_eq⟩

theorem CountsBelow.mono {limit limit' : Nat} (h : b.CountsBelow limit) (hle : limit ≤ limit') :
    b.CountsBelow limit' := by
  obtain ⟨hevals, hwrites, hedges⟩ := h
  constructor <;> omega

theorem CountsBelow.advance {limit : Nat} (h : b.CountsBelow limit) (p : Pins) :
    (b.advance p).CountsBelow (limit + 1) := by
  obtain ⟨hevals, hwrites, hedges⟩ := h
  simp only [Bus.advance, countEdge, programEdge]
  repeat' split
  all_goals
    constructor
    all_goals
      dsimp only
      omega

theorem outputs_advance (p q : Pins) (b : Bus) : (b.advance p).outputs q = b.outputs q := by
  rw [outputs, outputs, data_advance]

theorem Willing.ofRows_eq (h : b.Willing) (rows : List Pins) :
    Feed.ofRows rows b =
      { model := rows.foldl (fun b p => b.advance p) b
        answers := rows.map fun p => b.outputs p } := by
  induction rows generalizing b with
  | nil => rfl
  | cons p rows ih =>
    have heval : Processor.eval p b = (.ok (b.outputs p), b.advance p) :=
      eval_of_accepted h.refusal?_eq
    rw [Feed.ofRows_of_ok rows heval, ih (h.advance p)]
    simp only [outputs_advance]
    rfl

theorem advance_advance (p : Pins) (h : b.lastClock = false) :
    (b.advance (p.level true)).advance (p.level false) = b.period p := by
  have hrises : b.rises (p.level true) = true := by
    rw [rises, h]
    rfl
  have hfalls : (b.advance (p.level true)).rises (p.level false) = false := by
    rw [rises]
    rfl
  rw [Bus.advance, hfalls, Bus.advance, hrises]
  rfl

theorem foldl_edges (ds : List Period) (h : b.lastClock = false) :
    (edges ds).foldl (fun b p => b.advance p) b = b.driven ds := by
  induction ds generalizing b with
  | nil => rfl
  | cons d ds ih =>
    have hedges : edges (d :: ds) = d.pins.level true :: d.pins.level false :: edges ds := rfl
    have hlow : (b.period d.pins).lastClock = false := rfl
    rw [hedges, List.foldl_cons, List.foldl_cons, advance_advance d.pins h, ih hlow]
    rfl

/-- The model answers every clock period, and its answers show data memory as it was. -/
theorem ofRows_edges (h : b.Willing) (hclock : b.lastClock = false) (ds : List Period) :
    Feed.ofRows (edges ds) b =
      { model := b.driven ds, answers := (edges ds).map fun p => b.outputs p } := by
  rw [h.ofRows_eq, foldl_edges ds hclock]

theorem driven_append (xs ys : List Period) (b : Bus) :
    b.driven (xs ++ ys) = (b.driven xs).driven ys :=
  List.foldl_append

theorem driven_cons (d : Period) (ds : List Period) (b : Bus) :
    b.driven (d :: ds) = (b.period d.pins).driven ds := rfl

theorem driven_reset (phase : Phase) (b : Bus) :
    b.driven [⟨phase, Pins.resetting⟩] =
      { b with
        program := Memory.zeros, runEdges := 0, lastClock := false, evals := b.evals + 2 } := rfl

theorem driven_load (phase : Phase) (address : Nat) (words : List UInt8)
    (h : b.lastClock = false) :
    b.driven (words.mapIdx fun i word => ⟨phase, Pins.loading (address + i) word⟩) =
      { b with
        program := b.program.store address words
        programWrites := b.programWrites + words.length
        evals := b.evals + 2 * words.length } := by
  induction words generalizing address b with
  | nil => rfl
  | cons word words ih =>
    have hperiod : b.period (Period.mk phase (Pins.loading (address + 0) word)).pins =
        { b with
          program := b.program.set (.ofNat address) word
          programWrites := b.programWrites + 1
          lastClock := false
          evals := b.evals + 2 } := rfl
    have hindex : (fun i word' => (⟨phase, Pins.loading (address + (i + 1)) word'⟩ : Period)) =
        fun i word' => ⟨phase, Pins.loading (address + 1 + i) word'⟩ := by
      funext i word'
      have hnext : address + (i + 1) = address + 1 + i := by omega
      rw [hnext]
    have hwrites : b.programWrites + 1 + words.length = b.programWrites + (words.length + 1) := by
      omega
    have hevals : b.evals + 2 + 2 * words.length = b.evals + 2 * (words.length + 1) := by omega
    rw [List.mapIdx_cons, driven_cons, hindex, hperiod, ih (address + 1) rfl]
    simp only [hwrites, hevals, h, List.length_cons, Memory.store]

theorem driven_run (phase : Phase) (words : List UInt8) (n : Nat) (h : b.lastClock = false) :
    b.driven (List.replicate n ⟨phase, Pins.running words⟩) =
      { b with runEdges := b.runEdges + n, evals := b.evals + 2 * n } := by
  induction n generalizing b with
  | zero => rfl
  | succ n ih =>
    have hperiod : b.period (Pins.running words) =
        { b with runEdges := b.runEdges + 1, lastClock := false, evals := b.evals + 2 } := rfl
    have hedges : b.runEdges + 1 + n = b.runEdges + (n + 1) := by omega
    have hevals : b.evals + 2 + 2 * n = b.evals + 2 * (n + 1) := by omega
    rw [List.replicate_succ, driven_cons, hperiod, ih rfl]
    simp only [hedges, hevals, h]

theorem driven_readback (phase : Phase) (words : List UInt8) (cycles : List Nat)
    (h : b.lastClock = false) :
    b.driven (cycles.map fun i => ⟨phase, Pins.reading words i⟩) =
      { b with evals := b.evals + 2 * cycles.length } := by
  induction cycles generalizing b with
  | nil => rfl
  | cons i cycles ih =>
    have hperiod : b.period (Pins.reading words i) =
        { b with lastClock := false, evals := b.evals + 2 } := rfl
    have hevals : b.evals + 2 + 2 * cycles.length = b.evals + 2 * (cycles.length + 1) := by omega
    rw [List.map_cons, driven_cons, hperiod, ih rfl]
    simp only [hevals, h, List.length_cons]

theorem driven_schedule (program data : Memory) (words : List UInt8)
    (runCycles readbackCycles : Nat) :
    ({ program, data } : Bus).driven (schedule words runCycles readbackCycles) =
      { program := Memory.zeros.store 0 words
        data
        evals := 2 * (1 + words.length + runCycles + readbackCycles)
        programWrites := words.length
        runEdges := runCycles } := by
  have hload := fun b : Bus => driven_load (b := b) .load 0 words
  simp only [Nat.zero_add] at hload
  have hevals : 2 + 2 * words.length + 2 * runCycles + 2 * readbackCycles =
      2 * (1 + words.length + runCycles + readbackCycles) := by omega
  rw [schedule, driven_append, driven_append, driven_append, driven_reset, hload _ rfl,
    driven_run _ _ _ rfl, driven_readback _ _ _ rfl]
  simp only [Nat.zero_add, List.length_range, hevals]

end ByteBench.Bus
