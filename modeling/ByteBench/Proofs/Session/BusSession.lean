import ByteBench.Proofs.Machine.Bus
import ByteBench.Proofs.Session.Moves

/-!
# A session with the bus model

Main statement: `execute_bus`, a session with a bus model that has just been powered on succeeds,
and what it leaves in the memories, in the counters and in the trace.
-/

namespace ByteBench.Session

/-- What a session leaves that has loaded `words` into a bus model with some data. A byte of program
memory is the word at the last of the addresses that stand for it. -/
structure Completed (data : Memory) (words : List UInt8) (flags : SessionFlags) (trace : Trace)
    (s : Session Bus) : Prop where
  phase_eq : s.phase = .done
  cycles_eq : s.cycles =
    1 + words.length + flags.runCycles.toNat + flags.readbackCycles.toNat
  time_eq : s.time = 2 * s.cycles
  evals_eq : s.model.evals = 2 * s.cycles
  programWrites_eq : s.model.programWrites = words.length
  runEdges_eq : s.model.runEdges = flags.runCycles.toNat
  closes_eq : s.model.closes = 1
  data_eq : s.model.data = data
  program_of_last : ∀ (j : Fin 256) (address : Nat) (word : UInt8), words[address]? = some word →
    address % 256 = j.val →
    (∀ other : Nat, address < other → other < words.length → other % 256 ≠ j.val) →
    s.model.program.bytes[j] = word
  program_of_none : ∀ j : Fin 256,
    (∀ address : Nat, address < words.length → address % 256 ≠ j.val) →
    s.model.program.bytes[j] = 0
  /-- The first entry shows the byte at address zero, as the second one does. -/
  entries_eq : trace.entries = (List.range flags.readbackCycles.toNat).map fun i =>
    ⟨.ofNat i, data.bytes[(i - 1) % 256]⟩

theorem entriesFrom_edges (g : Pins → Outputs) (period : Nat → Period) (cycle n : Nat) :
    entriesFrom cycle ((edges ((List.range' cycle n).map period)).map g) =
      (List.range' cycle n).map fun i =>
        ⟨.ofNat i, (g ((period i).pins.level false)).dataOut⟩ := by
  induction n generalizing cycle with
  | zero => rfl
  | succ n ih =>
    have hedges : ∀ ds, edges (period cycle :: ds) =
        (period cycle).pins.level true :: (period cycle).pins.level false :: edges ds := by
      intro ds
      rfl
    rw [List.range'_succ, List.map_cons, List.map_cons, hedges, List.map_cons, List.map_cons,
      entriesFrom, ih]

/-- The answers that a session reads back are those to the periods after all others. -/
theorem drop_answers (g : Pins → Outputs) (words : List UInt8) (runCycles readbackCycles : Nat) :
    ((edges (schedule words runCycles readbackCycles)).map g).drop
        (2 * (1 + words.length + runCycles)) =
      (edges ((List.range readbackCycles).map fun i =>
        ⟨.readback, Pins.reading words i⟩)).map g := by
  rw [schedule, ← List.append_assoc, ← List.append_assoc, edges_append, List.map_append]
  apply List.drop_left'
  rw [List.length_map, length_edges, List.length_append, List.length_append, List.length_mapIdx,
    List.length_replicate, List.length_singleton]

theorem length_schedule (words : List UInt8) (runCycles readbackCycles : Nat) :
    (schedule words runCycles readbackCycles).length =
      1 + words.length + runCycles + readbackCycles := by
  simp only [schedule, List.length_append, List.length_singleton, List.length_mapIdx,
    List.length_replicate, List.length_map, List.length_range]
  omega

theorem release_of_open {M : Type} [Processor M] {s : Session M} (hopen : s.modelOpen = true)
    (hsink : s.sink = none) :
    s.release =
      { s with
        model := Processor.close s.model, modelOpen := false, calls := .close :: s.calls } := by
  rw [release_of_isOpen hopen, hsink]
  rfl

/-- The model and its answers after all clock periods of a session. -/
theorem ofRows_plan (program data : Memory) (flags : SessionFlags) (p : Program) :
    Feed.ofRows (edges (plan p flags)) ({ program, data } : Bus) =
      { model :=
          { program := Memory.zeros.store 0 p.words
            data
            evals := 2 * (plan p flags).length
            programWrites := p.words.length
            runEdges := flags.runCycles.toNat }
        answers := (edges (plan p flags)).map fun pins => ⟨data.get pins.dataAddress⟩ } := by
  have hwilling : ({ program, data } : Bus).Willing := ⟨rfl, rfl, rfl⟩
  rw [Bus.ofRows_edges hwilling rfl, plan, Bus.driven_schedule, length_schedule]
  rfl

/-- The byte that is seen in a cycle is the one that the cycle before it has asked for. -/
theorem entries_readback (data : Memory) (words : List UInt8) (runCycles readbackCycles : Nat) :
    entriesFrom 0 (((edges (schedule words runCycles readbackCycles)).map
        fun pins => ⟨data.get pins.dataAddress⟩).drop (2 * (1 + words.length + runCycles))) =
      (List.range readbackCycles).map fun i => ⟨.ofNat i, data.bytes[(i - 1) % 256]⟩ := by
  rw [drop_answers, List.range_eq_range', entriesFrom_edges]
  apply List.map_congr_left
  intro i _
  have hvalue : data.get ((Pins.reading words i).level false).dataAddress =
      data.bytes[(i - 1) % 256] := Memory.get_ofNat data (i - 1)
  rw [hvalue]

/-- A bus model that has just been powered on takes any program that fits, and does with it what it
should, whatever its memories hold. -/
theorem execute_bus (program data : Memory) (flags : SessionFlags) (p : Program)
    (hsize : p.size ≤ programSpace) :
    ∃ trace s, execute p (new ({ program, data } : Bus) flags) = .ok trace s ∧
      Completed data p.words flags trace s := by
  obtain ⟨n, hn⟩ : ∃ n, (plan p flags).length = n := ⟨_, rfl⟩
  have hcount : n = 1 + p.words.length + flags.runCycles.toNat + flags.readbackCycles.toNat := by
    rw [← hn, plan, length_schedule]
  obtain ⟨f, hf⟩ : ∃ f, Feed.ofRows (edges (plan p flags)) ({ program, data } : Bus) = f := ⟨_, rfl⟩
  have hfeed := ofRows_plan program data flags p
  rw [hf, hn] at hfeed
  have hfailure : f.failure = none := by rw [hfeed]
  have hlength : f.answers.length = 2 * n := by rw [hfeed, List.length_map, length_edges, hn]
  have hcycles : 0 + f.answers.length / 2 = n := by omega
  have htime : 0 + f.answers.length = 2 * n := by omega
  have hrun := execute_of_none (s := new ({ program, data } : Bus) flags) hsize rfl rfl hf hfailure
  rw [release_of_open rfl rfl] at hrun
  refine ⟨_, _, hrun, ?_⟩
  refine ⟨rfl, hcycles.trans hcount, ?_, ?_, ?_, ?_, ?_, ?_, ?_, ?_, ?_⟩
  · show 0 + f.answers.length = 2 * (0 + f.answers.length / 2)
    rw [hcycles, htime]
  · show f.model.evals = 2 * (0 + f.answers.length / 2)
    rw [hcycles, hfeed]
  · show f.model.programWrites = p.words.length
    rw [hfeed]
  · show f.model.runEdges = flags.runCycles.toNat
    rw [hfeed]
  · show f.model.close.closes = 1
    rw [Bus.closes_close, hfeed]
    rfl
  · show f.model.data = data
    rw [hfeed]
  · intro j address word hword hj hlast
    have hhere : (0 + address) % 256 = j.val := by rwa [Nat.zero_add]
    have hlater : ∀ other : Nat, address < other → other < p.words.length →
        (0 + other) % 256 ≠ j.val := by
      intro other hlt hother
      rw [Nat.zero_add]
      exact hlast other hlt hother
    show f.model.program.bytes[j] = word
    simp only [hfeed]
    exact Memory.getElem_store_of_last _ hword hhere hlater
  · intro j hnone
    have hkept : ∀ address : Nat, address < p.words.length → (0 + address) % 256 ≠ j.val := by
      intro address haddress
      rw [Nat.zero_add]
      exact hnone address haddress
    show f.model.program.bytes[j] = 0
    simp only [hfeed]
    rw [Memory.getElem_store_of_ne _ hkept, Memory.getElem_zeros]
  · show entriesFrom 0 (f.answers.drop (2 * (1 + p.size + flags.runCycles.toNat))) = _
    rw [hfeed, ← Program.length_words]
    exact entries_readback data p.words flags.runCycles.toNat flags.readbackCycles.toNat

/-- A program of two words, with the settings that are in force by default. -/
theorem execute_bus_pair :
    (Program.ofWords [0x2a, 0x15]).size ≤ programSpace ∧
      ∃ trace s, execute (Program.ofWords [0x2a, 0x15])
          (new ({ program := Memory.zeros, data := Memory.zeros } : Bus) {}) = .ok trace s ∧
        Completed Memory.zeros [0x2a, 0x15] {} trace s :=
  ⟨by decide,
    execute_bus Memory.zeros Memory.zeros {} (Program.ofWords [0x2a, 0x15]) (by decide)⟩

end ByteBench.Session
