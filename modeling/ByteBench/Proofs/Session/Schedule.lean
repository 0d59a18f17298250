import ByteBench.Proofs.Session.Outcome

/-!
# The schedule of a session

Which pins a session holds in which clock period is settled by its program and by its numbers of
cycles before anything has run. Main statements: `course_eq`, the phases of a session drive its
model through `schedule`, and `execute_of_none` and `execute_of_some`, how a session ends.
-/

namespace ByteBench

namespace Pins

def resetting : Pins := { reset := true, serviceMode := true, programReset := true }

def loading (address : Nat) (word : UInt8) : Pins :=
  { serviceMode := true, writeEnable := true, programAddress := .ofNat address,
    programData := word }

/-- All control pins are low, and the program pins are as the last word has left them. -/
def running (words : List UInt8) : Pins :=
  { programAddress := .ofNat (words.length - 1), programData := words.getLastD 0 }

/-- The data address lags behind by one cycle. -/
def reading (words : List UInt8) (cycle : Nat) : Pins :=
  { running words with serviceMode := true, dataAddress := .ofNat (cycle - 1) }

end Pins

/-- The pins for writing a word, while the others are kept. -/
def Pins.writing (base : Pins) (address : Nat) (word : UInt8) : Pins :=
  { base with programAddress := .ofNat address, programData := word, writeEnable := true }

def Pins.asking (base : Pins) (address : Nat) : Pins := { base with dataAddress := .ofNat address }

/-- The clock periods of a session: one to reset, one to load each word, and then those of running
and of reading back. -/
def schedule (words : List UInt8) (runCycles readbackCycles : Nat) : List Period :=
  [⟨.reset, Pins.resetting⟩] ++
  (words.mapIdx (fun i word => ⟨.load, Pins.loading i word⟩) ++
  (List.replicate runCycles ⟨.run, Pins.running words⟩ ++
  (List.range readbackCycles).map fun i => ⟨.readback, Pins.reading words i⟩))

def plan (p : Program) (flags : SessionFlags) : List Period :=
  schedule p.words flags.runCycles.toNat flags.readbackCycles.toNat

/-- The trace of the answers to some clock periods from a cycle on. What is seen in a cycle is the
answer to the second evaluation. -/
def entriesFrom (cycle : Nat) : List Outputs → List TraceEntry
  | _ :: answer :: answers => ⟨.ofNat cycle, answer.dataOut⟩ :: entriesFrom (cycle + 1) answers
  | _ => []

namespace Session

open Pins

variable {M : Type} [Processor M]

theorem ticks_eq (n : Nat) (s : Session M) (h : s.pins.clock = false) :
    ticks n s = outcome (List.replicate n ⟨s.phase, s.pins⟩) s.phase s.pins (fun _ => ()) s := by
  induction n generalizing s with
  | zero => exact (outcome_nil s.phase s.pins (fun _ => ()) s).symm
  | succ n ih =>
    have hlow : s.pins.level false = s.pins := by rw [← h]; rfl
    have htick := tick_eq s
    rw [hlow] at htick
    apply outcome_bind htick
    intro as t _ hphase hpins _ _
    rw [← hphase, ← hpins]
    exact ih t (by rw [hpins]; exact h)

theorem level_of_low {p : Pins} (h : p.clock = false) : p.level false = p := by
  rw [← h]
  rfl

theorem loadFrom_eq (address : Nat) (words : List UInt8) (s : Session M)
    (h : s.pins.clock = false) :
    loadFrom (.ofNat address) words s =
      outcome (words.mapIdx fun i word => ⟨s.phase, writing s.pins (address + i) word⟩) s.phase
        ((words.mapIdx fun i word => writing s.pins (address + i) word).getLast?.getD s.pins)
        (fun _ => ()) s := by
  induction words generalizing address s with
  | nil => exact (outcome_nil s.phase s.pins (fun _ => ()) s).symm
  | cons word words ih =>
    obtain ⟨held, hheld⟩ : ∃ p, writing s.pins address word = p := ⟨_, rfl⟩
    have hlow : held.clock = false := by rw [← hheld]; exact h
    have hnext : UInt16.ofNat address + 1 = UInt16.ofNat (address + 1) :=
      (UInt16.ofNat_add address 1).symm
    have hstep : loadFrom (.ofNat address) (word :: words) s =
        (tick >>= fun _ => loadFrom (.ofNat (address + 1)) words)
          (place s.phase held s.cycles s) := by
      rw [← hnext, ← hheld]
      rfl
    have htick := tick_eq (place s.phase held s.cycles s)
    have hindex : ∀ i word', writing s.pins (address + (i + 1)) word' =
        writing held (address + 1 + i) word' := by
      intro i word'
      rw [← hheld, Nat.add_assoc, Nat.add_comm 1 i]
      rfl
    simp only [List.mapIdx_cons, List.getLast?_cons, Option.getD_some, hindex, Nat.add_zero, hheld]
    rw [hstep, ← outcome_place _ _ s.phase _ held]
    apply outcome_bind htick
    intro as t _ hphase hpins _ _
    have hpins' : t.pins = held := hpins.trans (level_of_low hlow)
    have hphase' : t.phase = s.phase := hphase
    rw [← hphase', ← hpins']
    exact ih (address + 1) t (by rw [hpins']; exact hlow)

theorem readFrom_succ (cycle : UInt16) (seen : List TraceEntry) (n : Nat) :
    (readFrom cycle seen (n + 1) : Action M (List TraceEntry)) =
      tick >>= fun _ => fun t =>
        readFrom (cycle + 1) (⟨cycle, t.outputs.dataOut⟩ :: seen) n
          (place t.phase { t.pins with dataAddress := cycle } t.cycles t) := rfl

theorem readFrom_eq (cycle n : Nat) (seen : List TraceEntry) (s : Session M) (base : Pins)
    (h : base.clock = false) (hs : s.pins = asking base (cycle - 1)) :
    readFrom (.ofNat cycle) seen n s =
      outcome ((List.range' cycle n).map fun i => ⟨s.phase, asking base (i - 1)⟩) s.phase
        (asking base (cycle + n - 1)) (fun as => seen.reverse ++ entriesFrom cycle as) s := by
  induction n generalizing cycle seen s with
  | zero =>
    have hnone : seen.reverse ++ entriesFrom cycle [] = seen.reverse := List.append_nil _
    rw [Nat.add_zero, ← hs, List.range'_zero, List.map_nil, outcome_nil, hnone]
    rfl
  | succ n ih =>
    have hnext : UInt16.ofNat cycle + 1 = UInt16.ofNat (cycle + 1) :=
      (UInt16.ofNat_add cycle 1).symm
    have hlast : cycle + (n + 1) - 1 = cycle + 1 + n - 1 := by omega
    have htick := tick_eq s
    rw [hs, level_of_low (p := asking base (cycle - 1)) h] at htick
    rw [readFrom_succ, List.range'_succ, List.map_cons, hlast]
    apply outcome_bind htick
    intro as t has hphase hpins _ houtputs
    obtain ⟨low, high, rfl⟩ : ∃ x y, as = [x, y] := by
      match as, has with
      | [x, y], _ => exact ⟨x, y, rfl⟩
    have hvalue : t.outputs = high := houtputs
    have hasked : { t.pins with dataAddress := .ofNat cycle } = asking base cycle := by
      rw [hpins]
      rfl
    have hentries : ∀ bs, seen.reverse ++ entriesFrom cycle ([low, high] ++ bs) =
        (⟨.ofNat cycle, high.dataOut⟩ :: seen).reverse ++ entriesFrom (cycle + 1) bs := by
      intro bs
      rw [List.reverse_cons, List.append_assoc]
      rfl
    simp only [hentries, hvalue, hnext, hasked, hphase]
    rw [← outcome_place _ _ s.phase _ (asking base cycle)]
    exact ih (cycle + 1) _ (place s.phase (asking base cycle) t.cycles t) rfl

omit [Processor M] in
theorem enter_bind {α : Type} (phase : Phase) (x : Action M α) (s : Session M) :
    (enter phase >>= fun _ => x) s = x (place phase s.pins s.cycles s) := rfl

theorem outcome_setPins {x : Action M Unit} {s : Session M} {ds : List Period} {phase : Phase}
    {pins : Pins} (f : Pins → Pins) (hx : x s = outcome ds phase pins (fun _ => ()) s) :
    (x >>= fun _ => setPins f) s = outcome ds phase (f pins) (fun _ => ()) s := by
  have hall : (x >>= fun _ => setPins f) s = outcome (ds ++ []) phase (f pins) (fun _ => ()) s := by
    apply outcome_bind hx
    intro as t _ hphase hpins _ _
    rw [outcome_nil, ← hphase, ← hpins]
    rfl
  rw [hall, List.append_nil]

theorem reset_eq (s : Session M) (hphase : s.phase = .idle) (hpins : s.pins = {}) :
    reset s = outcome [⟨.reset, resetting⟩] .reset { serviceMode := true } (fun _ => ()) s := by
  have htick := tick_eq (place .reset resetting s.cycles s)
  rw [reset, bind_of_ok (expectPhase_of_eq hphase), enter_bind, hpins, setPins_bind]
  exact outcome_setPins _ htick

/-- Where loading leaves the pins: at the last word, if there is one. -/
theorem pins_loaded (words : List UInt8) :
    { ((words.mapIdx loading).getLast?.getD { serviceMode := true } : Pins) with
        writeEnable := false } =
      { running words with serviceMode := true } := by
  rcases List.eq_nil_or_concat words with rfl | ⟨init, word, rfl⟩
  · rfl
  · simp [running, loading]

theorem load_eq (p : Program) (s : Session M) (hsize : p.size ≤ programSpace)
    (hphase : s.phase = .reset) (hpins : s.pins = { serviceMode := true }) :
    load p s = outcome (p.words.mapIdx fun i word => ⟨.load, loading i word⟩) .load
      { running p.words with serviceMode := true } (fun _ => ()) s := by
  have hfits : ¬ programSpace < p.size := Nat.not_lt.mpr hsize
  have hbody : load p s = (enter .load >>= fun _ => loadFrom 0 p.words >>= fun _ =>
      setPins ({ · with writeEnable := false })) s := by
    rw [load, bind_of_ok (expectPhase_of_eq hphase), if_neg hfits]
  have hwriting : ∀ (i : Nat) (word : UInt8),
      writing { serviceMode := true } (0 + i) word = loading i word := by
    intro i word
    rw [Nat.zero_add]
    rfl
  have hload : loadFrom 0 p.words (place .load { serviceMode := true } s.cycles s) =
      outcome (p.words.mapIdx fun i word => ⟨.load, writing { serviceMode := true } (0 + i) word⟩)
        .load
        ((p.words.mapIdx fun i word => writing { serviceMode := true } (0 + i) word).getLast?.getD
          { serviceMode := true }) (fun _ => ()) s :=
    loadFrom_eq 0 p.words (place .load { serviceMode := true } s.cycles s) rfl
  simp only [hwriting] at hload
  rw [hbody, enter_bind, hpins, ← pins_loaded]
  exact outcome_setPins _ hload

theorem run_eq (words : List UInt8) (s : Session M) (hphase : s.phase = .load)
    (hpins : s.pins = { running words with serviceMode := true }) :
    run s = outcome (List.replicate s.flags.runCycles.toNat ⟨.run, running words⟩) .run
      (running words) (fun _ => ()) s := by
  rw [run, bind_of_ok (expectPhase_of_eq hphase), enter_bind, hpins, setPins_bind]
  exact ticks_eq s.flags.runCycles.toNat (place .run (running words) s.cycles s) rfl

def readout : Action M (List TraceEntry) := do
  expectPhase .run
  enter .readback
  setPins ({ · with serviceMode := true })
  readFrom 0 [] (← get).flags.readbackCycles.toNat

theorem readout_eq (words : List UInt8) (s : Session M) (hphase : s.phase = .run)
    (hpins : s.pins = running words) :
    readout s =
      outcome ((List.range s.flags.readbackCycles.toNat).map fun i => ⟨.readback, reading words i⟩)
        .readback (reading words s.flags.readbackCycles.toNat) (entriesFrom 0) s := by
  rw [readout, bind_of_ok (expectPhase_of_eq hphase), enter_bind, hpins, setPins_bind]
  have h := readFrom_eq 0 s.flags.readbackCycles.toNat []
    (place .readback { running words with serviceMode := true } s.cycles s)
    { running words with serviceMode := true } rfl rfl
  rw [Nat.zero_add, outcome_place] at h
  rw [List.range_eq_range']
  exact h

/-- A session up to its completion. -/
def course (p : Program) : Action M (List TraceEntry) := do
  reset
  load p
  run
  readout

theorem course_eq (p : Program) (s : Session M) (hsize : p.size ≤ programSpace)
    (hphase : s.phase = .idle) (hpins : s.pins = {}) :
    course p s =
      outcome (plan p s.flags) .readback (reading p.words s.flags.readbackCycles.toNat)
        (fun as => entriesFrom 0 (as.drop (2 * (1 + p.size + s.flags.runCycles.toNat)))) s := by
  rw [course, plan, schedule]
  apply outcome_bind (reset_eq s hphase hpins)
  intro as t has htphase htpins htflags _
  apply outcome_bind (load_eq p t hsize htphase htpins)
  intro bs u hbs huphase hupins huflags _
  rw [← htflags, ← huflags]
  apply outcome_bind (run_eq p.words u huphase hupins)
  intro cs v hcs hvphase hvpins hvflags _
  rw [← hvflags, readout_eq p.words v hvphase hvpins]
  have hread : ∀ ds, (as ++ (bs ++ (cs ++ ds))).drop (2 * (1 + p.size + v.flags.runCycles.toNat)) =
      ds := by
    intro ds
    rw [List.length_mapIdx, Program.length_words] at hbs
    rw [List.length_replicate, ← hvflags] at hcs
    rw [← List.append_assoc, ← List.append_assoc]
    apply List.drop_left'
    rw [List.length_append, List.length_append, has, hbs, hcs, List.length_singleton]
    omega
  simp only [hread]

theorem execute_eq_course (p : Program) :
    (execute p : Action M Trace) =
      course p >>= fun entries => complete >>= fun _ => pure ⟨entries⟩ := by
  simp only [execute, course, readback, readout, bind_assoc]

theorem execute_of_none {p : Program} {s : Session M} {f : Feed M} (hsize : p.size ≤ programSpace)
    (hphase : s.phase = .idle) (hpins : s.pins = {})
    (hf : Feed.ofRows (edges (plan p s.flags)) s.model = f) (h : f.failure = none) :
    execute p s =
      .ok ⟨entriesFrom 0 (f.answers.drop (2 * (1 + p.size + s.flags.runCycles.toNat)))⟩
        (place .done (reading p.words s.flags.readbackCycles.toNat)
          (s.cycles + f.answers.length / 2) (s.fed (edges (plan p s.flags)) f)).release := by
  have hcourse := course_eq p s hsize hphase hpins
  rw [outcome_of_none hf h] at hcourse
  rw [execute_eq_course, bind_of_ok hcourse]
  rfl

theorem execute_of_some {p : Program} {s : Session M} {f : Feed M} {cause : ModelError}
    (hsize : p.size ≤ programSpace) (hphase : s.phase = .idle) (hpins : s.pins = {})
    (hf : Feed.ofRows (edges (plan p s.flags)) s.model = f) (h : f.failure = some cause) :
    execute p s =
      .error (.fatal (phaseAt (plan p s.flags) f.answers.length) (s.time + f.answers.length) cause)
        (place .failed (pinsAt (plan p s.flags) f.answers.length)
          (s.cycles + f.answers.length / 2) (s.fed (edges (plan p s.flags)) f)).release := by
  have hcourse := course_eq p s hsize hphase hpins
  rw [outcome_of_some hf h] at hcourse
  rw [execute_eq_course, bind_of_error hcourse]

end Session

end ByteBench
