import ByteBench.Proofs.Machine.Feed
import ByteBench.Session.Phases

/-!
# Driving a session through clock periods

All that a phase does to a model is to hold pins for some clock periods. `outcome` says in one
place what becomes of a session that is driven through a row of periods: it depends on nothing but
the feed of the model with the edges of these periods, whether an evaluation fails or not. Main
statements: `tick_eq`, a clock period, and `outcome_bind`, one action after another.
-/

namespace ByteBench

def Pins.level (clock : Bool) (p : Pins) : Pins := { p with clock }

@[simp] theorem Pins.level_level (a b : Bool) (p : Pins) : (p.level a).level b = p.level b := rfl

/-- A clock period: the phase in which it falls, and the pins that are held during it. -/
structure Period where
  phase : Phase
  pins : Pins

namespace Period

def edges (d : Period) : List Pins := [d.pins.level true, d.pins.level false]

end Period

/-- The pins at every edge of the clock during a row of periods. -/
def edges (ds : List Period) : List Pins := ds.flatMap Period.edges

@[simp] theorem edges_nil : edges [] = [] := rfl

@[simp] theorem edges_append (xs ys : List Period) : edges (xs ++ ys) = edges xs ++ edges ys :=
  List.flatMap_append

@[simp] theorem length_edges (ds : List Period) : (edges ds).length = 2 * ds.length := by
  induction ds with
  | nil => rfl
  | cons d ds ih =>
    have hc : edges (d :: ds) = d.edges ++ edges ds := List.flatMap_cons
    rw [hc, List.length_append, ih, List.length_cons]
    have hd : d.edges.length = 2 := rfl
    omega

/-- The phase in which the edge number `k` falls. -/
def phaseAt (ds : List Period) (k : Nat) : Phase := (ds[k / 2]?.map Period.phase).getD .failed

def pinsAt (ds : List Period) (k : Nat) : Pins := (edges ds)[k]?.getD {}

theorem phaseAt_append_left {xs : List Period} {k : Nat} (ys : List Period)
    (h : k < 2 * xs.length) : phaseAt (xs ++ ys) k = phaseAt xs k := by
  have hk : k / 2 < xs.length := by omega
  simp only [phaseAt, List.getElem?_append_left hk]

theorem phaseAt_append_right (xs ys : List Period) (k : Nat) :
    phaseAt (xs ++ ys) (2 * xs.length + k) = phaseAt ys k := by
  have hk : (2 * xs.length + k) / 2 = xs.length + k / 2 := by omega
  have hle : xs.length ≤ xs.length + k / 2 := by omega
  simp only [phaseAt, hk, List.getElem?_append_right hle, Nat.add_sub_cancel_left]

theorem pinsAt_append_left {xs : List Period} {k : Nat} (ys : List Period)
    (h : k < 2 * xs.length) : pinsAt (xs ++ ys) k = pinsAt xs k := by
  have hk : k < (edges xs).length := by rw [length_edges]; exact h
  simp only [pinsAt, edges_append, List.getElem?_append_left hk]

theorem pinsAt_append_right (xs ys : List Period) (k : Nat) :
    pinsAt (xs ++ ys) (2 * xs.length + k) = pinsAt ys k := by
  have hle : (edges xs).length ≤ 2 * xs.length + k := by rw [length_edges]; omega
  have hk : 2 * xs.length + k - (edges xs).length = k := by rw [length_edges]; omega
  simp only [pinsAt, edges_append, List.getElem?_append_right hle, hk]

namespace Session

variable {M α β : Type}

/-- What the sink is told about evaluations with the pins `rows`. -/
def dumps (s : Session M) (rows : List Pins) (answers : List Outputs) : List Post :=
  ((rows.zip answers).zipIdx s.time).flatMap fun x =>
    (s.sink.map fun id => Post.dump id ⟨x.2, x.1.1, x.1.2⟩).toList

/-- A session after a feed of its model with `rows`. Phase, pins and cycles are left as they
were. -/
def fed (rows : List Pins) (f : Feed M) (s : Session M) : Session M :=
  { s with
    model := f.model
    outputs := f.answers.getLastD s.outputs
    time := s.time + f.answers.length
    calls := ((rows.take (f.answers.length + 1)).map Call.eval).reverse ++ s.calls
    posts := (s.dumps rows f.answers).reverse ++ s.posts }

def place (phase : Phase) (pins : Pins) (cycles : Nat) (s : Session M) : Session M :=
  { s with phase, pins, cycles }

@[simp] theorem place_place (phase phase' : Phase) (pins pins' : Pins) (cycles cycles' : Nat)
    (s : Session M) :
    place phase pins cycles (place phase' pins' cycles' s) = place phase pins cycles s := rfl

@[simp] theorem fed_place (rows : List Pins) (f : Feed M) (phase : Phase) (pins : Pins)
    (cycles : Nat) (s : Session M) :
    (place phase pins cycles s).fed rows f = place phase pins cycles (s.fed rows f) := rfl

/-- Rows that were not reached are not told. -/
theorem dumps_append_left {s : Session M} {xs : List Pins} {as : List Outputs} (ys : List Pins)
    (h : as.length ≤ xs.length) : s.dumps (xs ++ ys) as = s.dumps xs as := by
  have hmin : min xs.length as.length = as.length := Nat.min_eq_right h
  have hmin' : min (xs ++ ys).length as.length = as.length :=
    Nat.min_eq_right (by rw [List.length_append]; omega)
  have hz : (xs ++ ys).zip as = xs.zip as := by
    have hxs : xs.zip as = (xs.take (min xs.length as.length)).zip
        (as.take (min xs.length as.length)) := List.zip_eq_zip_take_min
    rw [List.zip_eq_zip_take_min, hmin', List.take_append_of_le_length h, hxs, hmin]
  rw [dumps, hz, dumps]

theorem dumps_append {s : Session M} {xs : List Pins} {as : List Outputs} (ys : List Pins)
    (bs : List Outputs) (h : as.length = xs.length) :
    s.dumps (xs ++ ys) (as ++ bs) =
      s.dumps xs as ++ { s with time := s.time + as.length }.dumps ys bs := by
  have hz : (xs.zip as).length = as.length := by
    rw [List.length_zip, h, Nat.min_self]
  simp only [dumps, List.zip_append h.symm, List.zipIdx_append, List.flatMap_append, hz]

theorem fed_append_left {s : Session M} {xs : List Pins} {f : Feed M} (ys : List Pins)
    (h : f.answers.length < xs.length) : s.fed (xs ++ ys) f = s.fed xs f := by
  have htake : (xs ++ ys).take (f.answers.length + 1) = xs.take (f.answers.length + 1) :=
    List.take_append_of_le_length h
  have hposts := dumps_append_left (s := s) ys (Nat.le_of_lt h)
  simp only [fed, htake, hposts]

/-- Two feeds are one feed with all their rows, if the first one was complete. -/
theorem fed_fed {s : Session M} {xs : List Pins} {f : Feed M} (ys : List Pins) (g : Feed M)
    (h : f.answers.length = xs.length) :
    (s.fed xs f).fed ys g = s.fed (xs ++ ys) (f.append g) := by
  have htake : xs.take (f.answers.length + 1) = xs := List.take_of_length_le (by omega)
  have hrows : (xs ++ ys).take (f.answers.length + g.answers.length + 1) =
      xs ++ ys.take (g.answers.length + 1) := by
    rw [Nat.add_assoc, h, List.take_length_add_append]
  have hlast : (f.answers ++ g.answers).getLastD s.outputs =
      g.answers.getLastD (f.answers.getLastD s.outputs) := by
    simp only [List.getLastD_eq_getLast?, List.getLast?_append, Option.getD_or]
  have hposts : s.dumps (xs ++ ys) (f.answers ++ g.answers) =
      s.dumps xs f.answers ++ (s.fed xs f).dumps ys g.answers :=
    dumps_append ys g.answers h
  simp only [fed, Feed.append, List.length_append, hrows, hlast, hposts]
  simp only [htake, Nat.add_assoc, List.map_append, List.reverse_append, List.append_assoc]

theorem fed_pair (s : Session M) (first second : Pins) (m : M) (outputs : Outputs) (g : Feed M) :
    (s.fed [first] { model := m, answers := [outputs] }).fed [second] g =
      s.fed [first, second] (Feed.append { model := m, answers := [outputs] } g) :=
  fed_fed [second] g rfl

theorem bind_of_ok {x : Action M α} {g : α → Action M β} {s t : Session M} {a : α}
    (h : x s = .ok a t) : (x >>= g) s = g a t := by
  simp only [bind, EStateM.bind, h]

theorem bind_of_error {x : Action M α} {g : α → Action M β} {s t : Session M} {e : SessionError}
    (h : x s = .error e t) : (x >>= g) s = .error e t := by
  simp only [bind, EStateM.bind, h]

theorem place_self (s : Session M) : place s.phase s.pins s.cycles s = s := rfl

theorem setPins_bind (f : Pins → Pins) (x : Action M α) (phase : Phase) (pins : Pins)
    (cycles : Nat) (s : Session M) :
    (setPins f >>= fun _ => x) (place phase pins cycles s) = x (place phase (f pins) cycles s) :=
  rfl

variable [Processor M]

theorem evaluate_place_ok {s : Session M} {pins : Pins} {outputs : Outputs} {model : M}
    (phase : Phase) (cycles : Nat) (h : Processor.eval pins s.model = (.ok outputs, model)) :
    evaluate (place phase pins cycles s) =
      .ok () (place phase pins cycles (s.fed [pins] { model, answers := [outputs] })) := by
  rw [evaluate_of_ok (s := place phase pins cycles s) h]
  cases hs : s.sink <;> simp [evaluated, dumpSample, sample, fed, dumps, place, hs]

theorem evaluate_place_error {s : Session M} {pins : Pins} {cause : ModelError} {model : M}
    (phase : Phase) (cycles : Nat) (h : Processor.eval pins s.model = (.error cause, model)) :
    evaluate (place phase pins cycles s) =
      .error (.fatal phase s.time cause)
        (place .failed pins cycles (s.fed [pins] { model, failure := some cause })).release := by
  rw [evaluate_of_error (s := place phase pins cycles s) h]
  rfl

/-- What becomes of a session that is driven through the periods `ds`, and which then, if no
evaluation has failed, is left in a phase with some pins and gives a value. -/
def outcome (ds : List Period) (phase : Phase) (pins : Pins) (value : List Outputs → α)
    (s : Session M) : EStateM.Result SessionError (Session M) α :=
  let f := Feed.ofRows (edges ds) s.model
  let n := f.answers.length
  match f.failure with
  | none => .ok (value f.answers) (place phase pins (s.cycles + n / 2) (s.fed (edges ds) f))
  | some cause =>
    .error (.fatal (phaseAt ds n) (s.time + n) cause)
      (place .failed (pinsAt ds n) (s.cycles + n / 2) (s.fed (edges ds) f)).release

theorem outcome_of_none {ds : List Period} {phase : Phase} {pins : Pins}
    {value : List Outputs → α} {s : Session M} {f : Feed M}
    (hf : Feed.ofRows (edges ds) s.model = f) (h : f.failure = none) :
    outcome ds phase pins value s =
      .ok (value f.answers)
        (place phase pins (s.cycles + f.answers.length / 2) (s.fed (edges ds) f)) := by
  simp only [outcome, hf, h]

theorem outcome_of_some {ds : List Period} {phase : Phase} {pins : Pins}
    {value : List Outputs → α} {s : Session M} {f : Feed M} {cause : ModelError}
    (hf : Feed.ofRows (edges ds) s.model = f) (h : f.failure = some cause) :
    outcome ds phase pins value s =
      .error (.fatal (phaseAt ds f.answers.length) (s.time + f.answers.length) cause)
        (place .failed (pinsAt ds f.answers.length) (s.cycles + f.answers.length / 2)
          (s.fed (edges ds) f)).release := by
  simp only [outcome, hf, h]

theorem outcome_nil (phase : Phase) (pins : Pins) (value : List Outputs → α) (s : Session M) :
    outcome [] phase pins value s = .ok (value []) (place phase pins s.cycles s) := by
  have hf : Feed.ofRows (edges []) s.model = { model := s.model } := rfl
  rw [outcome_of_none hf rfl]
  simp [fed, dumps, place]

theorem outcome_place (ds : List Period) (phase phase' : Phase) (pins pins' : Pins)
    (value : List Outputs → α) (s : Session M) :
    outcome ds phase pins value (place phase' pins' s.cycles s) =
      outcome ds phase pins value s := rfl

theorem outcome_append {xs : List Period} {s : Session M} {f : Feed M} (ys : List Period)
    (phase phase' : Phase) (pins pins' : Pins) (value : List Outputs → α)
    (hf : Feed.ofRows (edges xs) s.model = f) (h : f.failure = none) :
    outcome ys phase' pins' (fun bs => value (f.answers ++ bs))
        (place phase pins (s.cycles + f.answers.length / 2) (s.fed (edges xs) f)) =
      outcome (xs ++ ys) phase' pins' value s := by
  have hlength : f.answers.length = (edges xs).length := by
    rw [← hf] at h ⊢
    exact Feed.length_answers h
  have heven : f.answers.length = 2 * xs.length := by rw [hlength, length_edges]
  obtain ⟨g, hg⟩ : ∃ g, Feed.ofRows (edges ys) f.model = g := ⟨_, rfl⟩
  have hall : Feed.ofRows (edges (xs ++ ys)) s.model = f.append g := by
    rw [← hf] at h
    rw [edges_append, Feed.ofRows_append (edges ys) h, hf, hg]
  have hcount : (f.append g).answers.length = f.answers.length + g.answers.length :=
    List.length_append
  have hcycles : s.cycles + f.answers.length / 2 + g.answers.length / 2 =
      s.cycles + (f.append g).answers.length / 2 := by omega
  have hfed := fed_fed (s := s) (edges ys) g hlength
  rw [← edges_append] at hfed
  cases hfail : g.failure with
  | none =>
    rw [outcome_of_none hall hfail, outcome_of_none hg hfail, fed_place, hfed, place_place,
      ← hcycles]
    rfl
  | some cause =>
    have htime : s.time + f.answers.length + g.answers.length =
        s.time + (f.append g).answers.length := by omega
    rw [outcome_of_some hall hfail, outcome_of_some hg hfail, fed_place, hfed, place_place,
      hcount, heven, phaseAt_append_right, pinsAt_append_right, ← heven, ← hcount, ← hcycles,
      ← htime]
    rfl

/-- One action after another drives a session through the periods of both. -/
theorem outcome_bind {x : Action M α} {g : α → Action M β} {s : Session M} {xs ys : List Period}
    {phase phase' : Phase} {pins pins' : Pins} {value : List Outputs → α}
    {value' : List Outputs → β} (hx : x s = outcome xs phase pins value s)
    (hg : ∀ (as : List Outputs) (t : Session M), as.length = 2 * xs.length → t.phase = phase →
      t.pins = pins → t.flags = s.flags → t.outputs = as.getLastD s.outputs →
      g (value as) t = outcome ys phase' pins' (fun bs => value' (as ++ bs)) t) :
    (x >>= g) s = outcome (xs ++ ys) phase' pins' value' s := by
  obtain ⟨f, hf⟩ : ∃ f, Feed.ofRows (edges xs) s.model = f := ⟨_, rfl⟩
  cases hfail : f.failure with
  | none =>
    rw [outcome_of_none hf hfail] at hx
    rw [bind_of_ok hx, ← outcome_append ys phase phase' pins pins' value' hf hfail]
    have hlength : f.answers.length = 2 * xs.length := by
      rw [← hf] at hfail ⊢
      rw [Feed.length_answers hfail, length_edges]
    exact hg _ _ hlength rfl rfl rfl rfl
  | some cause =>
    have hlt : f.answers.length < (edges xs).length := by
      rw [← hf] at hfail ⊢
      exact Feed.length_answers_lt hfail
    have hlt' : f.answers.length < 2 * xs.length := by rwa [length_edges] at hlt
    have hall : Feed.ofRows (edges (xs ++ ys)) s.model = f := by
      rw [← hf] at hfail
      rw [edges_append, Feed.ofRows_append_of_failure (edges ys) hfail, hf]
    rw [outcome_of_some hf hfail] at hx
    rw [bind_of_error hx, outcome_of_some hall hfail, phaseAt_append_left ys hlt',
      pinsAt_append_left ys hlt', edges_append, fed_append_left (edges ys) hlt]

theorem tick_def : (tick : Action M Unit) = (do
    setPins (Pins.level true)
    evaluate
    setPins (Pins.level false)
    evaluate
    modify fun s => place s.phase s.pins (s.cycles + 1) s) := rfl

section Tick

variable {s : Session M} {m m' : M} {outputs outputs' : Outputs} {cause : ModelError}

theorem tick_of_error_high (hr : Processor.eval (s.pins.level true) s.model = (.error cause, m)) :
    tick s = .error (.fatal s.phase s.time cause)
      (place .failed (s.pins.level true) s.cycles
        (s.fed [s.pins.level true] { model := m, failure := some cause })).release := by
  conv => lhs; rw [← place_self s, tick_def, setPins_bind]
  exact bind_of_error (evaluate_place_error s.phase s.cycles hr)

theorem tick_of_ok_high (hr : Processor.eval (s.pins.level true) s.model = (.ok outputs, m)) :
    tick s = (do evaluate; modify fun s => place s.phase s.pins (s.cycles + 1) s)
      (place s.phase (s.pins.level false) s.cycles
        (s.fed [s.pins.level true] { model := m, answers := [outputs] })) := by
  conv => lhs; rw [← place_self s, tick_def, setPins_bind]
  rw [bind_of_ok (evaluate_place_ok s.phase s.cycles hr), setPins_bind, Pins.level_level]

theorem tick_of_error_low (hr : Processor.eval (s.pins.level true) s.model = (.ok outputs, m))
    (hl : Processor.eval (s.pins.level false) m = (.error cause, m')) :
    tick s = .error (.fatal s.phase (s.time + 1) cause)
      (place .failed (s.pins.level false) s.cycles
        (s.fed [s.pins.level true, s.pins.level false]
          { model := m', answers := [outputs], failure := some cause })).release := by
  rw [tick_of_ok_high hr, bind_of_error (evaluate_place_error s.phase s.cycles hl), fed_pair]
  rfl

theorem tick_of_ok (hr : Processor.eval (s.pins.level true) s.model = (.ok outputs, m))
    (hl : Processor.eval (s.pins.level false) m = (.ok outputs', m')) :
    tick s = .ok () (place s.phase (s.pins.level false) (s.cycles + 1)
      (s.fed [s.pins.level true, s.pins.level false]
        { model := m', answers := [outputs, outputs'] })) := by
  rw [tick_of_ok_high hr, bind_of_ok (evaluate_place_ok s.phase s.cycles hl), fed_pair]
  rfl

end Tick

/-- A clock period drives a session through itself. -/
theorem tick_eq (s : Session M) :
    tick s = outcome [⟨s.phase, s.pins⟩] s.phase (s.pins.level false) (fun _ => ()) s := by
  have hedges : edges [⟨s.phase, s.pins⟩] = [s.pins.level true, s.pins.level false] := rfl
  cases hr : Processor.eval (s.pins.level true) s.model with
  | mk answer m =>
    cases answer with
    | error cause =>
      have hfeed := Feed.ofRows_of_error [s.pins.level false] hr
      rw [← hedges] at hfeed
      rw [tick_of_error_high hr, outcome_of_some hfeed rfl]
      simp [phaseAt, pinsAt, hedges, fed, dumps]
    | ok outputs =>
      have hfeed := Feed.ofRows_of_ok [s.pins.level false] hr
      rw [← hedges] at hfeed
      cases hl : Processor.eval (s.pins.level false) m with
      | mk answer' m' =>
        cases answer' with
        | error cause =>
          rw [Feed.ofRows_of_error [] hl] at hfeed
          rw [tick_of_error_low hr hl, outcome_of_some hfeed rfl]
          simp [phaseAt, pinsAt, hedges, Feed.append]
        | ok outputs' =>
          rw [Feed.ofRows_of_ok [] hl] at hfeed
          rw [tick_of_ok hr hl, outcome_of_none hfeed rfl]
          simp [hedges, Feed.append, Feed.ofRows]

end Session

end ByteBench
