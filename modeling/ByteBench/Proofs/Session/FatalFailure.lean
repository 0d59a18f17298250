import ByteBench.Proofs.Session.Opened
import ByteBench.Proofs.Session.PhaseOrder

/-!
# A model that fails during a session

Whichever evaluation fails, what a session has done up to it stays as it is, and nothing is done
after it. Main statements: `phaseAt_plan`, the phase that the edge number `k` of the clock falls in,
and `execute_fatal`, what is left of the session.
-/

namespace ByteBench

/-- The phase in which a session is at the edge number `k` of the clock. -/
def phaseOfEdge (p : Program) (flags : SessionFlags) (k : Nat) : Phase :=
  if k < 2 then .reset
  else if k < 2 + 2 * p.size then .load
  else if k < 2 + 2 * p.size + 2 * flags.runCycles.toNat then .run
  else .readback

theorem phaseAt_of_forall {ds : List Period} {phase : Phase} {k : Nat}
    (h : ∀ d ∈ ds, d.phase = phase) (hk : k < 2 * ds.length) : phaseAt ds k = phase := by
  have hlt : k / 2 < ds.length := by omega
  rw [phaseAt, List.getElem?_eq_getElem hlt]
  exact h _ (List.getElem_mem hlt)

theorem phaseAt_append {xs : List Period} {phase : Phase} (ys : List Period) (k : Nat)
    (h : ∀ d ∈ xs, d.phase = phase) :
    phaseAt (xs ++ ys) k =
      if k < 2 * xs.length then phase else phaseAt ys (k - 2 * xs.length) := by
  split
  · next hlt => rw [phaseAt_append_left ys hlt, phaseAt_of_forall h hlt]
  · next hge =>
    have hk : k = 2 * xs.length + (k - 2 * xs.length) := by omega
    conv => lhs; rw [hk, phaseAt_append_right]

theorem getLast?_take_edges {ds : List Period} {k : Nat} (h : k < (edges ds).length) :
    ((edges ds).take (k + 1)).getLast? = some (pinsAt ds k) := by
  rw [List.getLast?_take, if_neg (Nat.succ_ne_zero k), Nat.add_sub_cancel, pinsAt,
    List.getElem?_eq_getElem h]
  rfl

theorem phaseAt_plan {p : Program} {flags : SessionFlags} {k : Nat}
    (hk : k < 2 * (plan p flags).length) :
    phaseAt (plan p flags) k = phaseOfEdge p flags k := by
  have hreset : ∀ d ∈ [Period.mk .reset Pins.resetting], d.phase = .reset := by
    intro d hd
    rw [List.mem_singleton.mp hd]
  have hload : ∀ d ∈ p.words.mapIdx fun i word => Period.mk .load (Pins.loading i word),
      d.phase = .load := by
    intro d hd
    obtain ⟨i, -, rfl⟩ := List.mem_mapIdx.mp hd
    rfl
  have hrun : ∀ d ∈ List.replicate flags.runCycles.toNat (Period.mk .run (Pins.running p.words)),
      d.phase = .run := by
    intro d hd
    rw [List.eq_of_mem_replicate hd]
  have hread : ∀ d ∈ (List.range flags.readbackCycles.toNat).map fun i =>
      Period.mk .readback (Pins.reading p.words i), d.phase = .readback := by
    intro d hd
    obtain ⟨i, -, rfl⟩ := List.mem_map.mp hd
    rfl
  rw [plan, schedule] at hk ⊢
  rw [phaseAt_append _ k hreset, phaseAt_append _ _ hload, phaseAt_append _ _ hrun, phaseOfEdge]
  simp only [List.length_append, List.length_singleton, List.length_mapIdx, List.length_replicate,
    List.length_map, List.length_range, Program.length_words] at hk ⊢
  by_cases h₁ : k < 2
  · rw [if_pos h₁, if_pos h₁]
  have h₁' : ¬ k < 2 * 1 := h₁
  rw [if_neg h₁, if_neg h₁']
  by_cases h₂ : k < 2 + 2 * p.size
  · rw [if_pos h₂, if_pos (by omega)]
  rw [if_neg h₂, if_neg (by omega)]
  by_cases h₃ : k < 2 + 2 * p.size + 2 * flags.runCycles.toNat
  · rw [if_pos h₃, if_pos (by omega)]
  rw [if_neg h₃, if_neg (by omega)]
  apply phaseAt_of_forall hread
  rw [List.length_map, List.length_range]
  omega

theorem Request.isOver_of_required? {r : Request} {phase : Phase} (h : r.required? = some phase) :
    phase.isOver = false := by
  obtain ⟨p, -, rfl⟩ | ⟨stage, -, rfl⟩ := Request.required?_eq_some_iff.mp h
  · rfl
  · exact stage.isOver_required

namespace Session

variable {M : Type} [Processor M]

/-- What is left of a session, which had the given sink, once its model has failed, after it had
given the answers of `f`. The pins of the evaluation that failed are offered, but they are no part
of any sample. -/
structure Fallen (model : M) (sink : Option SinkId) (f : Feed M) (s : Session M) : Prop where
  phase_eq : s.phase = .failed
  time_eq : s.time = f.answers.length
  cycles_eq : s.cycles = f.answers.length / 2
  outputs_eq : s.outputs = f.answers.getLastD {}
  length_offered : s.offered.length = f.answers.length + 1
  pins_eq : s.offered.getLast? = some s.pins
  posts_eq : s.posts.reverse = closing sink (samplesOf s.offered f.answers)
  length_samples : (samplesOf s.offered f.answers).length = f.answers.length
  model_eq : s.model = Processor.close f.model
  closed : HasClosed model s
  refused : ∀ (rs : List Request) (r : Request) (required : Phase), r.required? = some required →
    ((s.afterAll rs).answer r).1 = .error (.phaseOrder required .failed)

theorem answer_execute_of_some {model : M} {flags : SessionFlags} {sink : Option SinkId}
    {p : Program} {f : Feed M} {cause : ModelError} (hsize : p.size ≤ programSpace)
    (hf : Feed.ofRows (edges (plan p flags)) model = f) (hfail : f.failure = some cause) :
    (opened model flags sink).answer (.execute p) =
      (.error (.fatal (phaseAt (plan p flags) f.answers.length) f.answers.length cause),
        (place .failed (pinsAt (plan p flags) f.answers.length) (f.answers.length / 2)
          (fed (edges (plan p flags)) f { model, flags, sink })).release) := by
  have hrun := execute_of_some (s := { model, flags, sink }) hsize rfl rfl hf hfail
  simp only [Nat.zero_add] at hrun
  rw [opened_eq, answer_execute_of_error hrun]

omit [Processor M] in
theorem reverse_posts_fed (model : M) (flags : SessionFlags) (sink : Option SinkId)
    {rows : List Pins} {f : Feed M} (h : f.answers.length < rows.length) :
    (fed rows f { model, flags, sink }).posts.reverse =
      sink.elim [] fun id =>
        (samplesOf (rows.take (f.answers.length + 1)) f.answers).map (.dump id) := by
  have htake : f.answers.length ≤ (rows.take (f.answers.length + 1)).length := by
    rw [List.length_take]
    omega
  have hdumps := dumps_append_left (s := ({ model, flags, sink } : Session M))
    (rows.drop (f.answers.length + 1)) htake
  rw [List.take_append_drop, dumps_eq rfl (rows.take _)] at hdumps
  show ((({ model, flags, sink } : Session M).dumps rows f.answers).reverse ++ []).reverse = _
  rw [List.append_nil, List.reverse_reverse, hdumps]

theorem fallen {model : M} {flags : SessionFlags} {sink : Option SinkId} {p : Program}
    {f : Feed M} {cause : ModelError} (hsize : p.size ≤ programSpace)
    (hf : Feed.ofRows (edges (plan p flags)) model = f) (hfail : f.failure = some cause) :
    Fallen model sink f ((opened model flags sink).after (.execute p)) := by
  have hlt : f.answers.length < (edges (plan p flags)).length := by
    rw [← hf] at hfail ⊢
    exact Feed.length_answers_lt hfail
  have hafter : (opened model flags sink).after (.execute p) = _ :=
    congrArg Prod.snd (answer_execute_of_some hsize hf hfail)
  have hphase : ((opened model flags sink).after (.execute p)).phase = .failed := by
    rw [hafter, release_phase]
    rfl
  have hover : ((opened model flags sink).after (.execute p)).phase.isOver = true := by
    rw [hphase]
    rfl
  have hoffered : ((opened model flags sink).after (.execute p)).offered =
      (edges (plan p flags)).take (f.answers.length + 1) := by
    rw [hafter, offered_release, offered_place, offered_fed]
    rfl
  have hlength : ((edges (plan p flags)).take (f.answers.length + 1)).length =
      f.answers.length + 1 := by
    rw [List.length_take]
    omega
  have hclosed := hasClosed_of_isOver [.execute p] hover
  have hrests := fun rs => rests_afterAll rs hover
  refine ⟨hphase, ?_, ?_, ?_, ?_, ?_, ?_, ?_, ?_, hclosed, ?_⟩
  · rw [hafter, release_of_isOpen rfl]
    exact Nat.zero_add _
  · rw [hafter, release_of_isOpen rfl]
    rfl
  · rw [hafter, release_of_isOpen rfl]
    rfl
  · rw [hoffered, hlength]
  · rw [hoffered, getLast?_take_edges hlt, hafter, release_of_isOpen rfl]
    rfl
  · have hposts := reverse_posts_fed model flags sink hlt
    rw [hoffered, hafter, release_of_isOpen rfl, List.reverse_append]
    show (fed _ f _).posts.reverse ++ (sink.map Post.close).toList.reverse = _
    rw [hposts]
    cases sink <;> rfl
  · rw [hoffered, samplesOf, List.length_mapIdx, List.length_zip, hlength]
    omega
  · rw [hafter, release_of_isOpen rfl]
    rfl
  · intro rs r required hr
    rw [answer_phaseOrder_iff, (hrests rs).phase_eq, hphase]
    refine ⟨hr, ?_, rfl⟩
    rintro rfl
    cases Request.isOver_of_required? hr

/-- If the model fails at the evaluation number `k` that it is asked for, then a session ends there:
it says in which phase and why, and it has done all that belongs to the evaluations before this one,
and nothing that belongs to it. -/
theorem execute_fatal (model : M) (flags : SessionFlags) (sink : Option SinkId) {p : Program}
    (hsize : p.size ≤ programSpace) {f : Feed M} {cause : ModelError}
    (hf : Feed.ofRows ((opened model flags sink).after (.execute p)).offered model = f)
    (hfail : f.failure = some cause) :
    ((opened model flags sink).answer (.execute p)).1 =
        .error (.fatal (phaseOfEdge p flags f.answers.length) f.answers.length cause) ∧
      Fallen model sink f ((opened model flags sink).after (.execute p)) := by
  have hoffered : ((opened model flags sink).after (.execute p)).offered =
      (edges (plan p flags)).take
        ((Feed.ofRows (edges (plan p flags)) model).answers.length + 1) := by
    rw [opened_eq, offered_after hsize rfl rfl rfl]
    rfl
  -- the rows that were offered are all that matter to the feed with the schedule
  rw [hoffered, Feed.ofRows_take] at hf
  refine ⟨?_, fallen hsize hf hfail⟩
  rw [answer_execute_of_some hsize hf hfail, phaseAt_plan]
  rw [← length_edges, ← hf]
  rw [← hf] at hfail
  exact Feed.length_answers_lt hfail

/-- A model that fails at the first edge of the clock at which a word is to be loaded. -/
theorem execute_fatal_load :
    (Program.ofWords [0x2a, 0x15]).size ≤ programSpace ∧
      (Feed.ofRows ((opened ({ faultAt := some 2 } : Script) {} (some 0)).after
        (.execute (Program.ofWords [0x2a, 0x15]))).offered
          ({ faultAt := some 2 } : Script)).failure = some .exhausted ∧
      ((opened ({ faultAt := some 2 } : Script) {} (some 0)).answer
        (.execute (Program.ofWords [0x2a, 0x15]))).1 = .error (.fatal .load 2 .exhausted) :=
  ⟨by decide, rfl,
    (execute_fatal ({ faultAt := some 2 } : Script) {} (some 0) (by decide) rfl rfl).1⟩

end Session

end ByteBench
