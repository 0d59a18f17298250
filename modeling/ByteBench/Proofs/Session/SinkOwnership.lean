import ByteBench.Machine.Script
import ByteBench.Proofs.Session.Transition

/-!
# A session owns its sinks

Main statement: `received_release`, a sink that was attached is told samples, and after them that it
is closed. Only one that another sink takes the place of is let go of instead, and is never closed.
-/

namespace ByteBench

def Post.sink : Post → SinkId
  | dump sink _ => sink
  | close sink => sink
  | discard sink => sink

def Request.attached? : Request → Option SinkId
  | attach sink => some sink
  | _ => none

theorem Request.eq_attach {r : Request} {id : SinkId} (h : r.attached? = some id) :
    r = attach id := by
  cases r with
  | attach =>
    cases h
    rfl
  | _ => cases h

theorem Request.attached?_of_mem_parts {r r' : Request} (h : r' ∈ r.parts)
    (hr : r.attached? = none) : r'.attached? = none := by
  cases r with
  | execute p =>
    simp only [parts, List.mem_cons, List.not_mem_nil, or_false] at h
    rcases h with rfl | rfl | rfl | rfl <;> rfl
  | _ =>
    rw [List.mem_singleton.mp h]
    exact hr

def attached (rs : List Request) : List SinkId := rs.filterMap Request.attached?

theorem not_mem_attached_cons {id : SinkId} {r : Request} {rs : List Request} :
    id ∉ attached (r :: rs) ↔ r.attached? ≠ some id ∧ id ∉ attached rs := by
  cases h : r.attached? <;> simp [attached, h, eq_comm]

theorem attached_split {id : SinkId} {rs : List Request} (hdistinct : (attached rs).Nodup)
    (hid : id ∈ attached rs) : ∃ before later, rs = before ++ .attach id :: later ∧
      id ∉ attached before ∧ id ∉ attached later := by
  obtain ⟨r, hr, hattached⟩ := List.mem_filterMap.mp hid
  obtain ⟨before, later, rfl⟩ := List.append_of_mem hr
  rw [Request.eq_attach hattached] at hdistinct ⊢
  have hids : attached (before ++ .attach id :: later) =
      attached before ++ id :: attached later := by
    simp [attached, Request.attached?]
  rw [hids, List.nodup_append, List.nodup_cons] at hdistinct
  obtain ⟨-, ⟨hlater, -⟩, hbefore⟩ := hdistinct
  refine ⟨before, later, rfl, ?_, hlater⟩
  intro h
  exact hbefore id h id List.mem_cons_self rfl

namespace Session

variable {M : Type} {id other : SinkId} {s t u : Session M}

/-- What a sink was told, the oldest first. -/
def received (id : SinkId) (s : Session M) : List Post := s.posts.reverse.filter (·.sink = id)

theorem received_of_posts {post : SinkId → Post} (hpost : ∀ id, (post id).sink = id)
    (h : t.posts = (s.sink.map post).toList ++ s.posts) :
    t.received id = s.received id ++ if s.sink = some id then [post id] else [] := by
  rw [received, h, List.reverse_append, List.filter_append]
  cases hsink : s.sink with
  | none => simp [received]
  | some other =>
    by_cases hid : other = id
    · simp [received, hpost, hid]
    · simp [received, hpost, hid]

theorem evaluated_received (outputs : Outputs) (s : Session M) :
    (evaluated outputs s).received id =
      s.received id ++
        if s.sink = some id then [.dump id ⟨s.time, s.pins, outputs⟩] else [] := by
  have hposts : (evaluated outputs s).posts =
      (s.sink.map fun id => Post.dump id ⟨s.time, s.pins, outputs⟩).toList ++ s.posts := by
    rw [evaluated_eq]
  exact received_of_posts (fun _ => rfl) hposts

theorem attach_received (s : Session M) :
    (s.attach other).received id =
      s.received id ++ if s.sink = some id then [.discard id] else [] := by
  have hposts : (s.attach other).posts = (s.sink.map Post.discard).toList ++ s.posts := by
    rw [attach_eq]
  exact received_of_posts (fun _ => rfl) hposts

@[simp] theorem attach_sink (s : Session M) : (s.attach other).sink = some other := by
  rw [attach_eq]

/-- What the sinks are told while none is attached: the one that the session has gets samples, and
it is closed if the session ends. -/
inductive Tells (s t : Session M) : Prop
  | keeps (samples : List Sample) (hsink : t.sink = s.sink)
      (h : ∀ id, t.received id =
        s.received id ++ if s.sink = some id then samples.map (.dump id) else [])
  | closes (samples : List Sample) (hsink : t.sink = none)
      (h : ∀ id, t.received id =
        s.received id ++ if s.sink = some id then samples.map (.dump id) ++ [.close id] else [])

theorem Tells.of_eq (hsink : t.sink = s.sink) (hposts : t.posts = s.posts) : Tells s t := by
  refine .keeps [] hsink ?_
  intro id
  simp [received, hposts]

theorem Tells.trans (hst : Tells s t) (htu : Tells t u) : Tells s u := by
  cases hst with
  | keeps samples hsink h =>
    cases htu with
    | keeps samples' hsink' h' =>
      refine .keeps (samples ++ samples') (hsink'.trans hsink) ?_
      intro id
      rw [h', h, hsink]
      split <;> simp
    | closes samples' hsink' h' =>
      refine .closes (samples ++ samples') hsink' ?_
      intro id
      rw [h', h, hsink]
      split <;> simp
  | closes samples hsink h =>
    -- nobody is left to be told anything
    have hu : u.sink = none ∧ ∀ id, u.received id = t.received id := by
      cases htu with
      | keeps _ hsink' h' => simp [h', hsink', hsink]
      | closes _ hsink' h' => simp [h', hsink', hsink]
    refine .closes samples hu.1 ?_
    intro id
    rw [hu.2, h]

theorem Tells.congr_left (h : Tells t u) (hsink : t.sink = s.sink) (hposts : t.posts = s.posts) :
    Tells s u := (Tells.of_eq hsink hposts).trans h

/-- The session does not have a sink, and has told it what is given. -/
structure Without (id : SinkId) (told : List Post) (s : Session M) : Prop where
  sink_ne : s.sink ≠ some id
  received_eq : s.received id = told

theorem Without.tells {told : List Post} (h : Without id told s) (hst : Tells s t) :
    Without id told t := by
  have hsink := h.sink_ne
  cases hst with
  | keeps _ hkept ht => exact ⟨hkept ▸ hsink, by simp [ht, hsink, h.received_eq]⟩
  | closes _ hnone ht => exact ⟨by simp [hnone], by simp [ht, hsink, h.received_eq]⟩

theorem Without.attach {told : List Post} (h : Without id told s) (hother : other ≠ id) :
    Without id told (s.attach other) :=
  ⟨by simpa using hother, by simp [attach_received, h.sink_ne, h.received_eq]⟩

/-- The session has a sink, and has told it nothing but samples. -/
structure Feeding (id : SinkId) (s : Session M) : Prop where
  sink_eq : s.sink = some id
  received_eq : ∃ samples : List Sample, s.received id = samples.map (.dump id)

theorem Feeding.tells (h : Feeding id s) (hst : Tells s t) :
    Feeding id t ∨
      ∃ samples : List Sample, Without id (samples.map (.dump id) ++ [.close id]) t := by
  obtain ⟨hsink, earlier, hearlier⟩ := h
  cases hst with
  | keeps samples hkept ht =>
    refine Or.inl ⟨hkept.trans hsink, earlier ++ samples, ?_⟩
    simp [ht, hsink, hearlier]
  | closes samples hnone ht =>
    refine Or.inr ⟨earlier ++ samples, by simp [hnone], ?_⟩
    simp [ht, hsink, hearlier]

theorem Feeding.attach (h : Feeding id s) (hother : other ≠ id) :
    ∃ samples : List Sample,
      Without id (samples.map (.dump id) ++ [.discard id]) (s.attach other) := by
  obtain ⟨hsink, samples, hsamples⟩ := h
  refine ⟨samples, by simpa using hother, ?_⟩
  simp [attach_received, hsink, hsamples]

variable [Processor M]

theorem release_received (s : Session M) :
    s.release.received id = s.received id ++ if s.sink = some id then [.close id] else [] := by
  have hposts : s.release.posts = (s.sink.map Post.close).toList ++ s.posts := by
    rw [release, releaseSink_eq, releaseModel]
    split <;> rfl
  exact received_of_posts (fun _ => rfl) hposts

theorem tells_release (s : Session M) : Tells s s.release := by
  refine .closes [] s.release_sink ?_
  intro id
  exact release_received s

theorem Move.tells (h : Move s t) : Tells s t := by
  cases h with
  | place | ask => exact .of_eq rfl rfl
  | @evaluate outputs =>
    refine .keeps [⟨s.time, s.pins, outputs⟩] (by rw [evaluated_eq]) ?_
    intro id
    exact evaluated_received outputs _

theorem Moves.tells (h : Moves s t) : Tells s t :=
  h.keeps (P := Tells s) (.of_eq rfl rfl) fun hmove hs => hs.trans hmove.tells

theorem Fails.tells {e : SessionError} (h : Fails s e t) : Tells s t := by
  cases h with
  | fatal | noFinish => exact Tells.congr_left (tells_release _) rfl rfl

theorem Transition.tells {r : Request} {a : Except SessionError Reply} (h : Transition s r a t)
    (hr : r.attached? = none) : Tells s t := by
  cases h with
  | refused | tooLarge | setFlags => exact .of_eq rfl rfl
  | advanced _ _ _ ht => exact ht.tells.congr_left rfl rfl
  | @completed _ _ u _ _ _ hu =>
    have hrelease : Tells u { u with phase := .done }.release :=
      (tells_release _).congr_left rfl rfl
    exact (hu.tells.trans hrelease).congr_left rfl rfl
  | failed _ hu ht => exact (hu.tells.trans ht.tells).congr_left rfl rfl
  | attach => cases hr

theorem tells_after {r : Request} (s : Session M) (hr : r.attached? = none) :
    Tells s (s.after r) := by
  apply after_of_transition (P := Tells s) (.of_eq rfl rfl)
  intro r' hr' t a u htu ht
  exact ht.trans (htu.tells (Request.attached?_of_mem_parts hr' hr))

/-- A sink that the session does not have is told nothing until it is attached. -/
theorem Without.after {told : List Post} {r : Request} (h : Without id told s)
    (hr : r.attached? ≠ some id) : Without id told (s.after r) := by
  cases hattached : r.attached? with
  | none => exact h.tells (tells_after s hattached)
  | some other =>
    rw [Request.eq_attach hattached]
    refine h.attach ?_
    rintro rfl
    exact hr hattached

theorem Without.afterAll {told : List Post} {rs : List Request} (h : Without id told s)
    (hrs : id ∉ attached rs) : Without id told (s.afterAll rs) := by
  induction rs generalizing s with
  | nil => exact h
  | cons r rs ih =>
    obtain ⟨hr, hrest⟩ := not_mem_attached_cons.mp hrs
    exact ih (h.after hr) hrest

theorem Without.release {told : List Post} (h : Without id told s) :
    s.release.received id = told := (h.tells (tells_release s)).received_eq

/-- Whether another sink is attached while the session has this one. -/
def replaced (id : SinkId) : Session M → List Request → Bool
  | _, [] => false
  | s, r :: rs => (r.attached?.isSome && s.sink = some id) || replaced id (s.after r) rs

theorem replaced_append (id : SinkId) (s : Session M) (rs rs' : List Request) :
    replaced id s (rs ++ rs') = (replaced id s rs || replaced id (s.afterAll rs) rs') := by
  induction rs generalizing s with
  | nil => rfl
  | cons r rs ih =>
    rw [List.cons_append, replaced, ih, replaced, Bool.or_assoc]
    rfl

theorem Without.replaced_eq {told : List Post} {rs : List Request} (h : Without id told s)
    (hrs : id ∉ attached rs) : replaced id s rs = false := by
  induction rs generalizing s with
  | nil => rfl
  | cons r rs ih =>
    obtain ⟨hr, hrest⟩ := not_mem_attached_cons.mp hrs
    simp [replaced, h.sink_ne, ih (h.after hr) hrest]

theorem Feeding.release {rs : List Request} (h : Feeding id s) (hrs : id ∉ attached rs) :
    ∃ samples : List Sample, (s.afterAll rs).release.received id =
      samples.map (.dump id) ++ [if replaced id s rs then .discard id else .close id] := by
  induction rs generalizing s with
  | nil =>
    obtain ⟨hsink, samples, hsamples⟩ := h
    refine ⟨samples, ?_⟩
    simp [afterAll, replaced, release_received, hsink, hsamples]
  | cons r rs ih =>
    obtain ⟨hr, hrest⟩ := not_mem_attached_cons.mp hrs
    have hcons : s.afterAll (r :: rs) = (s.after r).afterAll rs := rfl
    cases hattached : r.attached? with
    | none =>
      have hreplaced : replaced id s (r :: rs) = replaced id (s.after r) rs := by
        simp [replaced, hattached]
      rw [hcons, hreplaced]
      rcases h.tells (tells_after s hattached) with hfeeding | ⟨samples, hclosed⟩
      · exact ih hfeeding hrest
      · refine ⟨samples, ?_⟩
        rw [hclosed.replaced_eq hrest]
        exact (hclosed.afterAll hrest).release
    | some other =>
      have hreplaced : replaced id s (r :: rs) = true := by
        simp [replaced, hattached, h.sink_eq]
      have hother : other ≠ id := by
        rintro rfl
        exact hr hattached
      obtain ⟨samples, hdiscarded⟩ := h.attach hother
      rw [hcons, hreplaced, Request.eq_attach hattached]
      exact ⟨samples, (hdiscarded.afterAll hrest).release⟩

/-- Where each sink is attached once, a sink is told samples and then, when the session is given up
at the latest, one last thing: that it is closed, or, if another sink was attached while the session
still had it, that it is let go of. -/
theorem received_release (model : M) (flags : SessionFlags) {rs : List Request}
    (hdistinct : (attached rs).Nodup) {id : SinkId} (hid : id ∈ attached rs) :
    ∃ samples : List Sample, ((new model flags).afterAll rs).release.received id =
      samples.map (.dump id) ++
        [if replaced id (new model flags) rs then .discard id else .close id] := by
  obtain ⟨before, later, rfl, hbefore, hlater⟩ := attached_split hdistinct hid
  have hnew : Without id [] (new model flags) := ⟨nofun, rfl⟩
  have hfresh := hnew.afterAll hbefore
  have hfeeding : Feeding id (((new model flags).afterAll before).attach id) := by
    refine ⟨attach_sink _, [], ?_⟩
    simp [attach_received, hfresh.sink_ne, hfresh.received_eq]
  have hreplaced : replaced id (new model flags) (before ++ .attach id :: later) =
      replaced id (((new model flags).afterAll before).attach id) later := by
    rw [replaced_append, hnew.replaced_eq hbefore, replaced, decide_eq_false hfresh.sink_ne,
      Bool.and_false, Bool.false_or, Bool.false_or]
    rfl
  rw [hreplaced, afterAll_append]
  exact hfeeding.release hlater

/-- A sink that is closed, since its session is complete, before the next one comes. -/
theorem received_release_finished :
    (attached [.attach 0, .runUntilFinish, .attach 1]).Nodup ∧
      0 ∈ attached [.attach 0, .runUntilFinish, .attach 1] ∧
      ∃ samples : List Sample,
        ((new ({ finishAt := some 1 } : Script) { finishLimit := 2 }).afterAll
          [.attach 0, .runUntilFinish, .attach 1]).release.received 0 =
            samples.map (.dump 0) ++ [.close 0] :=
  ⟨by decide, by decide,
    received_release ({ finishAt := some 1 } : Script) { finishLimit := 2 } (by decide)
      (by decide)⟩

/-- A sink that another one takes the place of is never closed. -/
theorem replaced_not_closed :
    0 ∈ attached [.attach 0, .attach 1] ∧
      .close 0 ∉ ((new ({} : Script) {}).afterAll [.attach 0, .attach 1]).release.posts := by
  decide

end Session

end ByteBench
