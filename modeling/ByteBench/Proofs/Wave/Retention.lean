import ByteBench.Wave.Buffer

/-!
# What a buffer keeps

Samples come to a buffer through its handles, of which any can be closed or copied, while somebody
else takes guards on the buffer and gives them back, in any order. Main statements: `isOpen_after`
and `guards_after`, which handles are open and which guards are held can be told from the events
alone, and `retains_after`, what the buffer holds after any events.
-/

namespace ByteBench.Buffer

inductive Event
  | dump (handle : Nat) (s : Sample)
  | close (handle : Nat)
  | connect
  | copy (handle : Nat)
  | hold (g : Guard)
  | release

def step (b : Buffer) : Event → Buffer
  | .dump handle s => b.dump handle s
  | .close handle => b.close handle
  | .connect => b.connect
  | .copy handle => b.copy handle
  | .hold g => b.hold g
  | .release => b.release

/-- What some events lead to. The newest event is the first. -/
def after (past : List Event) (b : Buffer) : Buffer := past.foldr (fun e b => b.step e) b

/-- A handle that never was made is not open. -/
def isOpen (b : Buffer) (handle : Nat) : Bool := b.handles.getD handle false

/-- The number of handles; this is the number of the next handle, too. -/
def made (start : Buffer) : List Event → Nat
  | [] => start.handles.size
  | .connect :: past | .copy _ :: past => made start past + 1
  | .dump _ _ :: past | .close _ :: past | .hold _ :: past | .release :: past => made start past

/-- Whether a handle has been made and not been closed, and neither had been the one it was copied
from when it was copied. -/
def staysOpen (start : Buffer) : List Event → Nat → Bool
  | [], handle => start.isOpen handle
  | .close closed :: past, handle => handle != closed && staysOpen start past handle
  | .connect :: past, handle => handle == made start past || staysOpen start past handle
  | .copy original :: past, handle =>
    if handle = made start past then staysOpen start past original
    else staysOpen start past handle
  | .dump _ _ :: past, handle | .hold _ :: past, handle | .release :: past, handle =>
    staysOpen start past handle

/-- Whether a guard can be had besides others: all of them read, or one writes. -/
def Joins (held : List Guard) : Guard → Prop
  | .reading => .writing ∉ held
  | .writing => held = []

instance (held : List Guard) : (g : Guard) → Decidable (Joins held g)
  | .reading => inferInstanceAs (Decidable (.writing ∉ held))
  | .writing => inferInstanceAs (Decidable (held = []))

/-- The guards that are held, the newest first. -/
def held (start : List Guard) : List Event → List Guard
  | [] => start
  | .hold g :: past => if Joins (held start past) g then g :: held start past else held start past
  | .release :: past => (held start past).tail
  | .dump _ _ :: past | .close _ :: past | .connect :: past | .copy _ :: past => held start past

/-- The samples that came through an open handle when no guard was held, the oldest first. -/
def accepted (start : Buffer) : List Event → List Sample
  | [] => []
  | .dump handle s :: past =>
    accepted start past ++
      if staysOpen start past handle = true ∧ held start.guards past = [] then [s] else []
  | .close _ :: past | .connect :: past | .copy _ :: past | .hold _ :: past | .release :: past =>
    accepted start past

/-- A guard to write is held alone. All guards that are held together are then of one kind, and it
makes no difference which of them is given back. -/
def Exclusive (held : List Guard) : Prop := .writing ∈ held → held = [.writing]

/-- What holds of a buffer that the events `past` have made of `start`. -/
structure Retains (start : Buffer) (past : List Event) (b : Buffer) : Prop where
  samples_eq : b.samples.toList = start.samples.toList ++ accepted start past
  isOpen_eq : ∀ handle, b.isOpen handle = staysOpen start past handle
  guards_eq : b.guards = held start.guards past
  exclusive : Exclusive start.guards → Exclusive b.guards
  dump_refused : ∀ handle, ¬ (staysOpen start past handle = true ∧ held start.guards past = []) →
    ∀ s, b.dump handle s = b
  closed_forever : ∀ handle < b.handles.size, b.isOpen handle = false →
    ∀ later, (b.after later).isOpen handle = false
  close_again : ∀ handle, (b.close handle).close handle = b.close handle
  close_other : ∀ handle other, other ≠ handle → (b.close handle).isOpen other = b.isOpen other
  copy_isOpen : ∀ handle, (b.copy handle).isOpen b.handles.size = b.isOpen handle

variable {start b : Buffer} {e : Event} {past : List Event} {handle other : Nat} {s : Sample}
  {g : Guard} {gs : List Guard}

theorem isOpen_close (handle other : Nat) (b : Buffer) :
    (b.close handle).isOpen other = (other != handle && b.isOpen other) := by
  simp only [isOpen, close, Array.getD_eq_getD_getElem?, Array.getElem?_setIfInBounds]
  by_cases h : handle = other
  · subst h
    by_cases hsize : handle < b.handles.size <;> simp [hsize]
  · simp [h, Ne.symm h]

theorem getD_push (handles : Array Bool) (opened : Bool) (handle : Nat) :
    (handles.push opened).getD handle false =
      if handle = handles.size then opened else handles.getD handle false := by
  simp only [Array.getD_eq_getD_getElem?, Array.getElem?_push]
  by_cases h : handle = handles.size <;> simp [h]

theorem isOpen_connect (handle : Nat) (b : Buffer) :
    b.connect.isOpen handle = (handle == b.handles.size || b.isOpen handle) := by
  rw [isOpen, connect, getD_push, isOpen]
  by_cases h : handle = b.handles.size <;> simp [h]

theorem isOpen_copy (original handle : Nat) (b : Buffer) :
    (b.copy original).isOpen handle =
      if handle = b.handles.size then b.isOpen original else b.isOpen handle := getD_push _ _ _

theorem handles_hold (g : Guard) (b : Buffer) : (b.hold g).handles = b.handles := by
  unfold hold
  split <;> rfl

theorem samples_hold (g : Guard) (b : Buffer) : (b.hold g).samples = b.samples := by
  unfold hold
  split <;> rfl

theorem grants_iff : b.grants g = true ↔ Joins b.guards g := by
  cases g <;> simp [grants, Joins]

theorem guards_hold (g : Guard) (b : Buffer) :
    (b.hold g).guards = if Joins b.guards g then g :: b.guards else b.guards := by
  unfold hold
  by_cases h : b.grants g = true
  · rw [if_pos h, if_pos (grants_iff.mp h)]
  · rw [if_neg h, if_neg (mt grants_iff.mpr h)]

theorem after_cons (e : Event) (past : List Event) (b : Buffer) :
    b.after (e :: past) = (b.after past).step e := rfl

theorem size_after (past : List Event) (start : Buffer) :
    (start.after past).handles.size = made start past := by
  induction past with
  | nil => rfl
  | cons e past ih =>
    cases e with
    | dump handle s => simp [after_cons, step, made, ih]
    | close handle => simp [after_cons, step, close, made, ih]
    | connect => simp [after_cons, step, connect, made, ih]
    | copy handle => simp [after_cons, step, copy, made, ih]
    | hold g => simp [after_cons, step, handles_hold, made, ih]
    | release => simp [after_cons, step, release, made, ih]

theorem isOpen_after (past : List Event) (start : Buffer) (handle : Nat) :
    (start.after past).isOpen handle = staysOpen start past handle := by
  induction past generalizing handle with
  | nil => rfl
  | cons e past ih =>
    cases e with
    | close closed => simp [after_cons, step, isOpen_close, staysOpen, ih]
    | connect => simp [after_cons, step, isOpen_connect, size_after, staysOpen, ih]
    | copy original => simp [after_cons, step, isOpen_copy, size_after, staysOpen, ih]
    | dump through s =>
      rw [staysOpen, ← ih handle]
      simp [after_cons, step, isOpen]
    | hold g =>
      rw [staysOpen, ← ih handle]
      simp [after_cons, step, isOpen, handles_hold]
    | release =>
      rw [staysOpen, ← ih handle]
      rfl

theorem guards_after (past : List Event) (start : Buffer) :
    (start.after past).guards = held start.guards past := by
  induction past with
  | nil => rfl
  | cons e past ih =>
    rw [after_cons]
    cases e with
    | dump handle s => exact (guards_dump _ _ _).trans ih
    | hold g =>
      rw [held, ← ih]
      exact guards_hold g _
    | release =>
      rw [held, ← ih]
      rfl
    | close | connect | copy => exact ih

theorem accepts_iff : b.accepts handle = true ↔ b.isOpen handle = true ∧ b.guards = [] := by
  simp [accepts, isOpen]

theorem samples_after (past : List Event) (start : Buffer) :
    (start.after past).samples.toList = start.samples.toList ++ accepted start past := by
  induction past with
  | nil => exact (List.append_nil _).symm
  | cons e past ih =>
    rw [after_cons]
    cases e with
    | dump handle s =>
      have haccepts : (start.after past).accepts handle = true ↔
          staysOpen start past handle = true ∧ held start.guards past = [] := by
        rw [accepts_iff, isOpen_after, guards_after]
      rw [step, samples_dump, ih, accepted, List.append_assoc]
      simp only [haccepts]
    | hold g =>
      rw [accepted, ← ih]
      exact congrArg Array.toList (samples_hold g _)
    | close | connect | copy | release => exact ih

theorem exclusive_held (h : Exclusive gs) (past : List Event) : Exclusive (held gs past) := by
  induction past with
  | nil => exact h
  | cons e past ih =>
    cases e with
    | dump | close | connect | copy => exact ih
    | release =>
      intro hwriting
      rw [held, ih (List.mem_of_mem_tail hwriting)] at hwriting
      cases hwriting
    | hold g =>
      rw [held]
      split
      · next hjoins =>
        cases g with
        | reading =>
          intro hwriting
          rcases List.mem_cons.mp hwriting with h | h
          · cases h
          · exact absurd h hjoins
        | writing =>
          have hnone : held gs past = [] := hjoins
          rw [hnone]
          exact fun _ => rfl
      · exact ih

theorem dump_of_not_accepts (s : Sample) (h : ¬ b.accepts handle = true) : b.dump handle s = b := by
  rw [dump, if_neg h]

/-- A handle that has been made and is closed stays so. -/
theorem closed_step (e : Event) (hmade : handle < b.handles.size) (h : b.isOpen handle = false) :
    handle < (b.step e).handles.size ∧ (b.step e).isOpen handle = false := by
  cases e with
  | dump through s => simpa [step, isOpen] using And.intro hmade h
  | close closed =>
    refine ⟨by simpa [step, close] using hmade, ?_⟩
    rw [step, isOpen_close, h, Bool.and_false]
  | connect =>
    refine ⟨by simpa [step, connect] using Nat.lt_succ_of_lt hmade, ?_⟩
    rw [step, isOpen_connect, h]
    simpa using Nat.ne_of_lt hmade
  | copy original =>
    refine ⟨by simpa [step, copy] using Nat.lt_succ_of_lt hmade, ?_⟩
    rw [step, isOpen_copy, if_neg (Nat.ne_of_lt hmade), h]
  | hold g => simpa [step, isOpen, handles_hold] using And.intro hmade h
  | release => exact ⟨hmade, h⟩

theorem closed_after (later : List Event) (hmade : handle < b.handles.size)
    (h : b.isOpen handle = false) :
    handle < (b.after later).handles.size ∧ (b.after later).isOpen handle = false := by
  induction later with
  | nil => exact ⟨hmade, h⟩
  | cons e later ih => exact closed_step e ih.1 ih.2

theorem close_of_not_isOpen (h : b.isOpen handle = false) : b.close handle = b := by
  have hhandles : b.handles.setIfInBounds handle false = b.handles := by
    apply Array.ext_getElem?
    intro i
    rw [isOpen, Array.getD_eq_getD_getElem?] at h
    rw [Array.getElem?_setIfInBounds]
    by_cases hi : handle = i
    · subst hi
      by_cases hsize : handle < b.handles.size <;> simp_all
    · rw [if_neg hi]
  rw [close, hhandles]

theorem retains_after (start : Buffer) (past : List Event) :
    Retains start past (start.after past) := by
  have hopen := isOpen_after past start
  have hguards := guards_after past start
  constructor
  case samples_eq => exact samples_after past start
  case isOpen_eq => exact hopen
  case guards_eq => exact hguards
  case exclusive =>
    intro h
    rw [hguards]
    exact exclusive_held h past
  case dump_refused =>
    intro handle h s
    rw [← hopen, ← hguards, ← accepts_iff] at h
    exact dump_of_not_accepts s h
  case closed_forever =>
    intro handle hmade h later
    exact (closed_after later hmade h).2
  case close_again =>
    intro handle
    apply close_of_not_isOpen
    rw [isOpen_close, bne_self_eq_false, Bool.false_and]
  case close_other =>
    intro handle other hne
    rw [isOpen_close, bne_iff_ne.mpr hne, Bool.true_and]
  case copy_isOpen =>
    intro handle
    rw [isOpen_copy, if_pos rfl]

example (s t u : Sample) :
    (Buffer.after [.dump 0 u, .close 0, .release, .dump 0 t, .hold .writing, .dump 0 s] {}).samples =
      #[s] := rfl

end ByteBench.Buffer
