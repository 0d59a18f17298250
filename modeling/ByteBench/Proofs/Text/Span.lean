import ByteBench.Text.Span

/-!
# What a span covers

Main statements: `cutAtByte?_eq_some_iff`, where a text can be cut, and `covers_iff`, a span that
fits a text is the place of some of its characters.
-/

namespace ByteBench.Text

/-- A cut is made where a text falls into two parts, of which the first has the given number of
bytes; there is at most one such place. -/
theorem cutAtByte?_eq_some_iff {n : Nat} {cs before after : List Char} :
    cutAtByte? n cs = some (before, after) ↔ before ++ after = cs ∧ byteLength before = n := by
  constructor
  · intro h
    induction cs generalizing n before with
    | nil =>
      cases n with
      | zero =>
        cases h
        exact ⟨rfl, rfl⟩
      | succ n => cases h
    | cons c cs ih =>
      cases n with
      | zero =>
        cases h
        exact ⟨rfl, rfl⟩
      | succ n =>
        rw [cutAtByte?] at h
        split at h
        · next hle =>
          obtain ⟨⟨before', after'⟩, hcut, heq⟩ := Option.map_eq_some_iff.mp h
          cases heq
          obtain ⟨rfl, hlength⟩ := ih hcut
          refine ⟨rfl, ?_⟩
          rw [byteLength_cons, hlength]
          omega
        · cases h
  · rintro ⟨rfl, rfl⟩
    exact cutAtByte?_append before after

/-- Where a text is cut tells its parts. -/
theorem eq_of_byteLength_eq {xs ys xs' ys' : List Char} (h : xs ++ ys = xs' ++ ys')
    (hlength : byteLength xs = byteLength xs') : xs = xs' ∧ ys = ys' := by
  have hcut := cutAtByte?_append xs ys
  rw [cutAtByte?_eq_some_iff.mpr ⟨h.symm, hlength.symm⟩] at hcut
  cases hcut
  exact ⟨rfl, rfl⟩

namespace Span

variable {s : Span} {cs before inside : List Char}

/-- The span fits the text: it covers the characters `inside`, and `before` stands before them. -/
structure Covers (s : Span) (cs before inside : List Char) : Prop where
  start_le_stop : s.start ≤ s.stop
  stop_le : s.stop ≤ byteLength cs
  before?_eq : s.before? cs = some before
  slice?_eq : s.slice? cs = some inside

theorem covers_append (before inside after : List Char) :
    Covers ⟨byteLength before, byteLength before + byteLength inside⟩
      (before ++ (inside ++ after)) before inside := by
  have hsub : byteLength before + byteLength inside - byteLength before = byteLength inside := by
    omega
  have hstart := cutAtByte?_append before (inside ++ after)
  have hstop := cutAtByte?_append inside after
  refine ⟨Nat.le_add_right _ _, ?_, ?_, ?_⟩
  · rw [byteLength_append, byteLength_append]
    show byteLength before + byteLength inside ≤ _
    omega
  · rw [before?, hstart]
    rfl
  · rw [slice?, if_pos (Nat.le_add_right _ _)]
    simp [hstart, hsub, hstop]

theorem covers_iff :
    s.Covers cs before inside ↔
      ∃ after, before ++ (inside ++ after) = cs ∧
        s = ⟨byteLength before, byteLength before + byteLength inside⟩ := by
  constructor
  · rintro ⟨hle, -, hbefore, hslice⟩
    obtain ⟨⟨before', rest⟩, hcut, rfl⟩ := Option.map_eq_some_iff.mp hbefore
    obtain ⟨rfl, hstart⟩ := cutAtByte?_eq_some_iff.mp hcut
    rw [slice?, if_pos hle, hcut] at hslice
    rw [Option.bind_eq_bind, Option.bind_some] at hslice
    obtain ⟨⟨inside', after⟩, hcut', hinside⟩ := Option.bind_eq_some_iff.mp hslice
    cases Option.some.inj hinside
    obtain ⟨rfl, hlength⟩ := cutAtByte?_eq_some_iff.mp hcut'
    refine ⟨after, rfl, ?_⟩
    obtain ⟨start, stop⟩ := s
    have hstop : stop = byteLength before' + byteLength inside := by
      have hstart' : byteLength before' = start := hstart
      have hlength' : byteLength inside = stop - start := hlength
      have hle' : start ≤ stop := hle
      omega
    rw [hstop, hstart]
  · rintro ⟨after, rfl, rfl⟩
    exact covers_append before inside after

theorem Covers.length_le (h : s.Covers cs before inside) :
    before.length + inside.length ≤ cs.length := by
  obtain ⟨after, rfl, -⟩ := covers_iff.mp h
  simp

/-- Where the characters of a text are known, the span that covers them is that of their bytes. -/
theorem covers_iff_of_text {after : List Char} (h : before ++ (inside ++ after) = cs) :
    s.Covers cs before inside ↔
      s = ⟨byteLength before, byteLength before + byteLength inside⟩ := by
  rw [covers_iff]
  constructor
  · rintro ⟨-, -, hs⟩
    exact hs
  · intro hs
    exact ⟨after, h, hs⟩

end Span

end ByteBench.Text
