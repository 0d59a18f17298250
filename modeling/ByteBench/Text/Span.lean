/-!
# Spans of a line

Positions in a line are counted in bytes of its UTF-8 form. A span need not fit the line that it is
used with: then there is no text in it.
Main statement: `cutAtByte?_append`, a text is cut where one part ends.
-/

namespace ByteBench.Text

def byteLength : List Char → Nat
  | [] => 0
  | c :: cs => c.utf8Size + byteLength cs

/-- A stretch of a line, in bytes: from `start` up to but not including `stop`. -/
structure Span where
  start : Nat
  stop : Nat
  deriving DecidableEq

/-- Cuts a text after `n` bytes, unless that is beyond its end or within a character. -/
def cutAtByte? : Nat → List Char → Option (List Char × List Char)
  | 0, cs => some ([], cs)
  | _ + 1, [] => none
  | n + 1, c :: cs =>
    if c.utf8Size ≤ n + 1 then
      (cutAtByte? (n + 1 - c.utf8Size) cs).map fun (before, after) => (c :: before, after)
    else none

@[simp] theorem byteLength_nil : byteLength [] = 0 := rfl

@[simp] theorem byteLength_cons (c : Char) (cs : List Char) :
    byteLength (c :: cs) = c.utf8Size + byteLength cs := rfl

@[simp] theorem byteLength_append (cs ds : List Char) :
    byteLength (cs ++ ds) = byteLength cs + byteLength ds := by
  induction cs with
  | nil => exact (Nat.zero_add _).symm
  | cons c cs ih => rw [List.cons_append, byteLength_cons, byteLength_cons, ih, Nat.add_assoc]

theorem cutAtByte?_append (cs ds : List Char) :
    cutAtByte? (byteLength cs) (cs ++ ds) = some (cs, ds) := by
  induction cs with
  | nil => simp [cutAtByte?]
  | cons c cs ih =>
    -- no character is empty, so the number of bytes has the form that the cut goes by
    have hc : 0 < c.utf8Size := c.utf8Size_pos
    obtain ⟨n, hn⟩ : ∃ n, byteLength (c :: cs) = n + 1 :=
      ⟨byteLength (c :: cs) - 1, by simp only [byteLength_cons]; omega⟩
    have hr : n + 1 - c.utf8Size = byteLength cs := by
      simp only [byteLength_cons] at hn
      omega
    have hle : c.utf8Size ≤ n + 1 := by
      simp only [byteLength_cons] at hn
      omega
    rw [hn, List.cons_append, cutAtByte?, if_pos hle, hr, ih]
    rfl

namespace Span

/-- The characters of a text before a span, if the span starts between two characters. -/
def before? (s : Span) (cs : List Char) : Option (List Char) :=
  (cutAtByte? s.start cs).map (·.1)

/-- The characters of a text in a span, if the span fits the text. -/
def slice? (s : Span) (cs : List Char) : Option (List Char) :=
  if s.start ≤ s.stop then do
    let (_, rest) ← cutAtByte? s.start cs
    let (inside, _) ← cutAtByte? (s.stop - s.start) rest
    pure inside
  else none

end Span

end ByteBench.Text
