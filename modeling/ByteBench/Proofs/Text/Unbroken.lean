import ByteBench.Proofs.Text.Radix
import ByteBench.Text.Lines
import ByteBench.Text.Quoted

/-!
# Texts without a line feed

Main statements: `unbroken_lines`, the lines of a text have none, and `unbroken_quoted`, neither has
a quoted text.
-/

namespace ByteBench.Text

/-- A text that no line feed is in. -/
def Unbroken (s : String) : Prop := '\n' ∉ s.toList

instance (s : String) : Decidable (Unbroken s) := inferInstanceAs (Decidable (_ ∉ _))

/-- The text is these rows, each of them ended by a line feed. -/
structure IsRows (text : String) (rows : List String) : Prop where
  text_eq : text = String.join (rows.map (· ++ "\n"))
  unbroken : ∀ row ∈ rows, Unbroken row

variable {s t : String}

theorem unbroken_ofList {cs : List Char} (h : '\n' ∉ cs) : Unbroken (String.ofList cs) := by
  rwa [Unbroken, String.toList_ofList]

theorem Unbroken.append (hs : Unbroken s) (ht : Unbroken t) : Unbroken (s ++ t) := by
  unfold Unbroken at *
  simp [hs, ht]

theorem unbroken_join {ss : List String} (h : ∀ s ∈ ss, Unbroken s) :
    Unbroken (String.join ss) := by
  simpa [Unbroken, String.toList_join] using h

theorem unbroken_intercalate {ss : List String} (hs : Unbroken s) (h : ∀ t ∈ ss, Unbroken t) :
    Unbroken (s.intercalate ss) := by
  induction ss with
  | nil => simp [Unbroken]
  | cons t ss ih =>
    obtain ⟨ht, hss⟩ := List.forall_mem_cons.mp h
    have hrest := ih hss
    cases ss with
    | nil => simpa using ht
    | cons u ss =>
      rw [String.intercalate_cons_cons]
      exact (ht.append hs).append hrest

theorem newline_not_mem_toDigits {b : Nat} (hb : 1 < b) (n : Nat) : '\n' ∉ Nat.toDigits b n := by
  rcases Nat.eq_zero_or_pos n with rfl | hn
  · simp
  · simp [toDigits_eq hb hn]

theorem unbroken_toString (n : Nat) : Unbroken (toString n) := by
  rw [Nat.toString_eq_ofList_toDigits]
  exact unbroken_ofList (newline_not_mem_toDigits (by decide) n)

theorem unbroken_hexLower (n : Nat) : Unbroken (hexLower n) :=
  unbroken_ofList (newline_not_mem_toDigits (by decide) n)

theorem unbroken_escapeChar (c : Char) : Unbroken (escapeChar c) := by
  unfold escapeChar
  split
  case h_7 hc _ _ =>
    split_ifs
    · simpa [Unbroken, eq_comm] using hc
    · have hopen : Unbroken "\\u\x7b" := by decide
      exact (hopen.append (unbroken_hexLower _)).append (by decide)
  all_goals decide

theorem unbroken_quoted (s : String) : Unbroken (quoted s) := by
  have hquote : Unbroken "\"" := by decide
  have hjoin : Unbroken (String.join (s.toList.map escapeChar)) :=
    unbroken_join (List.forall_mem_map.mpr fun c _ => unbroken_escapeChar c)
  exact (hquote.append hjoin).append hquote

theorem mem_of_mem_dropReturn {c : Char} {line : List Char} (h : c ∈ dropReturn line) :
    c ∈ line := by
  unfold dropReturn at h
  split_ifs at h
  · exact List.dropLast_subset _ h
  · exact h

theorem newline_not_mem_linesFrom {started cs line : List Char} (h : '\n' ∉ started)
    (hline : line ∈ linesFrom started cs) : '\n' ∉ line := by
  fun_induction linesFrom started cs with
  | case1 => cases hline
  | case2 =>
    rw [List.mem_singleton] at hline
    simpa [hline] using h
  | case3 started cs ih =>
    rcases List.mem_cons.mp hline with rfl | hrest
    · exact fun hmem => h (List.mem_reverse.mp (mem_of_mem_dropReturn hmem))
    · exact ih List.not_mem_nil hrest
  | case4 started c cs hc ih =>
    apply ih _ hline
    simpa [h, eq_comm] using hc

theorem unbroken_lines {text line : String} (h : line ∈ lines text) : Unbroken line := by
  obtain ⟨cs, hcs, rfl⟩ := List.mem_map.mp h
  simpa [Unbroken] using newline_not_mem_linesFrom List.not_mem_nil hcs

end ByteBench.Text
