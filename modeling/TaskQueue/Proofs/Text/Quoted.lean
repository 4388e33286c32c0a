import TaskQueue.Proofs.Text.Trimming
import TaskQueue.Text.Quoted

/-!
# Texts in their written form

Quoting writes a character as it is, or longer and behind a backslash.  So a text is written as it is
exactly when each of its characters is.

Principal results: `Quoted.flatMap_escape_eq_self_iff`, and `Quoted.trimBoth_encode` — the double quotes
around a written text are the only ones that trimming takes away, unless the text itself ends with one.
-/

set_option autoImplicit false

namespace TaskQueue.Text.Quoted

/-- Whether a character is written as it is. -/
def Plain (c : Char) : Prop :=
  c ∉ ['\x00', '\t', '\r', '\n', '"', '\\'] ∧ isHidden c = false

instance (c : Char) : Decidable (Plain c) :=
  inferInstanceAs (Decidable (c ∉ ['\x00', '\t', '\r', '\n', '"', '\\'] ∧ isHidden c = false))

/-- **A character is written as it is or behind a backslash**, and only the double quote is written with
one at its end. -/
theorem escape_cases (c : Char) :
    (Plain c ∧ escape c = [c]) ∨
      (¬ Plain c ∧ ∃ middle last, escape c = '\\' :: middle ++ [last] ∧ (last = '"' → c = '"')) := by
  unfold escape
  split
  · exact Or.inr ⟨by decide, [], '0', rfl, by decide⟩
  · exact Or.inr ⟨by decide, [], 't', rfl, by decide⟩
  · exact Or.inr ⟨by decide, [], 'r', rfl, by decide⟩
  · exact Or.inr ⟨by decide, [], 'n', rfl, by decide⟩
  · exact Or.inr ⟨by decide, [], '"', rfl, fun _ => rfl⟩
  · exact Or.inr ⟨by decide, [], '\\', rfl, by decide⟩
  · rename_i h0 ht hr hn hq hb
    have hmem : c ∉ ['\x00', '\t', '\r', '\n', '"', '\\'] := by
      simp only [List.mem_cons, List.not_mem_nil, or_false, not_or]
      exact ⟨h0, ht, hr, hn, hq, hb⟩
    split
    · rename_i hhidden
      refine Or.inr ⟨fun h => ?_, ['u', '\x7b'] ++ Hex.ofNat c.toNat, '\x7d', rfl,
        fun h => absurd h (by decide)⟩
      rw [h.2] at hhidden
      cases hhidden
    · rename_i hhidden
      exact Or.inl ⟨⟨hmem, Bool.not_eq_true _ ▸ hhidden⟩, rfl⟩

theorem length_escape (c : Char) : 1 ≤ (escape c).length ∧ (¬ Plain c → 1 < (escape c).length) := by
  rcases escape_cases c with ⟨h, hc⟩ | ⟨h, middle, last, hc, -⟩
  · rw [hc]
    exact ⟨Nat.le_refl 1, fun hn => absurd h hn⟩
  · rw [hc, List.length_append, List.length_cons, List.length_singleton]
    omega

theorem length_le_flatMap_escape (cs : List Char) : cs.length ≤ (cs.flatMap escape).length := by
  induction cs with
  | nil => exact Nat.le_refl 0
  | cons c cs ih =>
    have := (length_escape c).1
    rw [List.flatMap_cons, List.length_append, List.length_cons]
    omega

/-- **A text is written as it is exactly when each of its characters is.** -/
theorem flatMap_escape_eq_self_iff {cs : List Char} : cs.flatMap escape = cs ↔ ∀ c ∈ cs, Plain c := by
  induction cs with
  | nil => simp
  | cons c cs ih =>
    rw [List.flatMap_cons, List.forall_mem_cons, ← ih]
    constructor
    · intro h
      rcases escape_cases c with ⟨hplain, hc⟩ | ⟨hplain, -⟩
      · rw [hc] at h
        exact ⟨hplain, List.tail_eq_of_cons_eq h⟩
      · -- One character more than needed here is not made up for by those that follow.
        have hlong := congrArg List.length h
        have := (length_escape c).2 hplain
        have := length_le_flatMap_escape cs
        rw [List.length_append, List.length_cons] at hlong
        omega
    · rintro ⟨hplain, hrest⟩
      rcases escape_cases c with ⟨-, hc⟩ | ⟨hn, -⟩
      · rw [hc, hrest]
        rfl
      · exact absurd hplain hn

/-! ## The quotes around a written text -/

/-- A written text begins with no double quote, and ends with one only if the text does. -/
theorem trimmed_flatMap_escape {cs : List Char} (h : ∀ c ∈ cs.getLast?, c ≠ '"') :
    Trimmed (· = '"') (cs.flatMap escape) := by
  constructor
  · cases cs with
    | nil => simp
    | cons c cs =>
      intro a ha
      rw [List.flatMap_cons] at ha
      rcases escape_cases c with ⟨hplain, hc⟩ | ⟨-, middle, last, hc, -⟩
      · rw [hc] at ha
        cases ha
        exact decide_eq_false fun hq => hplain.1 (by simp [hq])
      · rw [hc] at ha
        cases ha
        decide
  · rcases List.eq_nil_or_concat cs with rfl | ⟨front, c, rfl⟩
    · simp
    · intro a ha
      have hne : c ≠ '"' := h c (by simp)
      rw [List.concat_eq_append, List.flatMap_append, List.flatMap_singleton] at ha
      rcases escape_cases c with ⟨-, hc⟩ | ⟨-, middle, last, hc, hlast⟩
      · rw [hc, List.getLast?_concat] at ha
        cases ha
        exact decide_eq_false hne
      · rw [hc, ← List.append_assoc, List.getLast?_concat] at ha
        cases ha
        exact decide_eq_false fun hq => hne (hlast hq)

/-- The double quotes around a written text are the only ones that trimming takes away. -/
theorem trimBoth_encode {cs : List Char} (h : ∀ c ∈ cs.getLast?, c ≠ '"') :
    trimBoth (· = '"') (encode cs) = cs.flatMap escape :=
  trimBoth_cons_concat (by decide) (by decide) (trimmed_flatMap_escape h)

end TaskQueue.Text.Quoted
