import TaskQueue.Text.Blank

/-!
# Trimmed texts

A text is trimmed if neither its first nor its last character is one of those that are dropped.

Principal results: `trimmed_trimBoth` — trimming leaves a trimmed text; `trimBoth_cons_concat` — what it takes
from a text of which the two ends are known; `trimBoth_eq_iff` — what it takes from any text.
-/

set_option autoImplicit false

namespace TaskQueue.Text

/-- Neither end of a text satisfies `p`. -/
structure Trimmed (p : Char → Bool) (cs : List Char) : Prop where
  head : ∀ c ∈ cs.head?, p c = false
  last : ∀ c ∈ cs.getLast?, p c = false

variable {p : Char → Bool} {cs : List Char}

theorem dropWhile_of_head (h : ∀ c ∈ cs.head?, p c = false) : cs.dropWhile p = cs := by
  cases cs with
  | nil => rfl
  | cons a cs => rw [List.dropWhile_cons, if_neg (by rw [h a rfl]; simp)]

theorem head_dropWhile (cs : List Char) : ∀ c ∈ (cs.dropWhile p).head?, p c = false := by
  intro c hc
  have h := List.head?_dropWhile_not p cs
  rw [hc] at h
  simpa using h

/-- **Trimming leaves a trimmed text.** -/
theorem trimmed_trimBoth (p : Char → Bool) (cs : List Char) : Trimmed p (trimBoth p cs) := by
  constructor
  · intro c hc
    -- What is left begins as the text did after the characters at its front were dropped.
    obtain ⟨front, hfront⟩ := List.dropWhile_suffix (l := (cs.dropWhile p).reverse) p
    have hback := congrArg List.reverse hfront
    rw [List.reverse_append, List.reverse_reverse] at hback
    refine head_dropWhile cs c ?_
    have hhead : ((cs.dropWhile p).reverse.dropWhile p).reverse.head? = some c := hc
    rw [← hback, List.head?_append, hhead]
    rfl
  · rw [trimBoth, List.getLast?_reverse]
    exact head_dropWhile _

theorem trimmed_of_forall (h : ∀ c ∈ cs, p c = false) : Trimmed p cs :=
  ⟨fun c hc => h c (List.mem_of_head? hc), fun c hc => h c (List.mem_of_getLast? hc)⟩

theorem trimmed_cons_concat {a b : Char} (ha : p a = false) (hb : p b = false) (cs : List Char) :
    Trimmed p (a :: cs ++ [b]) := by
  constructor
  · intro c hc
    cases hc
    exact ha
  · intro c hc
    rw [List.getLast?_concat] at hc
    cases hc
    exact hb

/-- One dropped character on each side of a trimmed text is dropped, and nothing else. -/
theorem trimBoth_cons_concat {a b : Char} (ha : p a = true) (hb : p b = true) (h : Trimmed p cs) :
    trimBoth p (a :: cs ++ [b]) = cs := by
  rw [trimBoth, List.cons_append, List.dropWhile_cons_of_pos ha]
  cases cs with
  | nil => simp [hb]
  | cons c cs =>
    have hc : p c = false := h.head c rfl
    rw [List.cons_append, List.dropWhile_cons_of_neg (by simp [hc]), ← List.cons_append,
      List.reverse_append, List.reverse_singleton, List.singleton_append, List.dropWhile_cons_of_pos hb,
      dropWhile_of_head, List.reverse_reverse]
    rw [List.head?_reverse]
    exact h.last

/-! ## What is trimmed away -/

/-- A text without the characters at its two ends that satisfy `p`. -/
structure Strips (p : Char → Bool) (cs kept : List Char) : Prop where
  between : ∃ front back, cs = front ++ kept ++ back ∧ (∀ c ∈ front, p c = true) ∧ ∀ c ∈ back, p c = true
  trimmed : Trimmed p kept

/-- Nothing is taken away from a trimmed text. -/
theorem Trimmed.strips (h : Trimmed p cs) : Strips p cs cs :=
  ⟨⟨[], [], by simp, by simp, by simp⟩, h⟩

theorem reverse_of_trimmed (h : Trimmed p cs) : Trimmed p cs.reverse :=
  ⟨by rw [List.head?_reverse]; exact h.last, by rw [List.getLast?_reverse]; exact h.head⟩

theorem dropWhile_append_of_head {front kept : List Char} (hfront : ∀ c ∈ front, p c = true)
    (hkept : ∀ c ∈ kept.head?, p c = false) : (front ++ kept).dropWhile p = kept := by
  rw [List.dropWhile_append_of_pos hfront, dropWhile_of_head hkept]

theorem takeWhile_append_of_head {front kept : List Char} (hfront : ∀ c ∈ front, p c = true)
    (hkept : ∀ c ∈ kept.head?, p c = false) : (front ++ kept).takeWhile p = front := by
  rw [List.takeWhile_append_of_pos hfront]
  cases kept with
  | nil => rw [List.takeWhile_nil, List.append_nil]
  | cons c kept => rw [List.takeWhile_cons_of_neg (by simp [hkept c rfl]), List.append_nil]

/-- **Trimming takes away the characters at the two ends and no others.** -/
theorem trimBoth_eq_iff {kept : List Char} : trimBoth p cs = kept ↔ Strips p cs kept := by
  constructor
  · rintro rfl
    refine ⟨⟨cs.takeWhile p, ((cs.dropWhile p).reverse.takeWhile p).reverse, ?_, ?_, ?_⟩,
      trimmed_trimBoth p cs⟩
    · rw [trimBoth, List.append_assoc, ← List.reverse_append, List.takeWhile_append_dropWhile,
        List.reverse_reverse, List.takeWhile_append_dropWhile]
    · exact List.all_eq_true.mp List.all_takeWhile
    · exact fun c hc => List.all_eq_true.mp List.all_takeWhile c (List.mem_reverse.mp hc)
  · rintro ⟨⟨front, back, rfl, hfront, hback⟩, hkept⟩
    cases kept with
    | nil =>
      rw [trimBoth_eq_nil_iff, List.append_nil]
      exact fun c hc => (List.mem_append.mp hc).elim (hfront c) (hback c)
    | cons a kept =>
      have hhead : ∀ c ∈ (a :: kept ++ back).head?, p c = false := fun c hc => hkept.head c hc
      rw [trimBoth, List.append_assoc, dropWhile_append_of_head hfront hhead, List.reverse_append,
        dropWhile_append_of_head (fun c hc => hback c (List.mem_reverse.mp hc))
          (reverse_of_trimmed hkept).head, List.reverse_reverse]

end TaskQueue.Text
