import TaskQueue.Numbers

/-!
# White space and trimming

The characters with the Unicode property White_Space, and trimming of texts at both ends.

Principal fact: `trimBoth_eq_nil_iff` — trimming leaves nothing exactly when every character is dropped.
-/

set_option autoImplicit false

namespace TaskQueue.Text

/-- The code points with the Unicode property White_Space, as inclusive ranges. -/
def blankRanges : List (Nat × Nat) :=
  [(0x09, 0x0D), (0x20, 0x20), (0x85, 0x85), (0xA0, 0xA0), (0x1680, 0x1680), (0x2000, 0x200A),
   (0x2028, 0x2029), (0x202F, 0x202F), (0x205F, 0x205F), (0x3000, 0x3000)]

-- The property has 25 code points.
example : (blankRanges.map fun r => r.2 + 1 - r.1).sum = 25 := by decide

/-- Whether a code point lies in one of the inclusive ranges. -/
def inRanges (ranges : List (Nat × Nat)) (n : Nat) : Bool :=
  ranges.any fun r => r.1 ≤ n && n ≤ r.2

/-- Whether a character is white space. -/
def isBlank (c : Char) : Bool := inRanges blankRanges c.toNat

/-- Drops the characters that satisfy `p` from both ends. -/
def trimBoth (p : Char → Bool) (cs : List Char) : List Char :=
  ((cs.dropWhile p).reverse.dropWhile p).reverse

theorem trimBoth_eq_nil_iff {p : Char → Bool} {cs : List Char} :
    trimBoth p cs = [] ↔ ∀ c ∈ cs, p c = true := by
  have drop_nil : ∀ l : List Char, l.dropWhile p = [] ↔ ∀ c ∈ l, p c = true := by
    intro l
    induction l with
    | nil => simp
    | cons a l ih => by_cases h : p a <;> simp [h, ih]
  have keep : ∀ l : List Char, (∀ c ∈ l.dropWhile p, p c = true) → ∀ c ∈ l, p c = true := by
    intro l
    induction l with
    | nil => simp
    | cons a l ih => by_cases h : p a <;> simp_all
  unfold trimBoth
  rw [List.reverse_eq_nil_iff, drop_nil]
  constructor
  · intro h
    exact keep cs fun c hc => h c (List.mem_reverse.mpr hc)
  · intro h c hc
    exact h c ((List.dropWhile_sublist p).mem (List.mem_reverse.mp hc))

/-- The text without the white space at its ends. -/
def trim (cs : List Char) : List Char := trimBoth isBlank cs

/-- Whether a text has no character other than white space. -/
def allBlank (s : String) : Bool := s.toList.all isBlank

end TaskQueue.Text
