import TaskQueue.Proofs.Json.Objects
import TaskQueue.Proofs.Json.Scalars

/-!
# Reading back JSON values

A value is read back part by part: each reader stops where the writer of that part did, because of what the
writer of the whole put behind it.  What may go wrong is named by `Exact` and `depth`: a number that is no
integer of 64 bits, and a value with more lists and objects around it than are read.

Principal results: `Exact.readsBack` — the reader after the writer, in the middle of any text;
`decode?_encode` — the same for a whole text as bytes.
-/

set_option autoImplicit false

namespace TaskQueue.Json

open Text

/-- A value whose numbers are integers of signed or unsigned 64-bit words. -/
inductive Exact : Json → Prop
  | null : Exact Json.null
  | bool (b : Bool) : Exact (Json.bool b)
  | int {z : Int} (hmin : -2 ^ 63 ≤ z) (hmax : z < 2 ^ 64) : Exact (Json.int z)
  | string (s : String) : Exact (Json.string s)
  | array {items : List Json} (h : ∀ v ∈ items, Exact v) : Exact (Json.array items)
  | members {ms : List (String × Json)} (h : ∀ m ∈ ms, Exact m.2) : Exact (Json.members ms)

mutual

/-- How many lists and objects lie inside one another. -/
def depth : Json → Nat
  | array items => depthOfItems items + 1
  | members ms => depthOfMembers ms + 1
  | _ => 0

/-- The greatest depth of an item. -/
def depthOfItems : List Json → Nat
  | [] => 0
  | v :: rest => max v.depth (depthOfItems rest)

/-- The greatest depth of a member. -/
def depthOfMembers : List (String × Json) → Nat
  | [] => 0
  | (_, v) :: rest => max v.depth (depthOfMembers rest)

end

/-- A value is read back, in its normal form, from wherever it is written, if what follows does not go on
with its last number. -/
def ReadsBack (v : Json) : Prop :=
  ∀ (fuel depth : Nat) (rest : List Char), v.printChars.length ≤ fuel → v.depth ≤ depth → EndsNumber rest →
    readValue? fuel depth (v.printChars ++ rest) = some (v.normal, rest)

/-! ## How values begin -/

theorem skipBlank_cons {c : Char} (cs : List Char) (h : c ∉ [' ', '\t', '\n', '\r']) :
    skipBlank (c :: cs) = c :: cs := by
  rw [skipBlank, List.dropWhile_cons_of_neg]
  simpa [not_or, and_assoc] using h

/-- A character that a number may begin with. -/
def Numeric (c : Char) : Prop := Decimal.isDigit c = true ∨ c = '-'

instance (c : Char) : Decidable (Numeric c) :=
  inferInstanceAs (Decidable (Decimal.isDigit c = true ∨ c = '-'))

theorem exists_ofInt_eq_cons (z : Int) : ∃ c cs, Decimal.ofInt z = c :: cs ∧ Numeric c := by
  rw [Decimal.ofInt]
  split
  · exact ⟨_, _, rfl, Or.inr rfl⟩
  · obtain ⟨c, cs, hcons⟩ := List.exists_cons_of_ne_nil (Decimal.ofNat_ne_nil z.natAbs)
    exact ⟨c, cs, hcons, Or.inl (Decimal.isDigit_of_mem_ofNat c (by rw [hcons]; exact List.mem_cons_self))⟩

theorem Numeric.not_mem {c : Char} (h : Numeric c) : c ∉ [' ', '\t', '\n', '\r', ']'] := by
  intro hmem
  simp only [List.mem_cons, List.not_mem_nil, or_false] at hmem
  rcases hmem with rfl | rfl | rfl | rfl | rfl <;> exact absurd h (by decide)

/-- What begins as a number is read as one. -/
theorem readValue?_of_numeric (fuel depth : Nat) {c : Char} (cs : List Char) (h : Numeric c) :
    readValue? (fuel + 1) depth (c :: cs) = readNumber? (c :: cs) := by
  rw [readValue?.eq_def]
  simp only [skipBlank_cons cs fun hmem => h.not_mem (List.mem_append_left [']'] hmem)]
  split
  iterate 6
    rename_i heq
    cases heq
    exact absurd h (by decide)
  rfl

/-- **A value begins with a character** that is neither dropped as white space nor taken for the end of a
list. -/
theorem Exact.exists_printChars_eq_cons {v : Json} (h : v.Exact) :
    ∃ c cs, v.printChars = c :: cs ∧ c ∉ [' ', '\t', '\n', '\r', ']'] := by
  cases h with
  | null => exact ⟨_, _, rfl, by decide⟩
  | bool b => cases b <;> exact ⟨_, _, rfl, by decide⟩
  | int _ _ =>
    obtain ⟨c, cs, hcons, hc⟩ := exists_ofInt_eq_cons _
    exact ⟨c, cs, hcons, hc.not_mem⟩
  | string s => exact ⟨_, _, rfl, by decide⟩
  | array _ => exact ⟨_, _, rfl, by decide⟩
  | members _ => exact ⟨_, _, rfl, by decide⟩

/-- So does a list behind its opening bracket. -/
theorem Exact.exists_printItems_eq_cons {v : Json} (h : v.Exact) (items : List Json) :
    ∃ c cs, printItems (v :: items) = c :: cs ∧ c ∉ [' ', '\t', '\n', '\r', ']'] := by
  obtain ⟨c, cs, hcons, hc⟩ := h.exists_printChars_eq_cons
  cases items with
  | nil => exact ⟨c, cs ++ [']'], by rw [printItems, hcons, List.cons_append], hc⟩
  | cons w items => exact ⟨c, cs ++ ',' :: printItems (w :: items), by rw [printItems, hcons, List.cons_append], hc⟩

theorem exists_printMembers_eq_cons (m : String × Json) (ms : List (String × Json)) :
    ∃ cs, printMembers (m :: ms) = '"' :: cs := by
  cases ms with
  | nil => exact ⟨_, rfl⟩
  | cons m' ms => exact ⟨_, rfl⟩

/-! ## Lists and objects -/

section

variable {fuel depth : Nat} (rest : List Char)

theorem readItems?_printItems {items : List Json} (h : ∀ v ∈ items, ReadsBack v) (hne : items ≠ [])
    (hfuel : (printItems items).length ≤ fuel) (hdepth : depthOfItems items ≤ depth) :
    readItems? fuel depth (printItems items ++ rest) = some (normalItems items, rest) := by
  induction items generalizing fuel with
  | nil => exact absurd rfl hne
  | cons v items ih =>
    obtain ⟨hv, hitems⟩ := List.forall_mem_cons.mp h
    obtain ⟨hdv, hditems⟩ := Nat.max_le.mp hdepth
    cases items with
    | nil =>
      rw [printItems, List.length_append, List.length_singleton] at hfuel
      cases fuel with
      | zero => exact absurd hfuel (Nat.not_succ_le_zero _)
      | succ fuel =>
        have hread := hv fuel depth (']' :: rest) (by omega) hdv (endsNumber_cons _ (by decide))
        rw [printItems, List.append_assoc, List.singleton_append, readItems?, hread]
        rfl
    | cons w items =>
      rw [printItems, List.length_append, List.length_cons] at hfuel
      cases fuel with
      | zero => exact absurd hfuel (Nat.not_succ_le_zero _)
      | succ fuel =>
        have hread := hv fuel depth (',' :: (printItems (w :: items) ++ rest)) (by omega) hdv
          (endsNumber_cons _ (by decide))
        have hmore : readItems? fuel depth (printItems (w :: items) ++ rest) = _ :=
          ih hitems (List.cons_ne_nil _ _) (by omega) hditems
        rw [printItems, List.append_assoc, List.cons_append, readItems?, hread]
        show (readItems? fuel depth (printItems (w :: items) ++ rest)).map _ = _
        rw [hmore]
        rfl

/-- A key is read back with the value behind it, and the reader goes on from there. -/
theorem readMembers?_printText (k : String) {v : Json} (h : ReadsBack v)
    (hfuel : v.printChars.length ≤ fuel) (hdepth : v.depth ≤ depth) (hrest : EndsNumber rest) :
    readMembers? (fuel + 1) depth (printText k ++ ':' :: (v.printChars ++ rest)) =
      match skipBlank rest with
      | '\x7d' :: rest => some ([(k, v.normal)], rest)
      | ',' :: rest => (readMembers? fuel depth rest).map fun (ms, more) => ((k, v.normal) :: ms, more)
      | _ => none := by
  rw [printText_append, readMembers?, skipBlank_cons _ (by decide)]
  simp only [readText?_of_printText]
  rw [skipBlank_cons _ (by decide)]
  simp only [h fuel depth rest hfuel hdepth hrest]
  rewrite [String.ofList_toList]
  rfl

theorem readMembers?_printMembers {ms : List (String × Json)} (h : ∀ m ∈ ms, ReadsBack m.2)
    (hne : ms ≠ []) (hfuel : (printMembers ms).length ≤ fuel) (hdepth : depthOfMembers ms ≤ depth) :
    readMembers? fuel depth (printMembers ms ++ rest) = some (normalMembers ms, rest) := by
  induction ms generalizing fuel with
  | nil => exact absurd rfl hne
  | cons m ms ih =>
    obtain ⟨k, v⟩ := m
    obtain ⟨hv, hms⟩ : ReadsBack v ∧ ∀ m ∈ ms, ReadsBack m.2 := List.forall_mem_cons.mp h
    obtain ⟨hdv, hdms⟩ := Nat.max_le.mp hdepth
    cases ms with
    | nil =>
      have hprint : printMembers [(k, v)] ++ rest = printText k ++ ':' :: (v.printChars ++ '\x7d' :: rest) := by
        simp [printMembers]
      simp only [printMembers, List.length_append, List.length_cons] at hfuel
      cases fuel with
      | zero => exact absurd hfuel (Nat.not_succ_le_zero _)
      | succ fuel =>
        rw [hprint, readMembers?_printText _ k hv (by omega) hdv (endsNumber_cons _ (by decide))]
        rfl
    | cons m ms =>
      have hprint : printMembers ((k, v) :: m :: ms) ++ rest =
          printText k ++ ':' :: (v.printChars ++ ',' :: (printMembers (m :: ms) ++ rest)) := by
        simp [printMembers]
      simp only [printMembers, List.length_append, List.length_cons] at hfuel
      cases fuel with
      | zero => omega
      | succ fuel =>
        have hmore : readMembers? fuel depth (printMembers (m :: ms) ++ rest) = _ :=
          ih hms (List.cons_ne_nil _ _) (by omega) hdms
        rw [hprint, readMembers?_printText _ k hv (by omega) hdv (endsNumber_cons _ (by decide))]
        show (readMembers? fuel depth (printMembers (m :: ms) ++ rest)).map _ = _
        rw [hmore]
        rfl

end

/-! ## Values -/

/-- A list whose first item begins with `c` is read item by item. -/
theorem readValue?_items (fuel depth : Nat) {c : Char} (cs : List Char)
    (hc : c ∉ [' ', '\t', '\n', '\r', ']']) :
    readValue? (fuel + 1) (depth + 1) ('[' :: c :: cs) =
      (readItems? fuel depth (c :: cs)).map fun (items, more) => (array items, more) := by
  have hblank : skipBlank (c :: cs) = c :: cs :=
    skipBlank_cons cs fun hmem => hc (List.mem_append_left [']'] hmem)
  rw [readValue?, skipBlank_cons _ (by decide)]
  simp only [hblank]
  split
  · rename_i heq
    cases heq
    exact absurd hc (by decide)
  · rfl

/-- An object that has a member is read member by member. -/
theorem readValue?_members (fuel depth : Nat) (cs : List Char) :
    readValue? (fuel + 1) (depth + 1) ('\x7b' :: '"' :: cs) =
      (readMembers? fuel depth ('"' :: cs)).map fun (ms, more) => (object ms, more) := by
  rw [readValue?, skipBlank_cons _ (by decide)]
  rfl

/-- Reading a value takes some fuel, and the text of every value is long enough to say so. -/
theorem readsBack_of_succ {v : Json} (hne : v.printChars ≠ [])
    (h : ∀ (fuel depth : Nat) (rest : List Char), v.printChars.length ≤ fuel + 1 → v.depth ≤ depth →
      EndsNumber rest → readValue? (fuel + 1) depth (v.printChars ++ rest) = some (v.normal, rest)) :
    ReadsBack v := by
  intro fuel depth rest hfuel hdepth hrest
  cases fuel with
  | zero => exact absurd (List.eq_nil_of_length_eq_zero (Nat.le_zero.mp hfuel)) hne
  | succ fuel => exact h fuel depth rest hfuel hdepth hrest

theorem readsBack_int {z : Int} (hmin : -2 ^ 63 ≤ z) (hmax : z < 2 ^ 64) : ReadsBack (int z) := by
  obtain ⟨c, cs, hcons, hc⟩ := exists_ofInt_eq_cons z
  refine readsBack_of_succ (by rw [printChars, hcons]; exact List.cons_ne_nil c cs) ?_
  intro fuel depth rest _ _ hrest
  rw [printChars, hcons, List.cons_append, readValue?_of_numeric _ _ _ hc, ← List.cons_append, ← hcons,
    readNumber?_ofInt hmin hmax hrest]
  rfl

theorem readsBack_string (s : String) : ReadsBack (string s) := by
  refine readsBack_of_succ (List.cons_ne_nil _ _) ?_
  intro fuel depth rest _ _ _
  rw [printChars, printText_append, readValue?, skipBlank_cons _ (by decide)]
  simp only [readText?_of_printText, Option.map_some, String.ofList_toList]
  rfl

theorem readsBack_array {items : List Json} (hexact : ∀ v ∈ items, v.Exact)
    (h : ∀ v ∈ items, ReadsBack v) : ReadsBack (array items) := by
  refine readsBack_of_succ (List.cons_ne_nil _ _) ?_
  intro fuel depth rest hfuel hdepth _
  cases depth with
  | zero => exact absurd hdepth (Nat.not_succ_le_zero _)
  | succ depth =>
    cases items with
    | nil => rfl
    | cons v items =>
      have hread := readItems?_printItems rest h (List.cons_ne_nil _ _)
        (Nat.le_of_succ_le_succ hfuel) (Nat.le_of_succ_le_succ hdepth)
      obtain ⟨c, cs, hcons, hc⟩ := (hexact v List.mem_cons_self).exists_printItems_eq_cons items
      rw [printChars, List.cons_append, hcons, List.cons_append, readValue?_items _ _ _ hc,
        ← List.cons_append, ← hcons, hread]
      rfl

theorem readsBack_members {ms : List (String × Json)} (h : ∀ m ∈ ms, ReadsBack m.2) :
    ReadsBack (members ms) := by
  refine readsBack_of_succ (List.cons_ne_nil _ _) ?_
  intro fuel depth rest hfuel hdepth _
  cases depth with
  | zero => exact absurd hdepth (Nat.not_succ_le_zero _)
  | succ depth =>
    cases ms with
    | nil => rfl
    | cons m ms =>
      have hread := readMembers?_printMembers rest h (List.cons_ne_nil _ _)
        (Nat.le_of_succ_le_succ hfuel) (Nat.le_of_succ_le_succ hdepth)
      obtain ⟨cs, hcons⟩ := exists_printMembers_eq_cons m ms
      rw [printChars, List.cons_append, hcons, List.cons_append, readValue?_members,
        ← List.cons_append, ← hcons, hread]
      rfl

/-- **Every value with exact numbers is read back**, in its normal form and from the middle of any text. -/
theorem Exact.readsBack {v : Json} (h : v.Exact) : ReadsBack v := by
  induction h with
  | null => exact readsBack_of_succ (List.cons_ne_nil _ _) fun _ _ _ _ _ _ => rfl
  | bool b => cases b <;> exact readsBack_of_succ (List.cons_ne_nil _ _) fun _ _ _ _ _ _ => rfl
  | int hmin hmax => exact readsBack_int hmin hmax
  | string s => exact readsBack_string s
  | array hexact ih => exact readsBack_array hexact ih
  | members _ ih => exact readsBack_members ih

theorem parseWithin?_print {v : Json} {depth : Nat} (h : v.Exact) (hdepth : v.depth ≤ depth) :
    parseWithin? depth v.print = some v.normal := by
  have hread := h.readsBack (2 * v.printChars.length + 2) depth [] (by omega) hdepth endsNumber_nil
  rw [List.append_nil] at hread
  rw [parseWithin?, print, String.toList_ofList, hread]
  rfl

/-- **A written value is read back from its bytes.** -/
theorem decode?_encode {v : Json} (h : v.Exact) (hdepth : v.depth ≤ maxDepth) :
    decode? v.encode = some v.normal := by
  rw [decode?, encode, Utf8.decode?_encode, Option.bind_some]
  exact parseWithin?_print h hdepth

end TaskQueue.Json
