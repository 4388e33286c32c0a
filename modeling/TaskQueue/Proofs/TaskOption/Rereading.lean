import TaskQueue.Proofs.Text.Decimal
import TaskQueue.Proofs.Text.Quoted
import TaskQueue.Proofs.Time.Rfc3339
import TaskQueue.TaskOption.Parser
import TaskQueue.TaskOption.Printer

/-!
# Reading options that were printed

A printed option is cut into the name and the value it was made of, whatever the option.  Counts, lengths
and values without a meaning are read back then.  A quoted text is read as it was written, escapes and all,
and a time only in a year of four digits.

Principal results: `TaskOption.parse_print` — what is read from the print of an option that was itself read;
`TaskOption.reread_iff_prints_plainly` — it is the same option exactly when its text is written as it is and
its year has four digits; `TaskOption.not_always_reread` — not all options that are read are of that form;
`TaskOption.parse_print_eq_cut` — any other option that is no free text is read from its print, cut to whole
seconds.
-/

set_option autoImplicit false

namespace TaskQueue

open Text

/-! ## The parts of an option text -/

/-- No character between two visible ASCII characters is white space. -/
theorem not_isBlank_of_between {a b c : Char} (ha : 0x20 < a.toNat) (hb : b.toNat < 0x7F)
    (h : a ≤ c ∧ c ≤ b) : isBlank c = false := by
  have hlow : 0x20 < c.toNat := Nat.lt_of_lt_of_le ha h.1
  have hhigh : c.toNat < 0x7F := Nat.lt_of_le_of_lt h.2 hb
  simp only [isBlank, inRanges, blankRanges, List.any_cons, List.any_nil, Bool.or_false,
    Bool.or_eq_false_iff, Bool.and_eq_false_iff, decide_eq_false_iff_not]
  omega

theorem not_isBlank_of_isDigit {c : Char} (h : Decimal.isDigit c = true) : isBlank c = false := by
  rw [Decimal.isDigit, Bool.and_eq_true, decide_eq_true_eq, decide_eq_true_eq] at h
  exact not_isBlank_of_between (by decide) (by decide) h

theorem not_isBlank_of_isWordChar {c : Char} (h : isWordChar c = true) : isBlank c = false := by
  simp only [isWordChar, Bool.or_eq_true, Bool.and_eq_true, decide_eq_true_eq] at h
  rcases h with (h | h) | h
  · exact not_isBlank_of_isDigit h
  · exact not_isBlank_of_between (by decide) (by decide) h
  · exact not_isBlank_of_between (by decide) (by decide) h

theorem splitOpen?_append {name : List Char} (h : ∀ c ∈ name, c ≠ '(') (rest : List Char) :
    splitOpen? (name ++ '(' :: rest) = some (name, rest) := by
  have hall : ∀ c ∈ name, decide (c ≠ '(') = true := fun c hc => decide_eq_true (h c hc)
  rw [splitOpen?, List.dropWhile_append_of_pos hall, List.dropWhile_cons_of_neg (by decide),
    List.takeWhile_append_of_pos hall, List.takeWhile_cons_of_neg (by decide), List.append_nil]

theorem dropEnd?_concat (c : Char) (cs : List Char) : dropEnd? c (cs ++ [c]) = some cs := by
  rw [dropEnd?, List.getLast?_concat, if_pos rfl, List.dropLast_concat]

/-- The parts of an option text: what stands before its first opening parenthesis, and what stands between
that and the closing one at its end, all without the white space around it. -/
inductive Parts (s : String) : List Char → List Char → Prop
  | intro {text front back name value : List Char} :
      Strips isBlank s.toList text → text = front ++ '(' :: (back ++ [')']) → '(' ∉ front →
        Strips isBlank front name → Strips isBlank back value → Parts s name value

/-- A word of ASCII letters and digits, as it names an option. -/
structure IsWord (name : List Char) : Prop where
  ne_nil : name ≠ []
  chars : ∀ c ∈ name, isWordChar c = true

theorem isWord_iff {name : List Char} :
    IsWord name ↔ (!name.isEmpty && name.all isWordChar) = true := by
  rw [Bool.and_eq_true, List.all_eq_true, Bool.not_eq_true', List.isEmpty_eq_false_iff]
  exact ⟨fun h => ⟨h.ne_nil, h.chars⟩, fun h => ⟨h.1, h.2⟩⟩

instance (name : List Char) : Decidable (IsWord name) := decidable_of_iff _ isWord_iff.symm

theorem OptionKind.isWord_name (k : OptionKind) : IsWord k.name.toList := by
  cases k <;> exact ⟨by decide, List.all_eq_true.mp (by decide)⟩

namespace TaskOption

/-- A text with its parts is read by them. -/
theorem parse_of_parts {s : String} {name value : List Char} (h : Parts s name value) :
    parse s = ofParts name value := by
  obtain ⟨htext, rfl, hfront, hname, hvalue⟩ := h
  rw [parse, trim, trimBoth_eq_iff.mpr htext]
  simp only [splitOpen?_append (List.forall_mem_ne'.mpr hfront), dropEnd?_concat, trim,
    trimBoth_eq_iff.mpr hname, trimBoth_eq_iff.mpr hvalue]

/-- **A text is cut into the name and the value it was made of.** -/
theorem parse_parts {name value : List Char} (hname : IsWord name) (hvalue : Trimmed isBlank value) :
    parse (String.ofList (name ++ '(' :: value ++ [')'])) = ofParts name value := by
  have hopen : '(' ∉ name := fun h => absurd (hname.chars '(' h) (by decide)
  have hblank : Trimmed isBlank name :=
    trimmed_of_forall fun c hc => not_isBlank_of_isWordChar (hname.chars c hc)
  have htext : Trimmed isBlank (name ++ '(' :: (value ++ [')'])) := by
    obtain ⟨first, others, rfl⟩ := List.exists_cons_of_ne_nil hname.ne_nil
    rw [← List.cons_append, ← List.append_assoc, List.cons_append]
    exact trimmed_cons_concat (hblank.head first rfl) (by decide) _
  rw [List.append_assoc, List.cons_append]
  exact parse_of_parts ⟨(String.toList_ofList ▸ htext.strips), rfl, hopen, hblank.strips, hvalue.strips⟩

theorem ofParts_name (k : OptionKind) (value : List Char) :
    ofParts k.name.toList value =
      match k.read? value with
      | some o => .ok o
      | none => .error (.badValue k.name (String.ofList value)) := by
  cases hread : k.read? value with
  | some o => simp [ofParts, OptionKind.ofName?_name, hread]
  | none => simp [ofParts, OptionKind.ofName?_name, hread]

/-! ## Options that were read -/

/-- What holds of an option that was read from a text: no count is negative, no text begins or ends with a
double quote, no length has a part of a second, and a word without a meaning is a word. -/
def IsRead : TaskOption → Prop
  | maxRetry n => 0 ≤ n
  | queue text | taskId text => Trimmed (· = '"') text.toList
  | timeout d | unique d | processIn d | retention d => d.truncate = d
  | deadline _ | processAt _ => True
  | unrecognized name value =>
    OptionKind.ofName? name = none ∧ IsWord name.toList ∧ Trimmed isBlank value.toList

theorem truncate_of_readSpan? {cs : List Char} {d : Span} (h : readSpan? cs = some d) : d.truncate = d := by
  obtain ⟨n, -, hn⟩ := Option.bind_eq_some_iff.mp h
  rw [Span.ofSeconds?] at hn
  split at hn
  · cases hn
    refine Span.ext ?_
    simp only [Span.truncate, Span.seconds]
    rw [Nat.mul_div_cancel n (by decide)]
  · cases hn

theorem trimmed_unquote (cs : List Char) : Trimmed (· = '"') (unquote cs).toList := by
  rw [unquote, String.toList_ofList]
  exact trimmed_trimBoth _ cs

theorem isRead_of_read? {k : OptionKind} {value : List Char} {o : TaskOption} (h : k.read? value = some o) :
    o.IsRead := by
  cases k with
  | maxRetry =>
    obtain ⟨n, -, rfl⟩ := Option.map_eq_some_iff.mp h
    show (0 : Int32) ≤ if n < 0 then 0 else n
    split
    · exact Int32.le_refl 0
    · rename_i hn
      exact Int32.not_lt.mp hn
  | queue | taskId =>
    cases h
    exact trimmed_unquote value
  | timeout | unique | processIn | retention =>
    obtain ⟨d, hd, rfl⟩ := Option.map_eq_some_iff.mp h
    exact truncate_of_readSpan? hd
  | deadline | processAt =>
    obtain ⟨t, -, rfl⟩ := Option.map_eq_some_iff.mp h
    exact trivial

theorem isRead_of_ofParts {name value : List Char} {o : TaskOption} (hvalue : Trimmed isBlank value)
    (h : ofParts name value = .ok o) : o.IsRead := by
  rw [ofParts] at h
  split at h
  · split at h
    · rename_i hread
      cases h
      exact isRead_of_read? hread
    · cases h
  · rename_i hkind
    split at h
    · rename_i hword
      cases h
      refine ⟨hkind, ?_, ?_⟩
      · rw [String.toList_ofList]
        exact isWord_iff.mpr hword
      · rw [String.toList_ofList]
        exact hvalue
    · cases h

theorem isRead_of_parse {s : String} {o : TaskOption} (h : parse s = .ok o) : o.IsRead := by
  rw [parse] at h
  split at h
  · cases h
  · split at h
    · cases h
    · exact isRead_of_ofParts (trimmed_trimBoth isBlank _) h

/-! ## Values that were printed -/

theorem trimmed_ofInt (z : Int) : Trimmed isBlank (Decimal.ofInt z) := by
  refine trimmed_of_forall fun c hc => ?_
  rw [Decimal.ofInt] at hc
  split at hc
  · rcases List.mem_cons.mp hc with rfl | hc
    · decide
    · exact not_isBlank_of_isDigit (Decimal.isDigit_of_mem_ofNat c hc)
  · exact not_isBlank_of_isDigit (Decimal.isDigit_of_mem_ofNat c hc)

theorem trimmed_printSpan (d : Span) : Trimmed isBlank (printSpan d) := by
  refine trimmed_of_forall fun c hc => ?_
  rcases List.mem_append.mp hc with hc | hc
  · exact not_isBlank_of_isDigit (Decimal.isDigit_of_mem_ofNat c hc)
  · rw [List.mem_singleton.mp hc]
    decide

theorem trimmed_print (t : Instant) : Trimmed isBlank (Rfc3339.print t) := by
  constructor
  · intro c hc
    by_cases hyear : Rfc3339.FourDigits (Rfc3339.dateOf t).year
    · rw [Rfc3339.print_eq hyear, Rfc3339.written, List.head?_append,
        Option.or_of_isSome (List.isSome_head?.mpr (Decimal.padded_ne_nil _ _))] at hc
      exact not_isBlank_of_isDigit (Decimal.isDigit_of_mem_padded c (List.mem_of_head? hc))
    · obtain ⟨sign, rest, hprint, hsign, -⟩ := Rfc3339.print_eq_of_signed hyear
      rw [hprint] at hc
      cases hc
      rcases hsign with rfl | rfl
      · decide
      · decide
  · intro c hc
    rw [Rfc3339.print, List.getLast?_append] at hc
    cases hc
    decide

theorem trimmed_printValue {o : TaskOption} (h : o.IsRead) : Trimmed isBlank o.printValue := by
  cases o with
  | maxRetry n => exact trimmed_ofInt n.toInt
  | queue text | taskId text => exact trimmed_cons_concat (by decide) (by decide) _
  | timeout d | unique d | processIn d | retention d => exact trimmed_printSpan d
  | deadline t | processAt t => exact trimmed_print t
  | unrecognized name value => exact h.2.2

/-- A printed length is read as its whole seconds. -/
theorem readSpan?_printSpan (d : Span) : readSpan? (printSpan d) = some d.truncate := by
  rw [readSpan?, printSpan, dropEnd?_concat, Option.getD_some, Decimal.nat?_ofNat, Option.bind_some,
    Span.ofSeconds?]
  exact dif_pos d.truncate.le_max

/-- A printed text is read as it was written. -/
theorem unquote_encode {text : String} (h : Trimmed (· = '"') text.toList) :
    unquote (Quoted.encode text.toList) = String.ofList (text.toList.flatMap Quoted.escape) := by
  rw [unquote, Quoted.trimBoth_encode fun c hc => of_decide_eq_false (h.last c hc)]

/-- A printed time is read exactly if its year has four digits. -/
theorem readInstant?_print (t : Instant) :
    readInstant? (Rfc3339.print t) =
      if Rfc3339.FourDigits (Rfc3339.dateOf t).year then some t else none := by
  by_cases hyear : Rfc3339.FourDigits (Rfc3339.dateOf t).year
  · rw [readInstant?, Rfc3339.read?_print hyear, if_pos hyear]
  · obtain ⟨hread, hnumber⟩ := Rfc3339.read?_print_of_signed hyear
    rw [readInstant?, hread, hnumber, if_neg hyear]
    rfl

/-! ## The second reading -/

/-- A text with each of its characters in its written form. -/
def escaped (text : String) : String := String.ofList (text.toList.flatMap Quoted.escape)

/-- What the print of an option that was read denotes, if anything. -/
def reread? (o : TaskOption) : Option TaskOption :=
  match o with
  | queue text => some (.queue (escaped text))
  | taskId text => some (.taskId (escaped text))
  | deadline t | processAt t => if Rfc3339.FourDigits (Rfc3339.dateOf t).year then some o else none
  | _ => some o

/-- Whether the print of an option says what the option is: its text is written as it is, or the year of its
time has four digits. -/
def PrintsPlainly : TaskOption → Prop
  | queue text | taskId text => ∀ c ∈ text.toList, Quoted.Plain c
  | deadline t | processAt t => Rfc3339.FourDigits (Rfc3339.dateOf t).year
  | _ => True

theorem printName_of_kind? {o : TaskOption} {k : OptionKind} (h : o.kind? = some k) :
    o.printName = k.name.toList := by
  cases o <;> cases h <;> rfl

/-- What a kind reads from the value that an option of this kind prints. -/
theorem read?_printValue {o : TaskOption} {k : OptionKind} (h : o.IsRead) (hk : o.kind? = some k) :
    k.read? o.printValue = o.reread? := by
  cases o with
  | maxRetry n =>
    cases hk
    rw [OptionKind.read?, printValue, Decimal.int32?_ofInt, Option.map_some, retries,
      if_neg (Int32.not_lt.mpr h)]
    rfl
  | queue text | taskId text =>
    cases hk
    rw [OptionKind.read?, printValue, unquote_encode h]
    rfl
  | timeout d | unique d | processIn d | retention d =>
    cases hk
    have hd : d.truncate = d := h
    rw [OptionKind.read?, printValue, readSpan?_printSpan, hd]
    rfl
  | deadline t | processAt t =>
    cases hk
    rw [OptionKind.read?, printValue, readInstant?_print, reread?]
    split
    · rfl
    · rfl
  | unrecognized name value => cases hk

/-- **What is read from the print of an option that was read**: an option of the same kind, or the refusal of
the printed value. -/
theorem parse_print {o : TaskOption} (h : o.IsRead) :
    parse o.print =
      match o.reread? with
      | some o' => .ok o'
      | none => .error (.badValue (String.ofList o.printName) (String.ofList o.printValue)) := by
  have hvalue := trimmed_printValue h
  cases hk : o.kind? with
  | some k =>
    have hname := printName_of_kind? hk
    rw [print, hname, parse_parts k.isWord_name hvalue, ofParts_name, read?_printValue h hk,
      String.ofList_toList]
  | none =>
    cases o with
    | unrecognized name value =>
      obtain ⟨hkind, hword, -⟩ := h
      rw [print, printName, parse_parts hword hvalue, printValue, ofParts, String.ofList_toList,
        String.ofList_toList, hkind]
      exact if_pos (isWord_iff.mp hword)
    | _ => cases hk

theorem escaped_eq_iff {text : String} : escaped text = text ↔ ∀ c ∈ text.toList, Quoted.Plain c := by
  rw [← Quoted.flatMap_escape_eq_self_iff, escaped]
  constructor
  · intro h
    rw [← String.toList_ofList (l := text.toList.flatMap Quoted.escape), h]
  · intro h
    rw [h, String.ofList_toList]

theorem reread?_eq_some_iff {o : TaskOption} : o.reread? = some o ↔ o.PrintsPlainly := by
  cases o with
  | queue text | taskId text =>
    rw [reread?, Option.some_inj, PrintsPlainly, ← escaped_eq_iff]
    constructor
    · intro h
      injection h
    · intro h
      rw [h]
  | deadline t | processAt t =>
    rw [reread?, PrintsPlainly]
    split
    · rename_i h
      exact ⟨fun _ => h, fun _ => rfl⟩
    · rename_i h
      exact ⟨fun hn => (by cases hn), fun hn => absurd hn h⟩
  | _ => exact ⟨fun _ => trivial, fun _ => rfl⟩

/-- **An option that was read is read from its print again exactly if it prints plainly.**  If it does not, a
text comes back as it was written, and the value of a time is refused. -/
theorem reread_iff_prints_plainly {s : String} {o : TaskOption} (h : parse s = .ok o) :
    (parse o.print =
      match o.reread? with
      | some o' => .ok o'
      | none => .error (.badValue (String.ofList o.printName) (String.ofList o.printValue))) ∧
    (parse o.print = .ok o ↔ o.PrintsPlainly) := by
  have hprint := parse_print (isRead_of_parse h)
  refine ⟨hprint, ?_⟩
  rw [hprint, ← reread?_eq_some_iff]
  cases o.reread? with
  | none => exact ⟨fun hn => (by cases hn), fun hn => (by cases hn)⟩
  | some o' => exact ⟨fun ho => (by cases ho; rfl), fun ho => (by cases ho; rfl)⟩

theorem reread_iff_prints_plainly_of_time :
    ∃ due : Instant, parse "ProcessAt(1700000000)" = .ok (.processAt due) ∧
      (processAt due).print = "ProcessAt(2023-11-14T22:13:20+00:00)" ∧
      parse (processAt due).print = .ok (.processAt due) := by
  have hread : parse "ProcessAt(1700000000)" =
      .ok (.processAt ⟨1700000000, 0, by decide, by decide, by decide, by decide⟩) := by
    with_unfolding_all rfl
  refine ⟨_, hread, by decide +kernel, (reread_iff_prints_plainly hread).2.mpr ?_⟩
  show Rfc3339.FourDigits _
  decide

/-- A text with a double quote inside comes back with a backslash in it, and the first second of the year
10000 does not come back at all. -/
theorem not_always_reread :
    (parse "Queue(a\"b)" = .ok (.queue "a\"b") ∧
      (queue "a\"b").print = "Queue(\"a\\\"b\")" ∧
      parse "Queue(\"a\\\"b\")" = .ok (.queue "a\\\"b")) ∧
    ∃ due : Instant, parse "ProcessAt(253402300800)" = .ok (.processAt due) ∧
      (processAt due).print = "ProcessAt(+10000-01-01T00:00:00+00:00)" ∧
      parse "ProcessAt(+10000-01-01T00:00:00+00:00)" =
        .error (.badValue "ProcessAt" "+10000-01-01T00:00:00+00:00") := by
  refine ⟨⟨by with_unfolding_all rfl, by decide +kernel, by with_unfolding_all rfl⟩,
    ⟨253402300800, 0, by decide, by decide, by decide, by decide⟩, by with_unfolding_all rfl,
    by decide +kernel, by with_unfolding_all rfl⟩

/-! ## Options that are no free text -/

/-- Whether an option is no free text and lies within what its print can say: its count is not negative, its
year has four digits, its word without a meaning can be read from some text. -/
def NotText : TaskOption → Prop
  | maxRetry n => 0 ≤ n
  | queue _ | taskId _ => False
  | timeout _ | unique _ | processIn _ | retention _ => True
  | deadline t | processAt t => Rfc3339.FourDigits (Rfc3339.dateOf t).year
  | unrecognized name value => ∃ s, parse s = .ok (.unrecognized name value)

/-- An option with its length cut to whole seconds. -/
def cut : TaskOption → TaskOption
  | timeout d => .timeout d.truncate
  | unique d => .unique d.truncate
  | processIn d => .processIn d.truncate
  | retention d => .retention d.truncate
  | o => o

theorem printSpan_truncate (d : Span) : printSpan d.truncate = printSpan d := by
  have hseconds : d.truncate.seconds = d.seconds := Nat.mul_div_cancel _ (by decide)
  rw [printSpan, printSpan, hseconds]

theorem print_cut (o : TaskOption) : o.cut.print = o.print := by
  have hvalue : o.cut.printValue = o.printValue := by
    cases o with
    | timeout d | unique d | processIn d | retention d => exact printSpan_truncate d
    | _ => rfl
  have hname : o.cut.printName = o.printName := by cases o <;> rfl
  rw [print, print, hvalue, hname]

theorem truncate_truncate (d : Span) : d.truncate.truncate = d.truncate :=
  truncate_of_readSpan? (readSpan?_printSpan d)

theorem isRead_cut {o : TaskOption} (h : o.NotText) : o.cut.IsRead := by
  cases o with
  | maxRetry n => exact h
  | queue text | taskId text => exact h.elim
  | timeout d | unique d | processIn d | retention d => exact truncate_truncate d
  | deadline t | processAt t => exact trivial
  | unrecognized name value =>
    obtain ⟨s, hs⟩ := h
    exact isRead_of_parse hs

theorem printsPlainly_cut {o : TaskOption} (h : o.NotText) : o.cut.PrintsPlainly := by
  cases o with
  | queue text | taskId text => exact h.elim
  | deadline t | processAt t => exact h
  | _ => exact trivial

/-- **An option that is no free text is read from its print, cut to whole seconds.**  Cutting changes nothing
of what is printed, and the option that was cut is one that is read. -/
theorem parse_print_eq_cut {o : TaskOption} (h : o.NotText) : parse o.print = .ok o.cut := by
  have hreread : o.cut.reread? = some o.cut := reread?_eq_some_iff.mpr (printsPlainly_cut h)
  rw [← print_cut, parse_print (isRead_cut h), hreread]

/-- The last half second of the leap second of 2016, and the longest span. -/
theorem parse_print_eq_cut_of_extremes :
    (∃ due : Instant, due.isLeap = true ∧
      (deadline due).print = "Deadline(2016-12-31T23:59:60.500+00:00)" ∧
      parse (deadline due).print = .ok (.deadline due)) ∧
    (timeout Span.max).print = "Timeout(18446744073709551615s)" ∧
    parse (timeout Span.max).print = .ok (.timeout Span.max.truncate) ∧
    Span.max.truncate ≠ Span.max := by
  refine ⟨⟨⟨1483228799, 1500000000, by decide, by decide, by decide, by decide⟩, rfl, by decide +kernel,
    parse_print_eq_cut ?_⟩, by decide +kernel, parse_print_eq_cut trivial, by decide⟩
  exact Rfc3339.fourDigits_year_iff.mpr ⟨by decide, by decide⟩

end TaskOption

end TaskQueue
