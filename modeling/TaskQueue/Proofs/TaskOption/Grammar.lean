import TaskQueue.Error
import TaskQueue.Proofs.TaskOption.Rereading
import TaskQueue.Proofs.Time.Arithmetic

/-!
# The texts that are options

`TaskOption.Reads` is the grammar of option texts, by the shape of the text and not by the order in which
it is taken apart; `TaskOption.Refuses` lists the texts outside of it, with what is said of each.  A text is
stripped of white space at three places, and its value of a unit or of double quotes as well: `Strips` says of
each what is taken away.

Principal results: `OptionKind.read?_eq_some_iff` — the values of each kind; `TaskOption.reads_or_refuses` —
every text is in the grammar or is refused; `TaskOption.parse_iff_reads` — reading follows the grammar, and
every refusal is that of an option.
-/

set_option autoImplicit false

namespace TaskQueue

open Text

/-! ## Values -/

/-- Whole seconds below `2 ^ 64`, with or without the unit `s`. -/
inductive SpanText : List Char → Span → Prop
  | bare {cs : List Char} {n : Nat} {d : Span} :
      Decimal.Unsigned cs n → n < 2 ^ 64 → d.nanos = n * nanosPerSecond → SpanText cs d
  | withUnit {cs : List Char} {n : Nat} {d : Span} :
      Decimal.Unsigned cs n → n < 2 ^ 64 → d.nanos = n * nanosPerSecond → SpanText (cs ++ ['s']) d

/-- An RFC 3339 time, or a second counted from 1970-01-01T00:00:00Z that lies in the calendar. -/
inductive InstantText : List Char → Instant → Prop
  | rfc3339 {cs : List Char} {t : Instant} : Rfc3339.read? cs = some t → InstantText cs t
  | second {cs : List Char} {n : Int64} {t : Instant} :
      Decimal.Signed cs n.toInt → t.second = n.toInt → t.nano = 0 → InstantText cs t

/-- The values of a kind of option, and the option that each denotes. -/
inductive OptionKind.Denotes : OptionKind → List Char → TaskOption → Prop
  | maxRetry {value : List Char} {n : Int32} :
      Decimal.Signed value n.toInt → Denotes .maxRetry value (.maxRetry (max n 0))
  | queue {value text : List Char} :
      Strips (· = '"') value text → Denotes .queue value (.queue (String.ofList text))
  | taskId {value text : List Char} :
      Strips (· = '"') value text → Denotes .taskId value (.taskId (String.ofList text))
  | timeout {value : List Char} {d : Span} : SpanText value d → Denotes .timeout value (.timeout d)
  | deadline {value : List Char} {t : Instant} : InstantText value t → Denotes .deadline value (.deadline t)
  | unique {value : List Char} {d : Span} : SpanText value d → Denotes .unique value (.unique d)
  | processAt {value : List Char} {t : Instant} : InstantText value t → Denotes .processAt value (.processAt t)
  | processIn {value : List Char} {d : Span} : SpanText value d → Denotes .processIn value (.processIn d)
  | retention {value : List Char} {d : Span} : SpanText value d → Denotes .retention value (.retention d)

theorem dropEnd?_eq_some_iff {c : Char} {cs front : List Char} :
    dropEnd? c cs = some front ↔ cs = front ++ [c] := by
  constructor
  · intro h
    rw [dropEnd?, Option.ite_none_right_eq_some] at h
    obtain ⟨hlast, hfront⟩ := h
    obtain ⟨ys, rfl⟩ := List.getLast?_eq_some_iff.mp hlast
    rw [List.dropLast_concat] at hfront
    cases hfront
    rfl
  · rintro rfl
    exact dropEnd?_concat c front

theorem dropEnd?_eq_none_iff {c : Char} {cs : List Char} :
    dropEnd? c cs = none ↔ cs.getLast? ≠ some c := by
  rw [dropEnd?, ite_eq_right_iff]
  exact ⟨fun h hc => (by cases h hc), fun h hc => absurd hc h⟩

/-- No count ends with the unit: a text that is one has no unit to be taken away. -/
theorem not_unsigned_unit {front : List Char} {n : Nat} : ¬ Decimal.Unsigned (front ++ ['s']) n := by
  intro h
  generalize hcs : front ++ ['s'] = cs at h
  cases h with
  | bare h => exact absurd (h.isDigit_of_mem 's' (by rw [← hcs]; simp)) (by decide)
  | plus h =>
    cases front with
    | nil => cases hcs
    | cons a front =>
      injection hcs with _ hrest
      exact absurd (h.isDigit_of_mem 's' (by rw [← hrest]; simp)) (by decide)

theorem readSpan?_eq_some_iff {cs : List Char} {d : Span} : readSpan? cs = some d ↔ SpanText cs d := by
  rw [readSpan?, Option.bind_eq_some_iff]
  constructor
  · rintro ⟨n, hn, hd⟩
    obtain ⟨hlt, hnanos⟩ := Span.ofSeconds?_eq_some_iff.mp hd
    rw [Decimal.nat?_eq_some_iff] at hn
    cases hunit : dropEnd? 's' cs with
    | none =>
      rw [hunit] at hn
      exact .bare hn hlt hnanos
    | some front =>
      rw [hunit] at hn
      rw [dropEnd?_eq_some_iff.mp hunit]
      exact .withUnit hn hlt hnanos
  · intro h
    cases h with
    | @bare _ n _ hn hlt hnanos =>
      refine ⟨n, ?_, Span.ofSeconds?_eq_some_iff.mpr ⟨hlt, hnanos⟩⟩
      have hunit : dropEnd? 's' cs = none := by
        cases hfront : dropEnd? 's' cs with
        | none => rfl
        | some front =>
          rw [dropEnd?_eq_some_iff.mp hfront] at hn
          exact absurd hn not_unsigned_unit
      rw [hunit, Option.getD_none, Decimal.nat?_eq_some_iff.mpr hn]
    | @withUnit front n _ hn hlt hnanos =>
      refine ⟨n, ?_, Span.ofSeconds?_eq_some_iff.mpr ⟨hlt, hnanos⟩⟩
      rw [dropEnd?_concat, Option.getD_some, Decimal.nat?_eq_some_iff.mpr hn]

theorem Instant.ofSecond?_eq_some_iff {n : Int} {t : Instant} :
    Instant.ofSecond? n = some t ↔ t.second = n ∧ t.nano = 0 := by
  rw [Instant.ofSecond?]
  constructor
  · exact Instant.ofParts?_eq_some
  · rintro ⟨rfl, hnano⟩
    rw [← hnano]
    exact t.ofParts?_parts

theorem readInstant?_eq_some_iff {cs : List Char} {t : Instant} :
    readInstant? cs = some t ↔ InstantText cs t := by
  rw [readInstant?]
  constructor
  · intro h
    split at h
    · rename_i hread
      cases h
      exact .rfc3339 hread
    · obtain ⟨n, hn, ht⟩ := Option.bind_eq_some_iff.mp h
      obtain ⟨hsecond, hnano⟩ := Instant.ofSecond?_eq_some_iff.mp ht
      exact .second (Decimal.int64?_eq_some_iff.mp hn) hsecond hnano
  · intro h
    cases h with
    | rfc3339 h => rw [h]
    | second hn hsecond hnano =>
      simp only [Rfc3339.read?_of_signed hn, Decimal.int64?_eq_some_iff.mpr hn, Option.bind_some]
      exact Instant.ofSecond?_eq_some_iff.mpr ⟨hsecond, hnano⟩

theorem retries_eq (n : Int32) : TaskOption.retries n = .maxRetry (max n 0) := by
  have hmax : max n 0 = if n < 0 then 0 else n := by
    show (if n ≤ 0 then 0 else n) = if n < 0 then 0 else n
    split
    · rename_i hle
      rcases Int32.lt_or_eq_of_le hle with hlt | rfl
      · rw [if_pos hlt]
      · rfl
    · rename_i hle
      rw [if_neg fun hlt => hle (Int32.le_of_lt hlt)]
  rw [TaskOption.retries, hmax]

theorem unquote_of_strips {value text : List Char} (h : Strips (· = '"') value text) :
    unquote value = String.ofList text := by
  rw [unquote, trimBoth_eq_iff.mpr h]

/-- **The values of a kind** are those that it reads, each as the option that it denotes. -/
theorem OptionKind.read?_eq_some_iff {k : OptionKind} {value : List Char} {o : TaskOption} :
    k.read? value = some o ↔ k.Denotes value o := by
  constructor
  · intro h
    cases k with
    | maxRetry =>
      obtain ⟨n, hn, rfl⟩ := Option.map_eq_some_iff.mp h
      rw [retries_eq]
      exact .maxRetry (Decimal.int32?_eq_some_iff.mp hn)
    | queue =>
      cases h
      exact .queue (trimBoth_eq_iff.mp rfl)
    | taskId =>
      cases h
      exact .taskId (trimBoth_eq_iff.mp rfl)
    | timeout | unique | processIn | retention =>
      obtain ⟨d, hd, rfl⟩ := Option.map_eq_some_iff.mp h
      constructor
      exact readSpan?_eq_some_iff.mp hd
    | deadline | processAt =>
      obtain ⟨t, ht, rfl⟩ := Option.map_eq_some_iff.mp h
      constructor
      exact readInstant?_eq_some_iff.mp ht
  · intro h
    cases h with
    | maxRetry h => rw [read?, Decimal.int32?_eq_some_iff.mpr h, Option.map_some, retries_eq]
    | queue h | taskId h => rw [read?, unquote_of_strips h]
    | timeout h | unique h | processIn h | retention h =>
      rw [read?, readSpan?_eq_some_iff.mpr h, Option.map_some]
    | deadline h | processAt h => rw [read?, readInstant?_eq_some_iff.mpr h, Option.map_some]

/-! ## Names -/

theorem OptionKind.ofName?_eq_some_iff {word : String} {k : OptionKind} :
    ofName? word = some k ↔ k.name = word := by
  constructor
  · intro h
    rw [ofName?] at h
    exact eq_of_beq (List.find?_some (p := fun k : OptionKind => k.name == word) h)
  · rintro rfl
    exact ofName?_name k

theorem OptionKind.ofName?_eq_none_iff {word : String} :
    ofName? word = none ↔ ∀ k : OptionKind, k.name ≠ word := by
  rw [Option.eq_none_iff_forall_ne_some]
  exact forall_congr' fun k => not_congr ofName?_eq_some_iff

/-! ## Texts -/

namespace TaskOption

/-- **The grammar of option texts.** -/
inductive Reads (s : String) : TaskOption → Prop
  | known {value : List Char} {k : OptionKind} {o : TaskOption} :
      Parts s k.name.toList value → k.Denotes value o → Reads s o
  | other {name value : List Char} :
      Parts s name value → (∀ k : OptionKind, k.name.toList ≠ name) → IsWord name →
        Reads s (.unrecognized (String.ofList name) (String.ofList value))

/-- The texts that are no options, and what is wrong with each. -/
inductive Refuses (s : String) : OptionFault → Prop
  | noValue {text : List Char} :
      Strips isBlank s.toList text → '(' ∉ text → Refuses s (.noValue (String.ofList text))
  | unclosed {text front rest : List Char} :
      Strips isBlank s.toList text → text = front ++ '(' :: rest → '(' ∉ front → rest.getLast? ≠ some ')' →
        Refuses s (.unclosed (String.ofList text))
  | badValue {value : List Char} {k : OptionKind} :
      Parts s k.name.toList value → (∀ o, ¬ k.Denotes value o) →
        Refuses s (.badValue k.name (String.ofList value))
  | badName {name value : List Char} :
      Parts s name value → (∀ k : OptionKind, k.name.toList ≠ name) → ¬ IsWord name →
        Refuses s (.badName (String.ofList name))

variable {s : String} {o : TaskOption} {name value text : List Char}

theorem splitOpen?_eq_none (h : '(' ∉ text) : splitOpen? text = none := by
  have hall : ∀ c ∈ text, decide (c ≠ '(') = true := fun c hc =>
    decide_eq_true (List.forall_mem_ne'.mpr h c hc)
  rw [splitOpen?, ← List.append_nil text, List.dropWhile_append_of_pos hall]
  rfl

theorem ofParts_of_other (h : ∀ k : OptionKind, k.name.toList ≠ name) :
    ofParts name value =
      if IsWord name then .ok (.unrecognized (String.ofList name) (String.ofList value))
      else .error (.badName (String.ofList name)) := by
  have hkind : OptionKind.ofName? (String.ofList name) = none :=
    OptionKind.ofName?_eq_none_iff.mpr fun k hk => h k (by rw [hk, String.toList_ofList])
  rw [ofParts, hkind]
  by_cases hword : IsWord name
  · rw [if_pos hword]
    exact if_pos (isWord_iff.mp hword)
  · rw [if_neg hword]
    exact if_neg (mt isWord_iff.mpr hword)

/-- **The grammar is followed.** -/
theorem parse_of_reads (h : Reads s o) : parse s = .ok o := by
  cases h with
  | known hparts hvalue =>
    rw [parse_of_parts hparts, ofParts_name, OptionKind.read?_eq_some_iff.mpr hvalue]
  | other hparts hkind hword => rw [parse_of_parts hparts, ofParts_of_other hkind, if_pos hword]

/-- **A text outside of the grammar is refused** with what is wrong with it. -/
theorem parse_of_refuses {f : OptionFault} (h : Refuses s f) : parse s = .error f := by
  cases h with
  | noValue htext hopen =>
    rw [parse, trim, trimBoth_eq_iff.mpr htext]
    simp only [splitOpen?_eq_none hopen]
  | unclosed htext heq hopen hclose =>
    subst heq
    rw [parse, trim, trimBoth_eq_iff.mpr htext]
    simp only [splitOpen?_append (List.forall_mem_ne'.mpr hopen), dropEnd?_eq_none_iff.mpr hclose]
  | @badValue value k hparts hvalue =>
    have hread : k.read? value = none :=
      Option.eq_none_iff_forall_ne_some.mpr fun o ho => hvalue o (OptionKind.read?_eq_some_iff.mp ho)
    rw [parse_of_parts hparts, ofParts_name, hread]
  | badName hparts hkind hword => rw [parse_of_parts hparts, ofParts_of_other hkind, if_neg hword]

/-- **Every text is in the grammar or is refused.** -/
theorem reads_or_refuses (s : String) : (∃ o, Reads s o) ∨ ∃ f, Refuses s f := by
  have htext : Strips isBlank s.toList (trim s.toList) := trimBoth_eq_iff.mp rfl
  by_cases hopen : '(' ∈ trim s.toList
  swap
  · exact Or.inr ⟨_, .noValue htext hopen⟩
  obtain ⟨front, rest, heq, hfront⟩ := List.eq_append_cons_of_mem hopen
  by_cases hclose : rest.getLast? = some ')'
  swap
  · exact Or.inr ⟨_, .unclosed htext heq hfront hclose⟩
  obtain ⟨back, rfl⟩ := List.getLast?_eq_some_iff.mp hclose
  have hparts : Parts s (trim front) (trim back) :=
    ⟨htext, heq, hfront, trimBoth_eq_iff.mp rfl, trimBoth_eq_iff.mp rfl⟩
  by_cases hkind : ∃ k : OptionKind, k.name.toList = trim front
  · obtain ⟨k, hk⟩ := hkind
    rw [← hk] at hparts
    by_cases hvalue : ∃ o, k.Denotes (trim back) o
    · obtain ⟨o, ho⟩ := hvalue
      exact Or.inl ⟨o, .known hparts ho⟩
    · exact Or.inr ⟨_, .badValue hparts (not_exists.mp hvalue)⟩
  · by_cases hword : IsWord (trim front)
    · exact Or.inl ⟨_, .other hparts (not_exists.mp hkind) hword⟩
    · exact Or.inr ⟨_, .badName hparts (not_exists.mp hkind) hword⟩

theorem parse_eq_ok_iff : parse s = .ok o ↔ Reads s o := by
  refine ⟨fun h => ?_, parse_of_reads⟩
  rcases reads_or_refuses s with ⟨o', ho'⟩ | ⟨f, hf⟩
  · rw [parse_of_reads ho'] at h
    cases h
    exact ho'
  · rw [parse_of_refuses hf] at h
    cases h

theorem parse_eq_error_iff {f : OptionFault} : parse s = .error f ↔ Refuses s f := by
  refine ⟨fun h => ?_, parse_of_refuses⟩
  rcases reads_or_refuses s with ⟨o, ho⟩ | ⟨f', hf'⟩
  · rw [parse_of_reads ho] at h
    cases h
  · rw [parse_of_refuses hf'] at h
    cases h
    exact hf'

/-- **Reading follows the grammar**: a text is read as the option that the grammar says, and as no other, and
the error that a caller gets for any other text is that of an invalid option. -/
theorem parse_iff_reads (s : String) :
    (∀ o, parse s = .ok o ↔ Reads s o) ∧
    ∀ e, (parse s).mapError Error.invalidOption = .error e ↔ ∃ f, Refuses s f ∧ e = .invalidOption f := by
  refine ⟨fun o => parse_eq_ok_iff, fun e => ?_⟩
  simp only [← parse_eq_error_iff]
  cases parse s with
  | ok o => simp [Except.mapError]
  | error f => simp [Except.mapError, eq_comm]

/-- The unit is taken away once, and the sign of a count may be written. -/
example : parse " Timeout ( +060s ) " = .ok (.timeout ⟨60 * nanosPerSecond, by decide⟩) ∧
    parse "Timeout(60ss)" = .error (.badValue "Timeout" "60ss") :=
  ⟨by with_unfolding_all rfl, by with_unfolding_all rfl⟩

end TaskOption

end TaskQueue
