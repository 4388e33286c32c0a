import TaskQueue.Proofs.Key.Separation
import TaskQueue.Proofs.Settings.Composition
import TaskQueue.Text.Pieces

/-!
# Keys of one queue

Within a queue the key of a guard stands for a type and a payload.  The type is free text and may hold colons
and digests itself, but the digest of the payload, or nothing in its place, comes after the last colon, so
type and digest are read back from the key.  The other keys of the queue differ from the guards' and from
each other in the first character behind the queue's name.

Principal results: `Key.guardTail_inj` — type and payload read back from a guard's key; `Key.Place.key_inj_iff` —
which places of a queue have one key; `same_key_iff_duplicate` — the guards of two tasks have one key exactly
if one task is a duplicate of the other, whatever else their options say.
-/

set_option autoImplicit false

namespace TaskQueue

open Text

namespace Key

/-- Two payloads that a guard does not tell apart: both are empty, or neither is and their digests are the
same. -/
def SamePayload (payload payload' : Bytes) : Prop :=
  (payload = [] ∧ payload' = []) ∨
    (payload ≠ [] ∧ payload' ≠ [] ∧ Md5.digest payload = Md5.digest payload')

/-! ## The part of a key that stands for the payload -/

theorem checksum_of_ne_nil {payload : Bytes} (h : payload ≠ []) :
    checksum payload = (Md5.digest payload).hex := by
  rw [checksum, if_neg (by simpa using h)]

theorem hex_ne_empty (h : Md5.Digest) : h.hex ≠ "" := by
  simp [Md5.Digest.hex, Md5.Digest.bytes, Md5.littleEndian, Hex.ofBytes, Hex.ofByte]

theorem checksum_eq_iff {payload payload' : Bytes} :
    checksum payload = checksum payload' ↔ SamePayload payload payload' := by
  unfold SamePayload
  by_cases hp : payload = [] <;> by_cases hp' : payload' = []
  · simp [hp, hp']
  · rw [hp, checksum_of_ne_nil hp']
    simp [checksum, hp', (hex_ne_empty _).symm]
  · rw [hp', checksum_of_ne_nil hp]
    simp [checksum, hp, hex_ne_empty]
  · simp [hp, hp', checksum_of_ne_nil hp, checksum_of_ne_nil hp', Md5.Digest.hex_inj]

/-- A digest has no colon in it. -/
theorem colon_not_mem_checksum (payload : Bytes) : ':' ∉ (checksum payload).toList := by
  by_cases hp : payload = []
  · simp [hp, checksum]
  · intro hmem
    rw [checksum_of_ne_nil hp, Md5.Digest.hex, String.toList_ofList] at hmem
    exact absurd (Hex.isSome_value?_of_mem_ofBytes hmem) (by decide)

/-- **Type and payload are read back from what stands for them in a key**: the last colon is between them. -/
theorem guardTail_inj {typeName typeName' : String} {payload payload' : Bytes} :
    typeName ++ ":" ++ checksum payload = typeName' ++ ":" ++ checksum payload' ↔
      typeName = typeName' ∧ SamePayload payload payload' := by
  rw [← checksum_eq_iff]
  constructor
  · intro h
    have hcut := cutLast?_append (colon_not_mem_checksum payload) typeName.toList
    have hcut' := cutLast?_append (colon_not_mem_checksum payload') typeName'.toList
    have hlist : typeName.toList ++ ':' :: (checksum payload).toList =
        typeName'.toList ++ ':' :: (checksum payload').toList := by
      simpa using congrArg String.toList h
    rw [hlist, hcut', Option.some.injEq, Prod.mk.injEq] at hcut
    exact ⟨(String.toList_inj.mp hcut.1).symm, (String.toList_inj.mp hcut.2).symm⟩
  · rintro ⟨rfl, hsum⟩
    rw [hsum]

/-! ## Places of one queue -/

/-- Two places of a queue with one key: guards of one type for payloads that are not told apart, or one
place. -/
def Place.Same : Place → Place → Prop
  | guard typeName payload, guard typeName' payload' =>
    typeName = typeName' ∧ SamePayload payload payload'
  | p, p' => p = p'

/-- The first character behind the name of the queue, which shows what kind of place it is. -/
def Place.initial : Place → Char
  | task _ => 't'
  | pending => 'p'
  | scheduled => 's'
  | guard _ _ => 'u'

theorem Place.head?_tail (p : Place) : p.tail.toList.head? = some p.initial := by
  cases p <;> simp [tail, initial]

theorem Place.initial_eq_of_tail_eq {p p' : Place} (h : p.tail = p'.tail) : p.initial = p'.initial := by
  rw [← Option.some.injEq, ← head?_tail, h, head?_tail]

theorem Place.Same.initial_eq {p p' : Place} (h : p.Same p') : p.initial = p'.initial := by
  cases p <;> cases p' <;> first | rfl | cases h

theorem Place.tail_inj_iff (p p' : Place) : p.tail = p'.tail ↔ p.Same p' := by
  by_cases hinitial : p.initial = p'.initial
  · cases p <;> cases p' <;> simp only [initial, Char.reduceEq] at hinitial
    case task.task id id' => simp [tail, Same]
    case pending.pending => exact iff_of_true rfl rfl
    case scheduled.scheduled => exact iff_of_true rfl rfl
    case guard.guard typeName payload typeName' payload' =>
      rw [Same, ← guardTail_inj]
      simp only [tail, String.append_assoc, String.append_right_inj]
  · exact iff_of_false (fun h => hinitial (initial_eq_of_tail_eq h)) fun h => hinitial h.initial_eq

/-- **Which places of a queue have one key.** -/
theorem Place.key_inj_iff (queue : String) (p p' : Place) :
    p.key queue = p'.key queue ↔ p.Same p' := by
  rw [key_eq, key_eq, String.append_right_inj, tail_inj_iff]

end Key

/-! ## Records of tasks with a guard -/

/-- A record of a task that has a guard in a queue: options of any kind compose, at any time, to that queue and
to some time for which duplicates are refused. -/
inductive Task.GuardedRecord (task : Task) (queue : String) : Record → Prop where
  | of_options {opts : List TaskOption} {now : Instant} {id : String} {s : Settings} {ttl : Span}
      (hs : Settings.compose now (.initial now id) opts = .ok s) (hqueue : s.queue = queue)
      (hlast : TaskOption.last? .uniqueness opts = some (.unique ttl)) (hpos : 0 < ttl.nanos) :
      GuardedRecord task queue (Record.ofTask task s)

theorem Settings.effectiveUniqueTtl_of_last? {opts : List TaskOption} {now : Instant} {id : String}
    {s : Settings} {ttl : Span} (hs : compose now (initial now id) opts = .ok s)
    (hlast : TaskOption.last? .uniqueness opts = some (.unique ttl)) (hpos : 0 < ttl.nanos) :
    s.effectiveUniqueTtl = some ttl := by
  have hheld : s.uniqueTtl = some ttl := (compose_eq_ok_iff.mp hs).2.decided _ _ hlast
  rw [effectiveUniqueTtl, hheld, Option.filter_some, Span.isZero_eq_false_iff.mpr hpos]
  rfl

theorem Task.GuardedRecord.uniqueKey_eq {task : Task} {queue : String} {r : Record}
    (h : task.GuardedRecord queue r) :
    r.uniqueKey = (Key.Place.guard task.typeName task.payload).key queue := by
  obtain ⟨hs, rfl, hlast, hpos⟩ := h
  exact Record.uniqueKey_ofTask (by rw [Settings.effectiveUniqueTtl_of_last? hs hlast hpos]; rfl)

/-- **Within a queue the keys of guards tell apart exactly what is no duplicate.**  Two tasks whose options
compose to the queue and to a guard, whatever else the options say and whenever they are composed, have one key
exactly if their types are the same and their payloads are both empty or both not empty and have one digest.  All
other places of the queue have keys of their own: a key of a guard is never that of a task, of the pending tasks
or of the scheduled tasks, none of these is another's, and different ids have different keys. -/
theorem same_key_iff_duplicate (queue : String) :
    (∀ (task task' : Task) (r r' : Record), task.GuardedRecord queue r → task'.GuardedRecord queue r' →
      (r.uniqueKey = r'.uniqueKey ↔
        task.typeName = task'.typeName ∧ Key.SamePayload task.payload task'.payload)) ∧
      ∀ p p' : Key.Place, p.key queue = p'.key queue ↔ p.Same p' := by
  refine ⟨?_, Key.Place.key_inj_iff queue⟩
  intro task task' r r' hr hr'
  rw [hr.uniqueKey_eq, hr'.uniqueKey_eq]
  exact Key.Place.key_inj_iff queue (.guard _ _) (.guard _ _)

/-- A greeting with a payload has one key under other options and at another time; and none that the type
`greet:` with the digest of that payload has without a payload. -/
theorem same_key_iff_duplicate_of_digest_in_type :
    let task : Task := ⟨"greet", Utf8.encode "hello", []⟩
    let task' : Task := ⟨"greet:5d41402abc4b2a76b9719d911017c592", [], []⟩
    ∃ r r' r'', task.GuardedRecord "critical" r ∧ task.GuardedRecord "critical" r' ∧
      task'.GuardedRecord "critical" r'' ∧ r ≠ r' ∧ r.uniqueKey = r'.uniqueKey ∧
      r.uniqueKey ≠ r''.uniqueKey := by
  intro task task'
  let late : Instant := ⟨60, 0, by decide, by decide, by decide, by decide⟩
  let minute : Span := .ofNanos (60 * nanosPerSecond)
  have hs : Settings.compose .epoch (.initial .epoch "1") [.queue "critical", .unique minute] = .ok _ :=
    Settings.compose_of_usable (by decide +kernel)
  have hs' : Settings.compose late (.initial late "2") [.unique minute, .queue "critical", .maxRetry 1,
      .deadline .epoch, .processIn minute, .retention minute, .unique .max, .timeout minute] = .ok _ :=
    Settings.compose_of_usable (by decide +kernel)
  have hr : task.GuardedRecord "critical" _ :=
    .of_options hs rfl rfl (by decide)
  have hr' : task.GuardedRecord "critical" _ := .of_options hs' rfl rfl (by decide)
  have hr'' : task'.GuardedRecord "critical" _ := .of_options hs rfl rfl (by decide)
  refine ⟨_, _, _, hr, hr', hr'', ?_, ?_, ?_⟩
  · intro h
    exact absurd (congrArg Record.id h) (by decide)
  · exact ((same_key_iff_duplicate "critical").1 task task _ _ hr hr').mpr
      ⟨rfl, Or.inr ⟨by decide, by decide, rfl⟩⟩
  · intro h
    have hsame := ((same_key_iff_duplicate "critical").1 task task' _ _ hr hr'').mp h
    exact absurd hsame.1 (by decide)

end TaskQueue
