import TaskQueue.Record
import TaskQueue.Record.Varint
import TaskQueue.Text.Utf8

/-!
# The wire form of records

A record is written as its fields in ascending order of their numbers, each as a key (number and wire
type) and a value; a field with its default value is left out.  A reader takes fields in any order,
the last of a number wins, and fields of other numbers are passed over, groups included.

Model of the proto3 form of `TaskMessage`, as the library that generates it from the fields' tags writes and
reads it.

Principal definitions: `Record.fields` (the fields that are written), `Record.encode`,
`Record.size` (the length of the wire form, computed without writing it), `Record.encodeInto` (writing
into a buffer of limited room) and `Record.decode`.
-/

set_option autoImplicit false

namespace TaskQueue

/-- How the value of a field is delimited on the wire. -/
inductive WireType where
  | varint
  | sixtyFourBit
  | lengthDelimited
  | startGroup
  | endGroup
  | thirtyTwoBit
  deriving DecidableEq, Repr

namespace WireType

/-- The number of a wire type in a key. -/
def code : WireType → Nat
  | varint => 0
  | sixtyFourBit => 1
  | lengthDelimited => 2
  | startGroup => 3
  | endGroup => 4
  | thirtyTwoBit => 5

/-- The wire type of a number. -/
def ofCode? : Nat → Option WireType
  | 0 => some varint
  | 1 => some sixtyFourBit
  | 2 => some lengthDelimited
  | 3 => some startGroup
  | 4 => some endGroup
  | 5 => some thirtyTwoBit
  | _ => none

/-- The name of a wire type in messages. -/
def name : WireType → String
  | varint => "Varint"
  | sixtyFourBit => "SixtyFourBit"
  | lengthDelimited => "LengthDelimited"
  | startGroup => "StartGroup"
  | endGroup => "EndGroup"
  | thirtyTwoBit => "ThirtyTwoBit"

theorem ofCode?_code (w : WireType) : ofCode? w.code = some w := by cases w <;> rfl

end WireType

/-- Why bytes are not the wire form of a record. -/
inductive WireFault where
  /-- A number that does not end, is too long or too large. -/
  | badVarint
  /-- A key of more than 32 bits. -/
  | badKey (key : Nat)
  /-- A wire type that does not exist. -/
  | badWireType (code : Nat)
  /-- Field number zero. -/
  | badNumber
  /-- A value that is longer than the bytes that are left. -/
  | underflow
  /-- A known field with a wire type that is not its own. -/
  | wrongType (actual expected : WireType)
  /-- A text that is not UTF-8. -/
  | notText
  /-- The end of a group that was not begun. -/
  | strayEnd
  /-- Groups inside groups beyond the limit. -/
  | tooDeep
  deriving DecidableEq, Repr

/-- A fault and, if it lies in the value of a known field, the label of that field. -/
structure DecodeFault where
  field : Option String
  fault : WireFault
  deriving DecidableEq, Repr

/-- A buffer without enough room for a record. -/
structure CapacityFault where
  required : Nat
  remaining : Nat
  deriving DecidableEq, Repr

/-- A field of a record with its value. -/
inductive Field where
  | typeName (text : String)
  | payload (bytes : Bytes)
  | id (text : String)
  | queue (text : String)
  | retry (n : Int32)
  | retried (n : Int32)
  | errorText (text : String)
  | timeout (n : Int64)
  | deadline (n : Int64)
  | uniqueKey (text : String)
  | lastFailedAt (n : Int64)
  | retention (n : Int64)
  | completedAt (n : Int64)
  deriving DecidableEq, Repr

/-- The value of a field as it stands on the wire. -/
inductive WireValue where
  | varint (n : Nat)
  | delimited (bytes : Bytes)
  deriving DecidableEq, Repr

namespace WireValue

/-- The value of a text. -/
def ofText (s : String) : WireValue := delimited (Text.Utf8.encode s)

/-- The value of a word: its bits as an unsigned number. -/
def ofInt64 (n : Int64) : WireValue := varint n.toUInt64.toNat

/-- The value of a half word: it is extended to a word first. -/
def ofInt32 (n : Int32) : WireValue := ofInt64 n.toInt64

/-- The wire type of a value. -/
def wireType : WireValue → WireType
  | varint _ => .varint
  | delimited _ => .lengthDelimited

/-- The bytes of a value. -/
def write : WireValue → Bytes
  | varint n => Varint.write n
  | delimited bs => Varint.write bs.length ++ bs

/-- The number of bytes of a value. -/
def size : WireValue → Nat
  | varint n => Varint.size n
  | delimited bs => Varint.size bs.length + bs.length

end WireValue

namespace Field

/-- The number of a field. -/
def number : Field → Nat
  | typeName _ => 1
  | payload _ => 2
  | id _ => 3
  | queue _ => 4
  | retry _ => 5
  | retried _ => 6
  | errorText _ => 7
  | timeout _ => 8
  | deadline _ => 9
  | uniqueKey _ => 10
  | lastFailedAt _ => 11
  | retention _ => 12
  | completedAt _ => 13

/-- The value of a field on the wire. -/
def value : Field → WireValue
  | typeName s => .ofText s
  | payload bs => .delimited bs
  | id s => .ofText s
  | queue s => .ofText s
  | retry n => .ofInt32 n
  | retried n => .ofInt32 n
  | errorText s => .ofText s
  | timeout n => .ofInt64 n
  | deadline n => .ofInt64 n
  | uniqueKey s => .ofText s
  | lastFailedAt n => .ofInt64 n
  | retention n => .ofInt64 n
  | completedAt n => .ofInt64 n

/-- Whether a field has its default value, zero or empty. -/
def isDefault : Field → Bool
  | typeName s => s == ""
  | payload bs => bs.isEmpty
  | id s => s == ""
  | queue s => s == ""
  | retry n => n == 0
  | retried n => n == 0
  | errorText s => s == ""
  | timeout n => n == 0
  | deadline n => n == 0
  | uniqueKey s => s == ""
  | lastFailedAt n => n == 0
  | retention n => n == 0
  | completedAt n => n == 0

/-- The number and the wire type of a field in one number. -/
def key (number : Nat) (wire : WireType) : Nat := number * 8 + wire.code

/-- The bytes of a field. -/
def encode (f : Field) : Bytes := Varint.write (key f.number f.value.wireType) ++ f.value.write

/-- The number of bytes of a field. -/
def size (f : Field) : Nat := Varint.size (key f.number f.value.wireType) + f.value.size

/-- The record with the field set. -/
def apply (r : Record) : Field → Record
  | typeName s => { r with typeName := s }
  | payload bs => { r with payload := bs }
  | id s => { r with id := s }
  | queue s => { r with queue := s }
  | retry n => { r with retry := n }
  | retried n => { r with retried := n }
  | errorText s => { r with errorText := s }
  | timeout n => { r with timeout := n }
  | deadline n => { r with deadline := n }
  | uniqueKey s => { r with uniqueKey := s }
  | lastFailedAt n => { r with lastFailedAt := n }
  | retention n => { r with retention := n }
  | completedAt n => { r with completedAt := n }

end Field

/-- What a known field holds, as the way to make the field from its value. -/
inductive FieldShape where
  | text (make : String → Field)
  | bytes (make : Bytes → Field)
  | int32 (make : Int32 → Field)
  | int64 (make : Int64 → Field)

namespace FieldShape

/-- The wire type of the values of a field. -/
def wireType : FieldShape → WireType
  | text _ => .lengthDelimited
  | bytes _ => .lengthDelimited
  | int32 _ => .varint
  | int64 _ => .varint

/-- The label in messages and the shape of the field of a number. -/
def ofNumber? : Nat → Option (String × FieldShape)
  | 1 => some ("r#type", text .typeName)
  | 2 => some ("payload", bytes .payload)
  | 3 => some ("id", text .id)
  | 4 => some ("queue", text .queue)
  | 5 => some ("retry", int32 .retry)
  | 6 => some ("retried", int32 .retried)
  | 7 => some ("error_msg", text .errorText)
  | 8 => some ("timeout", int64 .timeout)
  | 9 => some ("deadline", int64 .deadline)
  | 10 => some ("unique_key", text .uniqueKey)
  | 11 => some ("last_failed_at", int64 .lastFailedAt)
  | 12 => some ("retention", int64 .retention)
  | 13 => some ("completed_at", int64 .completedAt)
  | _ => none

end FieldShape

namespace Wire

/-- Reads a number. -/
def readVarint (bs : Bytes) : Except WireFault (Nat × Bytes) :=
  match Varint.read bs with
  | some r => .ok r
  | none => .error .badVarint

/-- Takes `n` bytes. -/
def takeBytes (n : Nat) (bs : Bytes) : Except WireFault (Bytes × Bytes) :=
  if n ≤ bs.length then .ok (bs.take n, bs.drop n) else .error .underflow

/-- Reads a length and takes as many bytes. -/
def readDelimited (bs : Bytes) : Except WireFault (Bytes × Bytes) :=
  match readVarint bs with
  | .ok (n, rest) => takeBytes n rest
  | .error e => .error e

/-- Reads the key of a field: its number and its wire type. -/
def readKey (bs : Bytes) : Except WireFault ((Nat × WireType) × Bytes) :=
  match readVarint bs with
  | .error e => .error e
  | .ok (key, rest) =>
    if 2 ^ 32 ≤ key then .error (.badKey key)
    else
      match WireType.ofCode? (key % 8) with
      | none => .error (.badWireType (key % 8))
      | some wire => if key / 8 = 0 then .error .badNumber else .ok ((key / 8, wire), rest)

/-- Passes over a value that is not a group. -/
def skipScalar (wire : WireType) (bs : Bytes) : Except WireFault Bytes :=
  match wire with
  | .varint => (readVarint bs).map (·.2)
  | .sixtyFourBit => (takeBytes 8 bs).map (·.2)
  | .thirtyTwoBit => (takeBytes 4 bs).map (·.2)
  | .lengthDelimited => (readDelimited bs).map (·.2)
  | .startGroup | .endGroup => .error .strayEnd

/-- How many groups may be open around a field. -/
def maxDepth : Nat := 100

theorem readVarint_shorter {bs rest : Bytes} {n : Nat} (h : readVarint bs = .ok (n, rest)) :
    rest.length < bs.length := by
  unfold readVarint at h
  split at h
  · rename_i r hr
    cases h
    exact Varint.read_shorter hr
  · cases h

theorem takeBytes_rest {n : Nat} {bs front rest : Bytes} (h : takeBytes n bs = .ok (front, rest)) :
    rest.length ≤ bs.length := by
  unfold takeBytes at h
  split at h
  · cases h
    simp
  · cases h

theorem readDelimited_rest {bs front rest : Bytes} (h : readDelimited bs = .ok (front, rest)) :
    rest.length ≤ bs.length := by
  unfold readDelimited at h
  split at h
  · rename_i n more hv
    have := readVarint_shorter hv
    have := takeBytes_rest h
    omega
  · cases h

theorem readKey_shorter {bs rest : Bytes} {k : Nat × WireType} (h : readKey bs = .ok (k, rest)) :
    rest.length < bs.length := by
  unfold readKey at h
  split at h
  · cases h
  · rename_i key more hv
    have := readVarint_shorter hv
    split at h
    · cases h
    · split at h
      · cases h
      · split at h
        · cases h
        · cases h
          assumption

theorem skipScalar_rest {wire : WireType} {bs rest : Bytes} (h : skipScalar wire bs = .ok rest) :
    rest.length ≤ bs.length := by
  have map_ok : ∀ {x : Except WireFault (Bytes × Bytes)}, x.map (·.2) = .ok rest →
      ∃ a, x = .ok (a, rest) := by
    intro x hx
    cases x with
    | error e => simp [Except.map] at hx
    | ok p =>
      simp only [Except.map, Except.ok.injEq] at hx
      exact ⟨p.1, by rw [← hx]⟩
  cases wire with
  | varint =>
    simp only [skipScalar] at h
    cases hv : readVarint bs with
    | error e => simp [hv, Except.map] at h
    | ok p =>
      simp only [hv, Except.map, Except.ok.injEq] at h
      have := @readVarint_shorter bs p.2 p.1 hv
      rw [← h]
      omega
  | sixtyFourBit => obtain ⟨a, ha⟩ := map_ok h; exact takeBytes_rest ha
  | thirtyTwoBit => obtain ⟨a, ha⟩ := map_ok h; exact takeBytes_rest ha
  | lengthDelimited => obtain ⟨a, ha⟩ := map_ok h; exact readDelimited_rest ha
  | startGroup => simp [skipScalar] at h
  | endGroup => simp [skipScalar] at h

/-- Passes over the rest of a group, where `opened` are the numbers of the groups around the next
field, the innermost first. -/
def skipGroup (opened : List Nat) (bs : Bytes) : Except WireFault Bytes :=
  match _hk : readKey bs with
  | .error e => .error e
  | .ok ((number, wire), rest) =>
    if wire = .endGroup then
      if opened.head? ≠ some number then .error .strayEnd
      else if opened.tail.isEmpty then .ok rest
      else skipGroup opened.tail rest
    else if maxDepth ≤ opened.length then .error .tooDeep
    else if wire = .startGroup then skipGroup (number :: opened) rest
    else
      match _hs : skipScalar wire rest with
      | .error e => .error e
      | .ok rest' => skipGroup opened rest'
  termination_by bs.length
  decreasing_by
    all_goals
      have hlt := readKey_shorter _hk
      try have hle := skipScalar_rest _hs
      omega

/-- Passes over the value of a field whose number is not known. -/
def skipValue (number : Nat) (wire : WireType) (bs : Bytes) : Except WireFault Bytes :=
  if wire = .startGroup then skipGroup [number] bs else skipScalar wire bs

/-- Reads the value of a known field. -/
def readValue (shape : FieldShape) (wire : WireType) (bs : Bytes) :
    Except WireFault (Field × Bytes) :=
  if wire ≠ shape.wireType then .error (.wrongType wire shape.wireType)
  else
    match shape with
    | .text make =>
      match readDelimited bs with
      | .error e => .error e
      | .ok (front, rest) =>
        match Text.Utf8.decode? front with
        | some s => .ok (make s, rest)
        | none => .error .notText
    | .bytes make => (readDelimited bs).map fun (front, rest) => (make front, rest)
    | .int32 make => (readVarint bs).map fun (n, rest) => (make (Int32.ofNat n), rest)
    | .int64 make => (readVarint bs).map fun (n, rest) => (make (Int64.ofNat n), rest)

/-- Reads one field: a known one with its value, or nothing in place of one that is passed over. -/
def readField (bs : Bytes) : Except DecodeFault (Option Field × Bytes) :=
  match readKey bs with
  | .error e => .error ⟨none, e⟩
  | .ok ((number, wire), rest) =>
    match FieldShape.ofNumber? number with
    | some (label, shape) =>
      match readValue shape wire rest with
      | .error e => .error ⟨some label, e⟩
      | .ok (f, rest) => .ok (some f, rest)
    | none =>
      match skipValue number wire rest with
      | .error e => .error ⟨none, e⟩
      | .ok rest => .ok (none, rest)

theorem skipGroup_rest {opened : List Nat} {bs rest : Bytes} (h : skipGroup opened bs = .ok rest) :
    rest.length ≤ bs.length := by
  fun_induction skipGroup opened bs with
  | case1 => cases h
  | case2 => cases h
  | case3 opened bs number rest' _ _ hk =>
    cases h
    exact Nat.le_of_lt (readKey_shorter hk)
  | case4 opened bs number rest' _ _ hk ih =>
    have := readKey_shorter hk
    have := ih h
    omega
  | case5 => cases h
  | case6 opened bs number rest' _ hk _ ih =>
    have := readKey_shorter hk
    have := ih h
    omega
  | case7 => cases h
  | case8 opened bs number wire rest' hk _ _ _ rest'' hs ih =>
    have := readKey_shorter hk
    have := skipScalar_rest hs
    have := ih h
    omega

theorem skipValue_rest {number : Nat} {wire : WireType} {bs rest : Bytes}
    (h : skipValue number wire bs = .ok rest) : rest.length ≤ bs.length := by
  unfold skipValue at h
  split at h
  · exact skipGroup_rest h
  · exact skipScalar_rest h

theorem readValue_rest {shape : FieldShape} {wire : WireType} {bs rest : Bytes} {f : Field}
    (h : readValue shape wire bs = .ok (f, rest)) : rest.length ≤ bs.length := by
  unfold readValue at h
  split at h
  · cases h
  · cases shape with
    | text make =>
      simp only at h
      split at h
      · cases h
      · rename_i front more hd
        split at h
        · cases h
          exact readDelimited_rest hd
        · cases h
    | bytes make =>
      simp only at h
      cases hd : readDelimited bs with
      | error e => simp [hd, Except.map] at h
      | ok p =>
        simp only [hd, Except.map, Except.ok.injEq, Prod.mk.injEq] at h
        rw [← h.2]
        exact @readDelimited_rest bs p.1 p.2 hd
    | int32 make =>
      simp only at h
      cases hd : readVarint bs with
      | error e => simp [hd, Except.map] at h
      | ok p =>
        simp only [hd, Except.map, Except.ok.injEq, Prod.mk.injEq] at h
        rw [← h.2]
        exact Nat.le_of_lt (@readVarint_shorter bs p.2 p.1 hd)
    | int64 make =>
      simp only at h
      cases hd : readVarint bs with
      | error e => simp [hd, Except.map] at h
      | ok p =>
        simp only [hd, Except.map, Except.ok.injEq, Prod.mk.injEq] at h
        rw [← h.2]
        exact Nat.le_of_lt (@readVarint_shorter bs p.2 p.1 hd)

theorem readField_shorter {bs rest : Bytes} {f : Option Field} (h : readField bs = .ok (f, rest)) :
    rest.length < bs.length := by
  unfold readField at h
  split at h
  · cases h
  · rename_i number wire more hk
    have := readKey_shorter hk
    split at h
    · split at h
      · cases h
      · rename_i hv
        cases h
        have := readValue_rest hv
        omega
    · split at h
      · cases h
      · rename_i hv
        cases h
        have := skipValue_rest hv
        omega

end Wire

namespace Record

/-- All fields of a record in ascending order of their numbers. -/
def allFields (r : Record) : List Field :=
  [.typeName r.typeName, .payload r.payload, .id r.id, .queue r.queue, .retry r.retry,
   .retried r.retried, .errorText r.errorText, .timeout r.timeout, .deadline r.deadline,
   .uniqueKey r.uniqueKey, .lastFailedAt r.lastFailedAt, .retention r.retention,
   .completedAt r.completedAt]

/-- The fields of a record that are written. -/
def fields (r : Record) : List Field := r.allFields.filter fun f => !f.isDefault

/-- The wire form of a record. -/
def encode (r : Record) : Bytes := r.fields.flatMap Field.encode

/-- The length of the wire form of a record. -/
def size (r : Record) : Nat := (r.fields.map Field.size).sum

/-- The wire form of a record, if it fits a buffer. -/
def encodeInto (capacity : Nat) (r : Record) : Except CapacityFault Bytes :=
  if r.size ≤ capacity then .ok r.encode else .error ⟨r.size, capacity⟩

/-- The record `r` with the fields that the bytes hold set, the last of each number winning. -/
def merge (r : Record) (bs : Bytes) : Except DecodeFault Record :=
  if bs.isEmpty then .ok r
  else
    match _h : Wire.readField bs with
    | .error e => .error e
    | .ok (f, rest) => merge ((f.map (Field.apply r)).getD r) rest
  termination_by bs.length
  decreasing_by exact Wire.readField_shorter _h

/-- The record whose wire form the bytes are. -/
def decode (bs : Bytes) : Except DecodeFault Record := merge {} bs

end Record

end TaskQueue
