import TaskQueue.Record.Wire

/-!
# Reading what was written

The reader of the wire form, run on what the writer made: a field is read back as it is, whatever
follows it, and so are the fields of a record, one after the other.

Principal results: `Wire.readField_encode` — one field, with any bytes behind it;
`Record.merge_fields` — any list of fields, read into any record; `Record.merge_encode` — a record that
is read into another one replaces exactly the fields in which it has no default;
`Record.decode_encode` — a record comes back from its wire form.

The length of a text or a payload is written as a number of 64 bits.  `WireValue.Fits` says that it is
one; every sequence of bytes in the memory of a machine with 64 bits is that short.
-/

set_option autoImplicit false

namespace TaskQueue

/-- The number of a value, or the length of its bytes, has 64 bits. -/
def WireValue.Fits : WireValue → Prop
  | varint n => n < 2 ^ 64
  | delimited bs => bs.length < 2 ^ 64

namespace Wire

theorem readVarint_write {n : Nat} (rest : Bytes) (h : n < 2 ^ 64) :
    readVarint (Varint.write n ++ rest) = .ok (n, rest) := by
  rw [readVarint, Varint.read_write rest h]

theorem takeBytes_append (bs rest : Bytes) : takeBytes bs.length (bs ++ rest) = .ok (bs, rest) := by
  rw [takeBytes, if_pos (by simp)]
  simp

theorem readDelimited_write {bs : Bytes} (rest : Bytes) (h : bs.length < 2 ^ 64) :
    readDelimited ((WireValue.delimited bs).write ++ rest) = .ok (bs, rest) := by
  rw [WireValue.write, List.append_assoc, readDelimited, readVarint_write _ h]
  exact takeBytes_append bs rest

theorem code_lt (wire : WireType) : wire.code < 8 := by
  cases wire <;> decide

/-- A key is read from the number that it is. -/
theorem readKey_of_readVarint {number : Nat} {wire : WireType} {bs rest : Bytes} (hpos : 0 < number)
    (hlt : number < 2 ^ 29) (h : readVarint bs = .ok (Field.key number wire, rest)) :
    readKey bs = .ok ((number, wire), rest) := by
  have hcode := code_lt wire
  have hmod : Field.key number wire % 8 = wire.code := by
    rw [Field.key]
    omega
  have hdiv : Field.key number wire / 8 = number := by
    rw [Field.key]
    omega
  have hkey : Field.key number wire < 2 ^ 32 := by
    rw [Field.key]
    omega
  rw [readKey, h]
  simp only [hmod, hdiv, WireType.ofCode?_code]
  rw [if_neg (by omega), if_neg (by omega)]

theorem readKey_write {number : Nat} (wire : WireType) (rest : Bytes) (hpos : 0 < number)
    (hlt : number < 2 ^ 29) :
    readKey (Varint.write (Field.key number wire) ++ rest) = .ok ((number, wire), rest) := by
  have hcode := code_lt wire
  have hkey : Field.key number wire < 2 ^ 64 := by
    rw [Field.key]
    omega
  exact readKey_of_readVarint hpos hlt (readVarint_write rest hkey)

/-! ## Values of known fields -/

theorem readValue_text (make : String → Field) {s : String} (rest : Bytes)
    (h : (WireValue.ofText s).Fits) :
    readValue (.text make) .lengthDelimited ((WireValue.ofText s).write ++ rest) =
      .ok (make s, rest) := by
  rw [readValue, if_neg (by simp [FieldShape.wireType])]
  simp only [WireValue.ofText, readDelimited_write rest h, Text.Utf8.decode?_encode]

theorem readValue_bytes (make : Bytes → Field) {bs : Bytes} (rest : Bytes)
    (h : (WireValue.delimited bs).Fits) :
    readValue (.bytes make) .lengthDelimited ((WireValue.delimited bs).write ++ rest) =
      .ok (make bs, rest) := by
  rw [readValue, if_neg (by simp [FieldShape.wireType])]
  simp only [readDelimited_write rest h]
  rfl

/-- A word is what the unsigned number of its bits stands for. -/
theorem ofNat_toNat (n : Int64) : Int64.ofNat n.toUInt64.toNat = n := by
  rw [← UInt64.toInt64_ofNat', UInt64.ofNat_toNat, Int64.toInt64_toUInt64]

theorem readValue_int64 (make : Int64 → Field) (n : Int64) (rest : Bytes) :
    readValue (.int64 make) .varint ((WireValue.ofInt64 n).write ++ rest) = .ok (make n, rest) := by
  rw [readValue, if_neg (by simp [FieldShape.wireType])]
  simp only [WireValue.ofInt64, WireValue.write, readVarint_write rest n.toUInt64.toNat_lt]
  simp only [Except.map, ofNat_toNat]

theorem readValue_int32 (make : Int32 → Field) (n : Int32) (rest : Bytes) :
    readValue (.int32 make) .varint ((WireValue.ofInt32 n).write ++ rest) = .ok (make n, rest) := by
  -- The word that is written is `n` with its sign extended; a half word is read off its low bits.
  have hn : Int32.ofNat n.toInt64.toUInt64.toNat = n := by
    rw [← Int64.toInt32_ofNat', ofNat_toNat, Int32.toInt32_toInt64]
  rw [readValue, if_neg (by simp [FieldShape.wireType])]
  simp only [WireValue.ofInt32, WireValue.ofInt64, WireValue.write,
    readVarint_write rest n.toInt64.toUInt64.toNat_lt]
  simp only [Except.map, hn]

/-! ## Fields -/

theorem number_pos (f : Field) : 0 < f.number := by
  cases f <;> simp [Field.number]

theorem number_lt (f : Field) : f.number < 2 ^ 29 := by
  cases f <;> simp [Field.number]

/-- A field is read back if its number is known and its value is read back. -/
theorem readField_of_readValue {f : Field} {label : String} {shape : FieldShape} {rest : Bytes}
    (hn : FieldShape.ofNumber? f.number = some (label, shape))
    (hv : readValue shape f.value.wireType (f.value.write ++ rest) = .ok (f, rest)) :
    readField (f.encode ++ rest) = .ok (some f, rest) := by
  rw [Field.encode, List.append_assoc, readField,
    readKey_write _ _ (number_pos f) (number_lt f)]
  simp only [hn, hv]

/-- **A field is read back**, whatever follows it. -/
theorem readField_encode {f : Field} (rest : Bytes) (h : f.value.Fits) :
    readField (f.encode ++ rest) = .ok (some f, rest) := by
  cases f with
  | typeName s => exact readField_of_readValue rfl (readValue_text .typeName rest h)
  | payload bs => exact readField_of_readValue rfl (readValue_bytes .payload rest h)
  | id s => exact readField_of_readValue rfl (readValue_text .id rest h)
  | queue s => exact readField_of_readValue rfl (readValue_text .queue rest h)
  | retry n => exact readField_of_readValue rfl (readValue_int32 .retry n rest)
  | retried n => exact readField_of_readValue rfl (readValue_int32 .retried n rest)
  | errorText s => exact readField_of_readValue rfl (readValue_text .errorText rest h)
  | timeout n => exact readField_of_readValue rfl (readValue_int64 .timeout n rest)
  | deadline n => exact readField_of_readValue rfl (readValue_int64 .deadline n rest)
  | uniqueKey s => exact readField_of_readValue rfl (readValue_text .uniqueKey rest h)
  | lastFailedAt n => exact readField_of_readValue rfl (readValue_int64 .lastFailedAt n rest)
  | retention n => exact readField_of_readValue rfl (readValue_int64 .retention n rest)
  | completedAt n => exact readField_of_readValue rfl (readValue_int64 .completedAt n rest)

end Wire

/-! ## Records -/

namespace Record

theorem merge_nil (r : Record) : merge r [] = .ok r := by
  rw [merge, if_pos (by rfl)]

theorem merge_of_readField {r : Record} {bs rest : Bytes} {f : Option Field}
    (h : Wire.readField bs = .ok (f, rest)) : merge r bs = merge ((f.map (Field.apply r)).getD r) rest := by
  have hne : bs.isEmpty = false := by
    cases bs with
    | nil => exact absurd (Wire.readField_shorter h) (by simp)
    | cons b bs => rfl
  rw [merge, if_neg (by simp [hne])]
  split
  · rename_i e he
    rw [h] at he
    cases he
  · rename_i g more hg
    rw [h] at hg
    cases hg
    rfl

/-- Fields that were written are read one after the other. -/
theorem merge_fields {fs : List Field} (r : Record) (rest : Bytes) (h : ∀ f ∈ fs, f.value.Fits) :
    merge r (fs.flatMap Field.encode ++ rest) = merge (fs.foldl Field.apply r) rest := by
  induction fs generalizing r with
  | nil => rfl
  | cons f fs ih =>
    have hf := Wire.readField_encode (fs.flatMap Field.encode ++ rest) (h f (by simp))
    rw [List.flatMap_cons, List.append_assoc, merge_of_readField hf, List.foldl_cons]
    exact ih _ fun g hg => h g (by simp [hg])

/-- The record `r` with every field replaced in which `m` has no default. -/
def overlay (r m : Record) : Record where
  typeName := if m.typeName = "" then r.typeName else m.typeName
  payload := if m.payload = [] then r.payload else m.payload
  id := if m.id = "" then r.id else m.id
  queue := if m.queue = "" then r.queue else m.queue
  retry := if m.retry = 0 then r.retry else m.retry
  retried := if m.retried = 0 then r.retried else m.retried
  errorText := if m.errorText = "" then r.errorText else m.errorText
  timeout := if m.timeout = 0 then r.timeout else m.timeout
  deadline := if m.deadline = 0 then r.deadline else m.deadline
  uniqueKey := if m.uniqueKey = "" then r.uniqueKey else m.uniqueKey
  lastFailedAt := if m.lastFailedAt = 0 then r.lastFailedAt else m.lastFailedAt
  retention := if m.retention = 0 then r.retention else m.retention
  completedAt := if m.completedAt = 0 then r.completedAt else m.completedAt

attribute [ext] Record

theorem foldl_fields (r m : Record) : m.fields.foldl Field.apply r = r.overlay m := by
  rw [fields, List.foldl_filter]
  simp only [allFields, List.foldl_cons, List.foldl_nil, Field.isDefault, Field.apply,
    Bool.not_eq_true', beq_eq_false_iff_ne, ne_eq, ite_not, List.isEmpty_eq_false_iff]
  -- A field of the result is one of `m` or of `r`, so the fields are compared one by one.
  apply Record.ext
  case typeName => simp only [overlay, apply_ite typeName, ite_self]
  case payload => simp only [overlay, apply_ite payload, ite_self]
  case id => simp only [overlay, apply_ite id, ite_self]
  case queue => simp only [overlay, apply_ite queue, ite_self]
  case retry => simp only [overlay, apply_ite retry, ite_self]
  case retried => simp only [overlay, apply_ite retried, ite_self]
  case errorText => simp only [overlay, apply_ite errorText, ite_self]
  case timeout => simp only [overlay, apply_ite timeout, ite_self]
  case deadline => simp only [overlay, apply_ite deadline, ite_self]
  case uniqueKey => simp only [overlay, apply_ite uniqueKey, ite_self]
  case lastFailedAt => simp only [overlay, apply_ite lastFailedAt, ite_self]
  case retention => simp only [overlay, apply_ite retention, ite_self]
  case completedAt => simp only [overlay, apply_ite completedAt, ite_self]

theorem overlay_default (m : Record) : overlay {} m = m := by
  have keep : ∀ {α : Type} [DecidableEq α] (a x : α), (if x = a then a else x) = x := by
    intro α _ a x
    split
    · rename_i h
      exact h.symm
    · rfl
  apply Record.ext <;> exact keep _ _

theorem length_encode_le {r : Record} {f : Field} (h : f ∈ r.fields) :
    f.encode.length ≤ r.encode.length := by
  obtain ⟨before, after, hr⟩ := List.append_of_mem h
  rw [encode, hr, List.flatMap_append, List.flatMap_cons, List.length_append, List.length_append]
  omega

/-- A number in a field has 64 bits, and a text or a payload is shorter than the field. -/
theorem fits_of_length_encode {f : Field} (h : f.encode.length < 2 ^ 64) : f.value.Fits := by
  cases hv : f.value with
  | varint n => cases f <;> cases hv <;> exact UInt64.toNat_lt _
  | delimited bs =>
    rw [Field.encode, hv, WireValue.write, List.length_append, List.length_append] at h
    show bs.length < 2 ^ 64
    omega

/-- Every text and the payload of a record are short enough for their lengths to be written. -/
def Fits (r : Record) : Prop := ∀ f ∈ r.fields, f.value.Fits

theorem fits_of_length {r : Record} (h : r.encode.length < 2 ^ 64) : r.Fits := by
  intro f hf
  exact fits_of_length_encode (Nat.lt_of_le_of_lt (length_encode_le hf) h)

/-- **A record that is read into another one** replaces the fields in which it has no default. -/
theorem merge_encode {m : Record} (r : Record) (h : m.Fits) :
    merge r m.encode = .ok (r.overlay m) := by
  have hm := merge_fields r [] h
  rw [List.append_nil] at hm
  rw [encode, hm, merge_nil, foldl_fields]

/-- A buffer of the computed size always has room. -/
theorem encodeInto_size (r : Record) : r.encodeInto r.size = .ok r.encode := by
  rw [encodeInto, if_pos (Nat.le_refl _)]

theorem decode_encode_of_fits {r : Record} (h : r.Fits) : decode r.encode = .ok r := by
  rw [decode, merge_encode _ h, overlay_default]

/-- **A record comes back from its wire form.** -/
theorem decode_encode {r : Record} (h : r.encode.length < 2 ^ 64) : decode r.encode = .ok r :=
  decode_encode_of_fits (fits_of_length h)

end Record

end TaskQueue
