import Mathlib.Data.List.Nodup
import TaskQueue.Proofs.Record.RoundTrip

/-!
# Wire forms in any order

A reader takes one field after the other.  A field of a number that no record has is passed over, whatever
it holds, and fields of different numbers do not touch each other.  So the fields of a record can stand in
any order, with any foreign fields before, between and behind them.

A number has more than one spelling: groups of zeros may follow its highest group, up to ten bytes.
`Varint.Written` allows all of them, in the keys, the lengths and the values of foreign fields.

Principal results: `Wire.readField_foreign` — a foreign field is passed over to its last byte;
`Record.merge_of_carries` — the reader takes the known fields in the order in which they stand;
`Field.foldl_apply_perm` — this order does not matter; `decoded_in_any_order` — the three put together.
-/

set_option autoImplicit false

namespace TaskQueue

namespace Varint

/-- The spellings of a number: seven bits to a byte, the lowest first, and the high bit set in all bytes but
the last. -/
inductive Spells : Bytes → Nat → Prop where
  | last {b : UInt8} (h : b.toNat < 128) : Spells [b] b.toNat
  | more {b : UInt8} {bs : Bytes} {n : Nat} (h : 128 ≤ b.toNat) (hs : Spells bs n) :
      Spells (b :: bs) (n * 128 + (b.toNat - 128))

/-- A number of 64 bits is written in ten bytes or fewer. -/
structure Written (bs : Bytes) (n : Nat) : Prop where
  spells : Spells bs n
  length_le : bs.length ≤ 10
  lt : n < 2 ^ 64

theorem Spells.length_pos {bs : Bytes} {n : Nat} (h : Spells bs n) : 0 < bs.length := by
  cases h <;> simp

/-- Every spelling is read as its number, if the reader goes far enough. -/
theorem Spells.readFrom {bs : Bytes} {n : Nat} (h : Spells bs n) (rest : Bytes) :
    ∀ {k : Nat}, bs.length ≤ k + 1 → n < 2 ^ (7 * k + 1) → readFrom (k + 1) (bs ++ rest) = some (n, rest) := by
  induction h with
  | @last b hb =>
    intro k _ hn
    -- The last byte that is allowed holds one bit.
    have hbit : ¬ (k = 0 ∧ 2 ≤ b.toNat) := by
      rintro ⟨rfl, hb2⟩
      omega
    rw [List.singleton_append, Varint.readFrom, if_pos hb, if_neg hbit]
  | @more b bs n hb hs ih =>
    intro k hlen hn
    have hpos := hs.length_pos
    rw [List.length_cons] at hlen
    obtain ⟨k, rfl⟩ : ∃ j, k = j + 1 := ⟨k - 1, by omega⟩
    have hhigh : n < 2 ^ (7 * k + 1) := by
      rw [show 7 * (k + 1) + 1 = 7 * k + 1 + 7 by omega, Nat.pow_add] at hn
      omega
    rw [List.cons_append, Varint.readFrom, if_neg (by omega), ih (by omega) hhigh]
    rfl

end Varint

namespace Wire

/-- The values of a wire type, with any content. -/
inductive Value : WireType → Bytes → Prop where
  | varint {bs : Bytes} {n : Nat} (h : Varint.Written bs n) : Value .varint bs
  | sixtyFourBit {bs : Bytes} (h : bs.length = 8) : Value .sixtyFourBit bs
  | lengthDelimited {length content : Bytes} (h : Varint.Written length content.length) :
      Value .lengthDelimited (length ++ content)
  | thirtyTwoBit {bs : Bytes} (h : bs.length = 4) : Value .thirtyTwoBit bs

/-- The fields that have a number beyond those of a record. -/
inductive Foreign : Bytes → Prop where
  | intro {number : Nat} {wire : WireType} {key value : Bytes} (hmin : 14 ≤ number)
      (hmax : number < 2 ^ 29) (hkey : Varint.Written key (Field.key number wire))
      (hvalue : Value wire value) : Foreign (key ++ value)

/-- Bytes that carry the fields of a list, in this order, with foreign fields anywhere around them. -/
inductive Carries : List Field → Bytes → Prop where
  | nil : Carries [] []
  | field {fs : List Field} {bs : Bytes} (f : Field) (h : Carries fs bs) : Carries (f :: fs) (f.encode ++ bs)
  | foreign {fs : List Field} {bs x : Bytes} (hx : Foreign x) (h : Carries fs bs) : Carries fs (x ++ bs)

/-! ## Foreign fields -/

theorem readVarint_of_written {bs : Bytes} {n : Nat} (h : Varint.Written bs n) (rest : Bytes) :
    readVarint (bs ++ rest) = .ok (n, rest) := by
  rw [readVarint, Varint.read, h.spells.readFrom (k := 9) rest h.length_le h.lt]

/-- A value is passed over to its last byte, whatever it holds. -/
theorem skipValue_value {wire : WireType} {value : Bytes} (h : Value wire value) (number : Nat)
    (rest : Bytes) : skipValue number wire (value ++ rest) = .ok rest := by
  cases h with
  | varint h =>
    rw [skipValue, if_neg (by decide), skipScalar, readVarint_of_written h]
    rfl
  | sixtyFourBit h | thirtyTwoBit h =>
    rw [skipValue, if_neg (by decide), skipScalar, ← h, takeBytes_append]
    rfl
  | lengthDelimited h =>
    rw [skipValue, if_neg (by decide), skipScalar, readDelimited, List.append_assoc,
      readVarint_of_written h]
    simp only [takeBytes_append]
    rfl

theorem ofNumber?_of_foreign {number : Nat} (h : 14 ≤ number) : FieldShape.ofNumber? number = none := by
  unfold FieldShape.ofNumber?
  split <;> first | omega | rfl

/-- **A foreign field is passed over**, and the reader goes on behind it. -/
theorem readField_foreign {x : Bytes} (h : Foreign x) (rest : Bytes) :
    readField (x ++ rest) = .ok (none, rest) := by
  obtain ⟨hmin, hmax, hkey, hvalue⟩ := h
  rw [List.append_assoc, readField,
    readKey_of_readVarint (by omega) hmax (readVarint_of_written hkey _)]
  simp only [ofNumber?_of_foreign hmin, skipValue_value hvalue]

end Wire

/-- **The known fields are taken in the order in which they stand.** -/
theorem Record.merge_of_carries {fs : List Field} {bs : Bytes} (h : Wire.Carries fs bs) :
    (∀ f ∈ fs, f.value.Fits) → ∀ r, merge r bs = .ok (fs.foldl Field.apply r) := by
  induction h with
  | nil => exact fun _ => merge_nil
  | @field fs bs f _ ih =>
    intro hfits r
    rw [merge_of_readField (Wire.readField_encode bs (hfits f List.mem_cons_self)), List.foldl_cons]
    exact ih (fun g hg => hfits g (List.mem_cons_of_mem f hg)) _
  | @foreign fs bs x hx _ ih =>
    intro hfits r
    rw [merge_of_readField (Wire.readField_foreign hx bs)]
    exact ih hfits r

/-! ## The order of known fields -/

/-- Fields of different numbers are parts of a record that do not touch each other. -/
theorem Field.apply_comm {f g : Field} (h : f.number ≠ g.number) (r : Record) :
    Field.apply (Field.apply r f) g = Field.apply (Field.apply r g) f := by
  cases f <;> cases g <;> first | rfl | exact absurd rfl h

/-- **The order of fields does not matter**, if none of them is there twice. -/
theorem Field.foldl_apply_perm {fs gs : List Field} (hperm : fs.Perm gs)
    (hnodup : (fs.map Field.number).Nodup) (r : Record) :
    fs.foldl Field.apply r = gs.foldl Field.apply r := by
  refine hperm.foldl_eq' (fun f hf g hg r => ?_) r
  by_cases hnumber : f.number = g.number
  · rw [List.inj_on_of_nodup_map hnodup hf hg hnumber]
  · exact Field.apply_comm hnumber r

theorem Record.nodup_numbers (m : Record) : (m.fields.map Field.number).Nodup := by
  have hall : (m.allFields.map Field.number).Nodup := show (List.range' 1 13).Nodup by decide
  exact hall.sublist (List.filter_sublist.map Field.number)

/-- **A record is read from its fields in any order, with foreign fields anywhere between them.**  A foreign
field has a number from 14 to `2 ^ 29 - 1` and a value of any content: a number, eight bytes, four bytes, or a
length and as many bytes, in any spelling of the numbers. -/
theorem decoded_in_any_order (m : Record) (hfits : m.Fits) (fs : List Field) (hperm : fs.Perm m.fields)
    (bs : Bytes) (hbs : Wire.Carries fs bs) : Record.decode bs = .ok m := by
  have hnodup : (fs.map Field.number).Nodup := (hperm.map Field.number).nodup_iff.mpr m.nodup_numbers
  have hfields : ∀ f ∈ fs, f.value.Fits := fun f hf => hfits f (hperm.mem_iff.mp hf)
  rw [Record.decode, Record.merge_of_carries hbs hfields, Field.foldl_apply_perm hperm hnodup,
    Record.foldl_fields, Record.overlay_default]

/-- A negative count in front of the type, a number that takes one byte too many before both of them, and
behind them a text of the greatest number there is, in which a type seems to begin. -/
theorem decoded_in_any_order_of_type_in_text :
    let m : Record := { typeName := "a", retry := -1 }
    let zero : Bytes := [0x70, 0x80, 0x00]
    let text : Bytes := [0xfa, 0xff, 0xff, 0xff, 0x0f, 0x83, 0x00] ++ [0x0a, 0x01, 0x62]
    let bs := zero ++ ((Field.retry (-1)).encode ++ ((Field.typeName "a").encode ++ (text ++ [])))
    m.Fits ∧ m.encode ≠ bs ∧ Wire.Carries [.retry (-1), .typeName "a"] bs ∧ Record.decode bs = .ok m := by
  intro m zero text bs
  have hfits : m.Fits := Record.fits_of_length (by decide +kernel)
  have hkey : Varint.Spells [0x70] (Field.key 14 .varint) := .last (by decide)
  have hnumber : Varint.Spells [0x80, 0x00] 0 := .more (by decide) (.last (by decide))
  have hzero : Wire.Foreign zero :=
    @Wire.Foreign.intro 14 .varint [0x70] [0x80, 0x00] (by decide) (by decide)
      ⟨hkey, by decide, by decide⟩ (.varint ⟨hnumber, by decide, by decide⟩)
  have hgreatest : Varint.Spells [0xfa, 0xff, 0xff, 0xff, 0x0f]
      (Field.key (2 ^ 29 - 1) .lengthDelimited) :=
    .more (by decide) (.more (by decide) (.more (by decide) (.more (by decide) (.last (by decide)))))
  have hlength : Varint.Spells [0x83, 0x00] 3 := .more (by decide) (.last (by decide))
  have htext : Wire.Foreign text :=
    @Wire.Foreign.intro (2 ^ 29 - 1) .lengthDelimited [0xfa, 0xff, 0xff, 0xff, 0x0f]
      ([0x83, 0x00] ++ [0x0a, 0x01, 0x62]) (by decide) (by decide) ⟨hgreatest, by decide, by decide⟩
      (.lengthDelimited ⟨hlength, by decide, by decide⟩)
  have hbs : Wire.Carries [.retry (-1), .typeName "a"] bs :=
    .foreign hzero (.field _ (.field _ (.foreign htext .nil)))
  have hperm : [Field.retry (-1), .typeName "a"].Perm m.fields := List.Perm.swap _ _ []
  refine ⟨hfits, ?_, hbs, decoded_in_any_order m hfits _ hperm bs hbs⟩
  decide +kernel

end TaskQueue
