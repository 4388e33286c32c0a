import TaskQueue.Proofs.Record.RoundTrip

/-!
# Wire forms one after the other

A reader takes no more than one field at a time and never looks behind it, so what it has read stays read
when more bytes follow.  The wire form of a record that is put behind other bytes is therefore merged into
the record that these bytes hold: a field that is written replaces the one that was there, a field that is
left out does not.

Principal results: `Wire.readField_append` — a field is read in the same way whatever follows, a field that
is passed over and its groups included; `Record.merge_append` — reading two pieces is reading the second
into the record of the first; `merged_by_concatenation` — what the bytes of a record do behind any others.
-/

set_option autoImplicit false

namespace TaskQueue

namespace Varint

theorem readFrom_append {k : Nat} {bs rest : Bytes} {n : Nat} (h : readFrom k bs = some (n, rest))
    (more : Bytes) : readFrom k (bs ++ more) = some (n, rest ++ more) := by
  induction k generalizing bs n with
  | zero => cases h
  | succ k ih =>
    cases bs with
    | nil => cases h
    | cons b tail =>
      rw [readFrom] at h
      rw [List.cons_append, readFrom]
      split at h
      · rename_i hlast
        rw [if_pos hlast]
        split at h
        · cases h
        · rename_i hfits
          cases h
          rw [if_neg hfits]
      · rename_i hmore
        rw [if_neg hmore]
        obtain ⟨⟨high, rest'⟩, hhigh, heq⟩ := Option.map_eq_some_iff.mp h
        simp only [Prod.mk.injEq] at heq
        obtain ⟨rfl, rfl⟩ := heq
        rw [ih hhigh, Option.map_some]

end Varint

namespace Wire

variable {bs rest : Bytes}

theorem readVarint_append {n : Nat} (h : readVarint bs = .ok (n, rest)) (more : Bytes) :
    readVarint (bs ++ more) = .ok (n, rest ++ more) := by
  unfold readVarint Varint.read at h ⊢
  split at h
  · rename_i hr
    cases h
    rw [Varint.readFrom_append hr]
  · cases h

theorem takeBytes_append_right {n : Nat} {front : Bytes} (h : takeBytes n bs = .ok (front, rest))
    (more : Bytes) : takeBytes n (bs ++ more) = .ok (front, rest ++ more) := by
  unfold takeBytes at h ⊢
  split at h
  · rename_i hle
    cases h
    rw [if_pos (by rw [List.length_append]; omega), List.take_append_of_le_length hle,
      List.drop_append_of_le_length hle]
  · cases h

theorem readDelimited_append {front : Bytes} (h : readDelimited bs = .ok (front, rest)) (more : Bytes) :
    readDelimited (bs ++ more) = .ok (front, rest ++ more) := by
  unfold readDelimited at h ⊢
  split at h
  · rename_i n tail hv
    rw [readVarint_append hv]
    exact takeBytes_append_right h more
  · cases h

theorem readKey_append {k : Nat × WireType} (h : readKey bs = .ok (k, rest)) (more : Bytes) :
    readKey (bs ++ more) = .ok (k, rest ++ more) := by
  unfold readKey at h ⊢
  split at h
  · cases h
  · rename_i key tail hv
    rw [readVarint_append hv]
    split at h
    · cases h
    · rename_i hlt
      simp only [if_neg hlt]
      split at h
      · cases h
      · split at h
        · cases h
        · rename_i hpos
          cases h
          rw [if_neg hpos]

/-! ## Fields that are passed over -/

theorem map_eq_ok_iff {ε α β : Type} {x : Except ε α} {f : α → β} {b : β} :
    x.map f = .ok b ↔ ∃ a, x = .ok a ∧ f a = b := by
  cases x with
  | error e => simp [Except.map]
  | ok a => simp [Except.map]

theorem skipScalar_append {wire : WireType} (h : skipScalar wire bs = .ok rest) (more : Bytes) :
    skipScalar wire (bs ++ more) = .ok (rest ++ more) := by
  cases wire with
  | varint =>
    obtain ⟨⟨n, tail⟩, hn, rfl⟩ := map_eq_ok_iff.mp h
    exact map_eq_ok_iff.mpr ⟨_, readVarint_append hn more, rfl⟩
  | sixtyFourBit =>
    obtain ⟨⟨front, tail⟩, hfront, rfl⟩ := map_eq_ok_iff.mp h
    exact map_eq_ok_iff.mpr ⟨_, takeBytes_append_right hfront more, rfl⟩
  | thirtyTwoBit =>
    obtain ⟨⟨front, tail⟩, hfront, rfl⟩ := map_eq_ok_iff.mp h
    exact map_eq_ok_iff.mpr ⟨_, takeBytes_append_right hfront more, rfl⟩
  | lengthDelimited =>
    obtain ⟨⟨front, tail⟩, hfront, rfl⟩ := map_eq_ok_iff.mp h
    exact map_eq_ok_iff.mpr ⟨_, readDelimited_append hfront more, rfl⟩
  | startGroup => cases h
  | endGroup => cases h

/-- How the rest of a group is passed over, once the key of its next field is read. -/
theorem skipGroup_of_readKey {opened : List Nat} {number : Nat} {wire : WireType}
    (h : readKey bs = .ok ((number, wire), rest)) :
    skipGroup opened bs =
      if wire = .endGroup then
        if opened.head? ≠ some number then .error .strayEnd
        else if opened.tail.isEmpty then .ok rest
        else skipGroup opened.tail rest
      else if maxDepth ≤ opened.length then .error .tooDeep
      else if wire = .startGroup then skipGroup (number :: opened) rest
      else (skipScalar wire rest).bind (skipGroup opened) := by
  rw [skipGroup]
  split
  · rename_i e he
    rw [h] at he
    cases he
  · rename_i number' wire' rest' hk
    rw [h] at hk
    cases hk
    cases hs : skipScalar wire rest with
    | error e => simp [Except.bind]
    | ok tail => simp [Except.bind]

theorem skipGroup_append {opened : List Nat} (h : skipGroup opened bs = .ok rest) (more : Bytes) :
    skipGroup opened (bs ++ more) = .ok (rest ++ more) := by
  fun_induction skipGroup opened bs with
  | case1 => cases h
  | case2 => cases h
  | case3 opened bs number rest' hopened hlast hk =>
    cases h
    rw [skipGroup_of_readKey (readKey_append hk more), if_pos rfl, if_neg hopened, if_pos hlast]
  | case4 opened bs number rest' hopened hlast hk ih =>
    rw [skipGroup_of_readKey (readKey_append hk more), if_pos rfl, if_neg hopened, if_neg hlast]
    exact ih h
  | case5 => cases h
  | case6 opened bs number rest' hdepth hk hend ih =>
    rw [skipGroup_of_readKey (readKey_append hk more), if_neg hend, if_neg hdepth, if_pos rfl]
    exact ih h
  | case7 => cases h
  | case8 opened bs number wire rest' hk hend hdepth hstart rest'' hs ih =>
    rw [skipGroup_of_readKey (readKey_append hk more), if_neg hend, if_neg hdepth, if_neg hstart,
      skipScalar_append hs more]
    exact ih h

theorem skipValue_append {number : Nat} {wire : WireType} (h : skipValue number wire bs = .ok rest)
    (more : Bytes) : skipValue number wire (bs ++ more) = .ok (rest ++ more) := by
  unfold skipValue at h ⊢
  split at h
  · rename_i hgroup
    rw [if_pos hgroup]
    exact skipGroup_append h more
  · rename_i hscalar
    rw [if_neg hscalar]
    exact skipScalar_append h more

/-! ## Fields -/

theorem readValue_append {shape : FieldShape} {wire : WireType} {f : Field}
    (h : readValue shape wire bs = .ok (f, rest)) (more : Bytes) :
    readValue shape wire (bs ++ more) = .ok (f, rest ++ more) := by
  unfold readValue at h ⊢
  split at h
  · cases h
  · rename_i htype
    rw [if_neg htype]
    cases shape with
    | text make =>
      simp only at h ⊢
      split at h
      · cases h
      · rename_i front tail hd
        rw [readDelimited_append hd more]
        split at h
        · rename_i s hs
          cases h
          simp only [hs]
        · cases h
    | bytes make =>
      obtain ⟨⟨front, tail⟩, hd, heq⟩ := map_eq_ok_iff.mp h
      cases heq
      exact map_eq_ok_iff.mpr ⟨_, readDelimited_append hd more, rfl⟩
    | int32 make =>
      obtain ⟨⟨n, tail⟩, hn, heq⟩ := map_eq_ok_iff.mp h
      cases heq
      exact map_eq_ok_iff.mpr ⟨_, readVarint_append hn more, rfl⟩
    | int64 make =>
      obtain ⟨⟨n, tail⟩, hn, heq⟩ := map_eq_ok_iff.mp h
      cases heq
      exact map_eq_ok_iff.mpr ⟨_, readVarint_append hn more, rfl⟩

/-- **A field is read in the same way whatever follows it**, a known one and one that is passed over. -/
theorem readField_append {f : Option Field} (h : readField bs = .ok (f, rest)) (more : Bytes) :
    readField (bs ++ more) = .ok (f, rest ++ more) := by
  unfold readField at h ⊢
  split at h
  · cases h
  · rename_i number wire tail hk
    rw [readKey_append hk more]
    split at h
    · rename_i label shape hknown
      split at h
      · cases h
      · rename_i g tail' hv
        cases h
        simp only [hknown, readValue_append hv more]
    · rename_i hunknown
      split at h
      · cases h
      · rename_i tail' hs
        cases h
        simp only [hunknown, skipValue_append hs more]

end Wire

namespace Record

/-- **Two pieces are read one after the other**: the second is merged into the record of the first. -/
theorem merge_append {r r' : Record} {bs : Bytes} (h : merge r bs = .ok r') (more : Bytes) :
    merge r (bs ++ more) = merge r' more := by
  fun_induction merge r bs with
  | case1 r bs hnil =>
    cases h
    rw [List.isEmpty_iff.mp hnil, List.nil_append]
  | case2 => cases h
  | case3 r bs hne f rest hfield ih =>
    rw [merge_of_readField (Wire.readField_append hfield more)]
    exact ih h

end Record

/-- **The wire form of a record is merged into whatever stands before it.**  Behind bytes that hold the
record `m₀` it replaces the fields in which `m` has no default and leaves the others; alone it is read back
as `m`, and no two records have the same wire form. -/
theorem merged_by_concatenation :
    (∀ (b : Bytes) (m₀ m : Record), m.Fits → Record.decode b = .ok m₀ →
        Record.decode (b ++ m.encode) = .ok (m₀.overlay m)) ∧
      (∀ m : Record, m.Fits → Record.decode m.encode = .ok m) ∧
      ∀ m m' : Record, m.Fits → m'.Fits → m.encode = m'.encode → m = m' := by
  refine ⟨?_, fun m => Record.decode_encode_of_fits, ?_⟩
  · intro b m₀ m hfits hb
    rw [Record.decode, Record.merge_append hb, Record.merge_encode m₀ hfits]
  · intro m m' hfits hfits' heq
    have hread : Except.ok m = Except.ok m' := calc
      (Except.ok m : Except DecodeFault Record) = Record.decode m.encode :=
        (Record.decode_encode_of_fits hfits).symm
      _ = Record.decode m'.encode := by rw [heq]
      _ = .ok m' := Record.decode_encode_of_fits hfits'
    exact Except.ok.inj hread

/-- Behind a group that is passed over, a count and a text, a negative count replaces the count. -/
theorem merged_by_concatenation_of_negative :
    let b : Bytes := [0x9b, 0x06, 0x08, 0x01, 0x9c, 0x06, 0x28, 0x05, 0x0a, 0x01, 0x61]
    let m : Record := { retry := -1, payload := [0xff] }
    m.Fits ∧ Record.decode b = .ok { typeName := "a", retry := 5 } ∧
      Record.decode (b ++ m.encode) = .ok { typeName := "a", retry := -1, payload := [0xff] } := by
  intro b m
  have hfits : m.Fits := Record.fits_of_length (by decide +kernel)
  have hb : Record.decode b = .ok { typeName := "a", retry := 5 } := by with_unfolding_all rfl
  exact ⟨hfits, hb, merged_by_concatenation.1 b _ m hfits hb⟩

end TaskQueue
