import Mathlib.Data.Nat.Log
import TaskQueue.Proofs.Record.RoundTrip
import TaskQueue.Proofs.Remote.Closing
import TaskQueue.Proofs.Store.Refusal

/-!
# The size of a wire form

A buffer is made for a record before the record is written, so its size is computed without writing: a
number counts by the length of its binary form, a text by the number of its bytes and by the number that
stands before them.  Writing goes another way, seven bits at a time.  The two agree as long as the lengths
of the texts have 64 bits, so no record is too long for the buffer that was made for it.

Principal results: `Varint.length_write` — numbers; `Field.length_encode` and `Record.length_encode` —
fields and records; `computed_size_is_written_size` — buffers of any size, and the two stores.
-/

set_option autoImplicit false

namespace TaskQueue

/-! ## Numbers -/

namespace Varint

/-- The lowest bit does not change the length of a binary form. -/
theorem log2_or_one (n : Nat) : Nat.log2 (n ||| 1) = Nat.log2 n := by
  by_cases hn : 2 ≤ n
  · have hor : 2 ≤ n ||| 1 := Nat.le_trans hn Nat.left_le_or
    rw [Nat.log2_def (n ||| 1), Nat.log2_def n, if_pos hor, if_pos hn, Nat.or_div_two,
      show 1 / 2 = 0 from rfl, Nat.or_zero]
  · have hsmall : n = 0 ∨ n = 1 := by omega
    rcases hsmall with rfl | rfl <;> rfl

/-- One group of seven bits less. -/
theorem log2_div_group (n : Nat) : Nat.log2 (n / 128) = Nat.log2 n - 7 := by
  rw [Nat.log2_eq_log_two, Nat.log2_eq_log_two]
  exact Nat.log_div_base_pow 2 n 7

/-- A number is written with one byte for each group of seven bits, and with one byte at least. -/
theorem length_write_eq (n : Nat) : (write n).length = Nat.log2 n / 7 + 1 := by
  fun_induction write n with
  | case1 n hn =>
    have hlog : Nat.log2 n < 7 := by
      by_cases hzero : n = 0
      · rw [hzero]
        decide
      · exact (Nat.log2_lt hzero).mpr hn
    rw [List.length_singleton, Nat.div_eq_of_lt hlog]
  | case2 n hn ih =>
    have hlog : 7 ≤ Nat.log2 n := (Nat.le_log2 (by omega)).mpr (Nat.not_lt.mp hn)
    rw [List.length_cons, ih, log2_div_group]
    omega

/-- Nine sixty-fourths stand for a seventh. -/
theorem groups_eq : ∀ bits < 64, (bits * 9 + 73) / 64 = bits / 7 + 1 := by decide

/-- **The computed length of a number** is the number of bytes in which it is written. -/
theorem length_write {n : Nat} (h : n < 2 ^ 64) : (write n).length = size n := by
  have hbits : Nat.log2 n < 64 := by
    by_cases hzero : n = 0
    · rw [hzero]
      decide
    · exact (Nat.log2_lt hzero).mpr h
  rw [length_write_eq, size, log2_or_one, groups_eq _ hbits]

end Varint

/-! ## Fields and records -/

theorem WireValue.length_write {v : WireValue} (h : v.Fits) : v.write.length = v.size := by
  cases v with
  | varint n => exact Varint.length_write h
  | delimited bs => rw [write, size, List.length_append, Varint.length_write h]

theorem Field.length_encode {f : Field} (h : f.value.Fits) : f.encode.length = f.size := by
  have hnumber := Wire.number_lt f
  have hcode := Wire.code_lt f.value.wireType
  have hkey : key f.number f.value.wireType < 2 ^ 64 := by
    rw [key]
    omega
  rw [encode, size, List.length_append, Varint.length_write hkey, WireValue.length_write h]

namespace Record

/-- **The computed size of a record** is the number of bytes in which it is written. -/
theorem length_encode {r : Record} (h : r.Fits) : r.encode.length = r.size := by
  rw [encode, size, List.length_flatMap]
  exact congrArg List.sum (List.map_congr_left fun f hf => Field.length_encode (h f hf))

/-- A buffer takes a record if it has room for as many bytes as the record is computed to have. -/
theorem encodeInto_eq_ok_iff {r : Record} {room : Nat} {bs : Bytes} :
    r.encodeInto room = .ok bs ↔ r.size ≤ room ∧ r.encode = bs := by
  unfold encodeInto
  split
  · rename_i hroom
    simp [hroom]
  · rename_i hroom
    simp [hroom]

theorem encodeInto_eq_error_iff {r : Record} {room : Nat} {fault : CapacityFault} :
    r.encodeInto room = .error fault ↔ room < r.size ∧ fault = ⟨r.size, room⟩ := by
  unfold encodeInto
  split
  · rename_i hroom
    simp [Nat.not_lt.mpr hroom]
  · rename_i hroom
    simp [Nat.not_le.mp hroom, eq_comm]

end Record

/-! ## The stores -/

/-- A store in memory never lacks the room for a record. -/
theorem Store.submit_ne_encode (s : Store) (now : Tick) (call : Call) (fault : CapacityFault) :
    (s.submit now call).1 ≠ .error (.encode fault) := by
  intro h
  rcases submit_error_cases h with ⟨he, -⟩ | ⟨-, -, he | he⟩ <;> cases he

/-- A session never lacks the room for a record, whatever the replies. -/
theorem Session.submit_ne_encode {s : Session} {now : Instant} {call : Call} {log : List Exchange}
    {answer : Answer BrokerError Unit} (h : (s.submit now call).Trace log answer) (fault : CapacityFault) :
    answer.result ≠ .error (.encode fault) := by
  cases hheld : s.held with
  | false =>
    rw [submit_eq_of_released hheld] at h
    obtain ⟨-, rfl⟩ := Dialogue.trace_done_iff.mp h
    simp
  | true =>
    rw [submit_eq_of_held hheld] at h
    obtain ⟨reply, rest, -, hnext⟩ := Dialogue.trace_send_iff.mp h
    cases hr : reply.fault? with
    | some f =>
      rw [hr] at hnext
      obtain ⟨-, rfl⟩ := Dialogue.trace_done_iff.mp hnext
      simp
    | none =>
      rw [hr] at hnext
      obtain ⟨outcome, _, _, -, -, hdone⟩ := Dialogue.trace_bind_iff.mp hnext
      obtain ⟨-, rfl⟩ := Dialogue.trace_done_iff.mp hdone
      rcases verdict_cases outcome.result with ⟨hv, -⟩ | ⟨hv, -⟩ | ⟨hv, -⟩ | ⟨n, hv, -⟩ | ⟨f, hv, -⟩ <;>
        simp [hv]

/-- **The computed size is the written size.**  A record whose texts and payload have lengths of 64 bits is
written in just as many bytes as it is computed to have.  So a buffer takes it exactly if it has room for
that many bytes, and otherwise says how many are needed and how many there is room for; the buffer that
is made for it takes it, and no store ever answers a submission of it with a lack of room. -/
theorem computed_size_is_written_size (r : Record) (h : r.Fits) :
    r.encode.length = r.size ∧
      (∀ room bs, r.encodeInto room = .ok bs ↔ r.size ≤ room ∧ r.encode = bs) ∧
      (∀ room fault, r.encodeInto room = .error fault ↔
        room < r.size ∧ fault.required = r.size ∧ fault.remaining = room) ∧
      r.encodeInto r.size = .ok r.encode ∧
      (∀ (s : Store) (now : Tick) (route : Route) (fault : CapacityFault),
        (s.submit now ⟨r, route⟩).1 ≠ .error (.encode fault)) ∧
      ∀ (s : Session) (now : Instant) (route : Route) (log : List Exchange) (answer : Answer BrokerError Unit),
        (s.submit now ⟨r, route⟩).Trace log answer → ∀ fault, answer.result ≠ .error (.encode fault) := by
  refine ⟨Record.length_encode h, fun room bs => Record.encodeInto_eq_ok_iff, ?_, Record.encodeInto_size r,
    fun s now route fault => s.submit_ne_encode now ⟨r, route⟩ fault,
    fun s now route log answer htrace => Session.submit_ne_encode htrace⟩
  intro room fault
  rw [Record.encodeInto_eq_error_iff]
  refine and_congr_right fun _ => ?_
  cases fault
  rw [CapacityFault.mk.injEq]

/-- A payload whose length takes two bytes and a negative number, which takes ten, in a buffer that is a byte
too short and in one that is just long enough. -/
theorem computed_size_is_written_size_of_boundary :
    let r : Record := { payload := List.replicate 128 0xff, retry := -1 }
    r.Fits ∧ r.encode.length = 142 ∧ r.encodeInto 141 = .error ⟨142, 141⟩ ∧
      r.encodeInto 142 = .ok r.encode := by
  intro r
  have hsize : r.size = 142 := by decide +kernel
  have hfits : r.Fits := Record.fits_of_length (by decide +kernel)
  obtain ⟨hlength, htakes, hlacks, -⟩ := computed_size_is_written_size r hfits
  refine ⟨hfits, hlength.trans hsize, (hlacks 141 ⟨142, 141⟩).mpr ?_, (htakes 142 r.encode).mpr ?_⟩
  · rw [hsize]
    decide
  · exact ⟨Nat.le_of_eq hsize, rfl⟩

end TaskQueue
