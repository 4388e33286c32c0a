import TaskQueue.Payload
import TaskQueue.Proofs.Client.Receipts
import TaskQueue.Proofs.Json.RoundTrip

/-!
# JSON payloads of submitted tasks

A JSON payload goes through two writers, one into the other: as text into the task, and as bytes into the
record that the store keeps.  Each of the two readers undoes its writer.

Principal results: `Task.readPayload_ofJson` — a task gives back the value it was made of;
`json_payload_survives` — so does the record that a store holds for it, at once and later.
-/

set_option autoImplicit false

namespace TaskQueue

/-- **What a client has a receipt for is accepted**, after the calls before it, and stays so. -/
theorem Moment.contents_of_receipt (c : Clock) (before after : List Event) {x : Submission} {now : Instant}
    {info : Receipt} (h : (((start c).run before).enqueue x now).1.result = .ok info) :
    ∃ call, x.call? now = .ok call ∧ info = Client.receipt call now ∧
      let m := (start c).run before
      let m' : Moment := { m with store := (m.enqueue x now).2 }
      (m'.run after).Contents
        ((start c).accepted before ++ [⟨m.clock.steady, call⟩] ++ m'.accepted after) := by
  obtain ⟨call, hx, htaken, hinfo⟩ := exists_call_of_receipt h
  obtain ⟨hopen, hfree⟩ := Store.submit_eq_ok_iff.mp htaken
  refine ⟨call, hx, hinfo, run_induction Contents.step after ?_⟩
  rw [(enqueue_of_ok hx).2, Store.submit_eq_of_free hopen hfree]
  exact (contents_run c before).take hfree

/-- **A task gives back the JSON value that it was made of.** -/
theorem Task.readPayload_ofJson {task : Task} {v : Json} (h : v.Exact) (hdepth : v.depth < 128)
    (hpayload : task.payload = v.encode) : task.readPayload some = .ok v.normal := by
  have hread := Json.decode?_encode h (Nat.le_of_lt_succ hdepth)
  rw [readPayload, hpayload, hread]
  rfl

/-- **A JSON payload survives its submission.**  Let `v` be a JSON value whose numbers are integers of 64
bits, signed or unsigned, and in which fewer than 128 lists and objects lie inside one another.  The task
made of it gives it back, with the members of objects in the order of their keys, that is, unchanged if
they are in that order already; for each key an object holds what was said last for it.  In any run, let a
client be given a receipt for the task, with whatever options.  Then and in every later state the store holds
the task with a record whose payload still gives back the same value. -/
theorem json_payload_survives (typeName : String) {v : Json} (hexact : v.Exact) (hdepth : v.depth < 128) :
    (Task.ofJson typeName v).readPayload some = .ok v.normal ∧ (v.Ordered → v.normal = v) ∧
      (v.normal.Ordered ∧ ∀ key, v.normal.get? key = (v.last? key).map Json.normal) ∧
      ∀ (c : Clock) (before after : List Event) (defaults opts : List TaskOption) (freshId : String)
        (now : Instant),
        let x : Submission := ⟨{ Task.ofJson typeName v with options := defaults }, opts, freshId⟩
        let m := (Moment.start c).run before
        let m' : Moment := { m with store := (m.enqueue x now).2 }
        ∀ info, (m.enqueue x now).1.result = .ok info → ∃ a, x.settings? now = .ok a ∧
          let r := Record.ofTask x.task a
          (r.encode.length < 2 ^ 64 →
            (m'.run after).store.taskRecord? info.queue info.id = .ok (some r)) ∧
          Task.readPayload some ⟨r.typeName, r.payload, []⟩ = .ok v.normal := by
  refine ⟨Task.readPayload_ofJson hexact hdepth rfl, Json.normal_of_ordered,
    ⟨v.ordered_normal, v.get?_normal⟩, ?_⟩
  intro c before after defaults opts freshId now x m m' info h
  obtain ⟨call, hx, rfl, hlater⟩ := Moment.contents_of_receipt c before after h
  obtain ⟨-, a, ha, hcall⟩ := Submission.call?_eq_ok_iff.mp hx
  have hheld := hlater.describes
    (List.mem_append_left _ (List.mem_append_right _ (List.mem_singleton_self _))) now
  refine ⟨a, ha, ?_, Task.readPayload_ofJson hexact hdepth rfl⟩
  rw [hcall] at hheld ⊢
  exact hheld.record

/-- The two ends of the range of integers, and texts with a quote, a backslash, control characters and a
character of four bytes. -/
theorem json_payload_survives_of_nested :
    let v : Json := .members
      [("\"\\", .array [.int (-2 ^ 63), .int (2 ^ 64 - 1), .members [], .string "\x01\né😀"]), ("😀", .null)]
    let x : Submission := ⟨Task.ofJson "report" v, [.retention (.ofNanos 10)], "1"⟩
    let m := Moment.start ⟨some .epoch, 0⟩
    let m' : Moment := { m with store := (m.enqueue x .epoch).2 }
    (Task.ofJson "report" v).readPayload some = .ok v ∧
      ∃ r, (m'.run [.close]).store.taskRecord? "default" "1" = .ok (some r) ∧
        Task.readPayload some ⟨r.typeName, r.payload, []⟩ = .ok v := by
  intro v x m m'
  have hexact : v.Exact := by
    refine .members ?_
    simp only [List.forall_mem_cons]
    refine ⟨.array ?_, .null, List.forall_mem_nil _⟩
    simp only [List.forall_mem_cons]
    exact ⟨.int (by decide) (by decide), .int (by decide) (by decide), .members (List.forall_mem_nil _),
      .string _, List.forall_mem_nil _⟩
  have hordered : v.Ordered := by
    refine .members (by decide +kernel) ?_
    simp only [List.forall_mem_cons]
    refine ⟨.array ?_, .null, List.forall_mem_nil _⟩
    simp only [List.forall_mem_cons]
    exact ⟨.int _, .int _, .members List.Pairwise.nil (List.forall_mem_nil _), .string _,
      List.forall_mem_nil _⟩
  obtain ⟨htask, hnormal, -, hheld⟩ := json_payload_survives "report" hexact (by decide)
  have hx : x.call? .epoch = .ok _ :=
    Submission.call?_eq_ok_iff.mpr ⟨by decide +kernel, _, rfl, rfl⟩
  have hresult := (@Moment.enqueue_of_ok m _ _ _ hx).1
  rw [Store.submit_eq_ok_iff.mpr ⟨rfl, by decide +kernel⟩] at hresult
  obtain ⟨a, ha, hrecord, hread⟩ := hheld ⟨some .epoch, 0⟩ [] [.close] [] _ "1" .epoch _ hresult
  cases ha
  rw [hnormal hordered] at htask hread
  exact ⟨htask, _, hrecord (by decide +kernel), hread⟩

end TaskQueue
