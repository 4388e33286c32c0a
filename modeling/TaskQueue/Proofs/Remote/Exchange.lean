import TaskQueue.Remote.Dialogue

/-!
# What is said in a dialogue

A dialogue together with a sequence of replies determines the commands that are sent and the result.
`Dialogue.Trace` relates the three without a peer, so what holds of every trace holds whatever the
replies are.

Principal results: `Dialogue.trace_bind_iff` — the trace of a dialogue that goes on is a trace of its
first part and one of the rest; `Dialogue.trace_run` — what is said with a peer is a trace.
-/

set_option autoImplicit false

namespace TaskQueue

/-- A command and the reply to it. -/
structure Exchange where
  command : Command
  reply : Reply

namespace Dialogue

variable {α β σ : Type}

/-- `d.Trace log a`: as long as the replies are those of `log`, the dialogue `d` sends the commands of
`log` and ends with `a`. -/
inductive Trace : Dialogue α → List Exchange → α → Prop where
  | done (a : α) : Trace (done a) [] a
  | send {command : Command} {next : Reply → Dialogue α} {reply : Reply} {log : List Exchange} {a : α}
      (h : Trace (next reply) log a) : Trace (send command next) (⟨command, reply⟩ :: log) a

theorem trace_done_iff {a b : α} {log : List Exchange} :
    (done a).Trace log b ↔ log = [] ∧ b = a := by
  constructor
  · intro h
    cases h
    exact ⟨rfl, rfl⟩
  · rintro ⟨rfl, rfl⟩
    exact .done b

theorem trace_send_iff {command : Command} {next : Reply → Dialogue α} {a : α} {log : List Exchange} :
    (send command next).Trace log a ↔
      ∃ reply rest, log = ⟨command, reply⟩ :: rest ∧ (next reply).Trace rest a := by
  constructor
  · intro h
    cases h with
    | @send _ _ reply rest _ h => exact ⟨reply, rest, rfl, h⟩
  · rintro ⟨reply, rest, rfl, h⟩
    exact .send h

/-- **A dialogue that goes on** is first one dialogue and then the next. -/
theorem trace_bind_iff {d : Dialogue α} {f : α → Dialogue β} {b : β} {log : List Exchange} :
    (d.bind f).Trace log b ↔
      ∃ a first rest, log = first ++ rest ∧ d.Trace first a ∧ (f a).Trace rest b := by
  induction d generalizing log with
  | done a =>
    constructor
    · intro h
      exact ⟨a, [], log, rfl, .done a, h⟩
    · rintro ⟨a', first, rest, rfl, hd, hf⟩
      obtain ⟨rfl, rfl⟩ := trace_done_iff.mp hd
      exact hf
  | send command next ih =>
    simp only [bind, trace_send_iff, ih]
    constructor
    · rintro ⟨reply, _, rfl, a, first, rest, rfl, hd, hf⟩
      exact ⟨a, ⟨command, reply⟩ :: first, rest, rfl, ⟨reply, first, rfl, hd⟩, hf⟩
    · rintro ⟨a, _, rest, rfl, ⟨reply, first, rfl, hd⟩, hf⟩
      exact ⟨reply, first ++ rest, rfl, a, first, rest, rfl, hd, hf⟩

/-- **What is said with a peer is a trace**: whatever the peer, there is one with its replies. -/
theorem trace_run (peer : Peer σ) (d : Dialogue α) (s : σ) :
    ∃ log, d.Trace log (d.run peer s).result ∧ log.map (·.command) = (d.run peer s).sent := by
  induction d generalizing s with
  | done a => exact ⟨[], .done a, rfl⟩
  | send command next ih =>
    obtain ⟨log, htrace, hsent⟩ := ih (peer command s).1 (peer command s).2
    exact ⟨⟨command, (peer command s).1⟩ :: log, .send htrace, by rw [List.map_cons, hsent]; rfl⟩

end Dialogue

end TaskQueue
