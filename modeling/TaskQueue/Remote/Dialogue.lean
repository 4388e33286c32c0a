import TaskQueue.Remote.Command
import TaskQueue.Remote.Reply

/-!
# Dialogues

A dialogue is what one side of a conversation with the remote store does: it sends a command, waits
for the reply, and goes on as the reply says.  That no reply comes is one of the replies (`Reply.lost`).
Run against a peer it has a result and a transcript of the commands that were sent.

Principal facts: the laws of a monad.
-/

set_option autoImplicit false

namespace TaskQueue

/-- One side of a conversation with the remote store. -/
inductive Dialogue (α : Type) where
  | done (a : α)
  | send (command : Command) (next : Reply → Dialogue α)

namespace Dialogue

variable {α β γ σ : Type}

/-- A dialogue that goes on with the result of another. -/
def bind : Dialogue α → (α → Dialogue β) → Dialogue β
  | done a, f => f a
  | send command next, f => send command fun reply => (next reply).bind f

instance : Monad Dialogue where
  pure := done
  bind := bind

/-- Sends a command and gives back the reply. -/
def ask (command : Command) : Dialogue Reply := send command done

/-- A side of the conversation that answers commands and keeps a state of its own. -/
abbrev Peer (σ : Type) := Command → σ → Reply × σ

/-- What came of a dialogue with a peer. -/
structure Transcript (σ α : Type) where
  result : α
  /-- The commands in the order in which they were sent. -/
  sent : List Command
  /-- The state in which the peer was left. -/
  state : σ

/-- The dialogue with a peer in a state. -/
def run (peer : Peer σ) : Dialogue α → σ → Transcript σ α
  | done a, s => ⟨a, [], s⟩
  | send command next, s =>
    let (reply, s) := peer command s
    let rest := (next reply).run peer s
    { rest with sent := command :: rest.sent }

theorem done_bind (a : α) (f : α → Dialogue β) : (done a).bind f = f a := rfl

theorem bind_done (d : Dialogue α) : d.bind done = d := by
  induction d with
  | done a => rfl
  | send command next ih => simp [bind, ih]

theorem bind_assoc (d : Dialogue α) (f : α → Dialogue β) (g : β → Dialogue γ) :
    (d.bind f).bind g = d.bind fun a => (f a).bind g := by
  induction d with
  | done a => rfl
  | send command next ih => simp [bind, ih]

instance : LawfulMonad Dialogue :=
  LawfulMonad.mk' Dialogue bind_done done_bind bind_assoc

end Dialogue

end TaskQueue
