import TaskQueue.Config
import TaskQueue.Remote.Dialogue

/-!
# Sessions with the remote store

A session begins by loading the scripts and keeps the digests by which the store knows them.  A
submission registers its queue and runs its script by the digest; a store that has lost the script is
sent its text instead.

Model of `ScriptManager` and `RedisBroker`.  A session is used by one request at a time here; the requests of
`RedisBroker` overlap, which is what the line of a session is about.

Principal fact: `ping_of_released` — a ping sends nothing once the connection is given up.
-/

set_option autoImplicit false

namespace TaskQueue

/-- The digests by which the remote store knows the scripts that were loaded. -/
abbrev Shelf := List (Script × String)

namespace Shelf

/-- The digest of a script, if it was loaded. -/
def digest? (shelf : Shelf) (script : Script) : Option String := List.lookup script shelf

/-- Loads scripts one after the other and adds their digests to a shelf (`ScriptManager::load_scripts`). -/
def load (shelf : Shelf) : List Script → Dialogue (Except RemoteFault Shelf)
  | [] => .done (.ok shelf)
  | script :: rest =>
    .send (.loadScript script) fun reply =>
      match reply.toText with
      | .ok digest => load ((script, digest) :: shelf) rest
      | .error fault => .done (.error fault)

/-- Runs a script that is sent along. -/
def runText (script : Script) (i : Invocation) (notices : List Notice) :
    Dialogue (Answer RemoteFault Int64) :=
  .send (.runText script i) fun reply => .done ⟨reply.toInteger, notices⟩

/-- Runs a script (`ScriptManager::eval_script`): by its digest if it was loaded, and with its text if it was
not or if the store does not hold it any more. -/
def run (shelf : Shelf) (script : Script) (i : Invocation) : Dialogue (Answer RemoteFault Int64) :=
  match shelf.digest? script with
  | none => runText script i []
  | some digest =>
    .send (.runLoaded digest i) fun reply =>
      match reply.toInteger with
      | .ok code => .done ⟨.ok code, []⟩
      | .error fault =>
        if fault.isNoScript then runText script i [.scriptFlushed script.name]
        else .done ⟨.error fault, []⟩

/-- Runs the script of a name. -/
def runNamed (shelf : Shelf) (name : String) (i : Invocation) :
    Dialogue (Answer RemoteFault Int64) :=
  match Script.ofName? name with
  | some script => shelf.run script i
  | none => .done ⟨.error (.known .client "script not registered" (some name)), []⟩

end Shelf

/-- A connection to the remote store. -/
structure Session where
  shelf : Shelf
  /-- Whether the connection is still held. -/
  held : Bool
  deriving DecidableEq, Repr

namespace Session

/-- Connects to the remote store (`RedisBroker::new`). -/
def connect (config : Config) : Dialogue (Except Error Session) :=
  match config.validate with
  | .error e => .done (.error e)
  | .ok () => (Shelf.load [] Script.loadOrder).bind fun
    | .ok shelf => .done (.ok ⟨shelf, true⟩)
    | .error fault => .done (.error (.remote fault))

/-- What the outcome of a script means for the task. -/
def verdict : Except RemoteFault Int64 → Except BrokerError Unit
  | .ok code => Script.verdict code
  | .error fault => .error (.remote fault)

/-- Runs the script of a call whose record is written. -/
def runScript (s : Session) (call : Call) (encoded : Bytes) (now : Instant) :
    Dialogue (Answer BrokerError Unit) :=
  (s.shelf.run (.ofRoute call.route) (call.invocation encoded now)).bind fun answer =>
    .done ⟨verdict answer.result, answer.notices⟩

/-- Hands over a record at `now` (`RedisBroker::submit`, with what the four primitives do before they call
it). -/
def submit (s : Session) (now : Instant) (call : Call) : Dialogue (Answer BrokerError Unit) :=
  match call.record.encodeInto call.record.size with
  | .error fault => .done ⟨.error (.encode fault), []⟩
  | .ok encoded =>
    if s.held then
      .send (.registerQueue call.record.queue) fun reply =>
        match reply.check with
        | .error fault => .done ⟨.error (.remote fault), []⟩
        | .ok () => s.runScript call encoded now
    else .done ⟨.error .closed, []⟩

/-- Asks whether the store is there. -/
def ping (s : Session) : Dialogue (Answer BrokerError Unit) :=
  if s.held then
    .send .ping fun reply =>
      .done ⟨match reply.toText with
        | .ok _ => .ok ()
        | .error fault => .error (.remote fault), []⟩
  else .done ⟨.error .closed, []⟩

/-- Gives the connection up (`RedisBroker::release`). -/
def release (s : Session) : Session := { s with held := false }

/-- The remote store as a broker at `now`. -/
def broker (now : Instant) : Broker (StateT Session Dialogue) where
  submit call := do (← get).submit now call
  ping := do (← get).ping
  close := do
    let s ← get
    set s.release
    return ⟨.ok (), if s.held then [.remoteClosed] else []⟩

theorem ping_of_released {s : Session} (h : s.held = false) :
    s.ping = .done ⟨.error .closed, []⟩ := by
  unfold ping
  rw [if_neg (by simp [h])]

end Session

end TaskQueue
