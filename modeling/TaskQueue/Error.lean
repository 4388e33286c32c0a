import TaskQueue.Record.Wire
import TaskQueue.Remote.Fault
import TaskQueue.TaskOption.Parser
import TaskQueue.TaskOption.Printer

/-!
# Errors

`BrokerError` lists what a store answers when it does not take a task, and `Error` what the client tells
its caller.  Each is a cause; the wording is in the functions named `message`.  `Error.isValidation`,
`Error.isConflict` and `Error.ofBroker` are `Error::is_validation`, `Error::is_conflict` and the conversion of
a `BrokerError`.

Principal facts: `Error.isConflict_ofBroker` — a store's answer is a conflict for the caller exactly when
the task or its id is already there; `Error.isValidation_ofBroker` — no answer of a store counts as a
fault of the submission itself.
-/

set_option autoImplicit false

namespace TaskQueue

open Text

/-- What is wrong with an option, in words. -/
def OptionFault.message : OptionFault → String
  | noValue text => "invalid option format: " ++ text
  | unclosed text => "missing closing parenthesis: " ++ text
  | badValue name value => "invalid " ++ name ++ " value: " ++ value
  | badName name => "invalid option name: " ++ Quoted.quote name
  | outOfRange option => option.print ++ " is out of range"
  | stated text => text

/-- A number in words. -/
def numeral (n : Nat) : String := String.ofList (Decimal.ofNat n)

/-- A signed word in words. -/
def signedNumeral (n : Int64) : String := String.ofList (Decimal.ofInt n.toInt)

/-- What is wrong with the bytes of a record, in words. -/
def WireFault.message : WireFault → String
  | badVarint => "invalid varint"
  | badKey key => "invalid key value: " ++ numeral key
  | badWireType code => "invalid wire type value: " ++ numeral code
  | badNumber => "invalid tag value: 0"
  | underflow => "buffer underflow"
  | wrongType actual expected =>
    "invalid wire type: " ++ actual.name ++ " (expected " ++ expected.name ++ ")"
  | notText => "invalid string value: data is not UTF-8 encoded"
  | strayEnd => "unexpected end group tag"
  | tooDeep => "recursion limit reached"

/-- Why a record cannot be read, in words. -/
def DecodeFault.message (f : DecodeFault) : String :=
  "failed to decode Protobuf message: " ++
    (match f.field with
    | some label => "TaskMessage." ++ label ++ ": "
    | none => "") ++ f.fault.message

/-- Why a record cannot be written, in words. -/
def CapacityFault.message (f : CapacityFault) : String :=
  "failed to encode Protobuf message; insufficient buffer capacity (required: " ++
    numeral f.required ++ ", remaining: " ++ numeral f.remaining ++ ")"

/-- What is wrong with a configuration. -/
inductive ConfigFault where
  /-- No time is allowed for connecting. -/
  | connectionTimeout
  /-- No time is allowed for answers. -/
  | responseTimeout
  /-- A connection descriptor of a scheme that is not supported. -/
  | unsupported (descriptor : String)
  /-- A fault in the words of the caller. -/
  | stated (text : String)
  deriving DecidableEq, Repr

/-- What is wrong with a configuration, in words. -/
def ConfigFault.message : ConfigFault → String
  | connectionTimeout => "Connection timeout must be greater than 0"
  | responseTimeout => "Response timeout must be greater than 0"
  | unsupported descriptor => "unsupported connection descriptor: " ++ descriptor
  | stated text => text

/-- Why a store does not take a task. -/
inductive BrokerError where
  /-- A live guard refuses a second task of the same queue, type and payload. -/
  | duplicateTask
  /-- The id is taken. -/
  | taskIdConflict
  /-- The store is closed. -/
  | closed
  /-- The remote store or the connection to it failed. -/
  | remote (fault : RemoteFault)
  /-- The record does not fit its buffer. -/
  | encode (fault : CapacityFault)
  /-- A script answered with a number that has no meaning. -/
  | unexpectedReply (code : Int64)
  deriving DecidableEq, Repr

/-- A store's answer in words. -/
def BrokerError.message : BrokerError → String
  | duplicateTask => "unique key already exists"
  | taskIdConflict => "task id already exists"
  | closed => "broker is closed"
  | remote fault => fault.message
  | encode fault => fault.message
  | unexpectedReply code => "unexpected reply " ++ signedNumeral code

/-- A failure of a store that has no error of its own for the caller. -/
inductive BrokerFailure where
  /-- A script answered with a number that has no meaning. -/
  | unexpectedReply (code : Int64)
  /-- A failure in the words of the caller. -/
  | stated (text : String)
  deriving DecidableEq, Repr

/-- A failure of a store in words. -/
def BrokerFailure.message : BrokerFailure → String
  | unexpectedReply code => "unexpected script reply: " ++ signedNumeral code
  | stated text => text

/-- What the client tells its caller when a request fails. -/
inductive Error where
  | remote (fault : RemoteFault)
  | encode (fault : CapacityFault)
  | decode (fault : DecodeFault)
  /-- A payload that is not JSON of the type wanted. -/
  | serialization
  | taskDuplicate
  | taskIdConflict
  | invalidQueueName (name : String)
  | invalidTaskType (typeName : String)
  | invalidTaskId (id : String)
  | invalidOption (fault : OptionFault)
  | clientClosed
  | config (fault : ConfigFault)
  | broker (failure : BrokerFailure)
  deriving DecidableEq, Repr

namespace Error

/-- An error in words. -/
def message : Error → String
  | remote fault => "Redis connection error: " ++ fault.message
  | encode fault => "Protocol buffer encoding error: " ++ fault.message
  | decode fault => "Protocol buffer decoding error: " ++ fault.message
  | serialization => "Serialization error"
  | taskDuplicate => "task already exists"
  | taskIdConflict => "task ID conflicts with another task"
  | invalidQueueName name => "Invalid queue name: " ++ Quoted.quote name
  | invalidTaskType typeName => "Invalid task type: " ++ Quoted.quote typeName
  | invalidTaskId id => "Invalid task ID: " ++ Quoted.quote id
  | invalidOption fault => "Invalid option: " ++ fault.message
  | clientClosed => "Client closed"
  | config fault => "Configuration error: " ++ fault.message
  | broker failure => "Broker error: " ++ failure.message

/-- Whether the submission itself is at fault. -/
def isValidation : Error → Bool
  | invalidQueueName _ | invalidTaskType _ | invalidTaskId _ | invalidOption _ => true
  | _ => false

/-- Whether the task or its id is already there. -/
def isConflict : Error → Bool
  | taskDuplicate | taskIdConflict => true
  | _ => false

/-- What a store's answer means for the caller. -/
def ofBroker : BrokerError → Error
  | .duplicateTask => taskDuplicate
  | .taskIdConflict => taskIdConflict
  | .closed => clientClosed
  | .remote fault => remote fault
  | .encode fault => encode fault
  | .unexpectedReply code => broker (.unexpectedReply code)

theorem isConflict_ofBroker (e : BrokerError) :
    (ofBroker e).isConflict = true ↔ e = .duplicateTask ∨ e = .taskIdConflict := by
  cases e <;> simp [ofBroker, isConflict]

theorem isValidation_ofBroker (e : BrokerError) : (ofBroker e).isValidation = false := by
  cases e <;> rfl

end Error

end TaskQueue
