/-!
# Faults of the remote store

What the connection reports instead of an answer: an error that the store signalled, an answer of the
wrong type, a request that could not be made, or a connection that is lost.
-/

set_option autoImplicit false

namespace TaskQueue

/-- The kinds of faults.  Only a missing script changes what happens next; the others are told apart in
messages. -/
inductive FaultKind where
  | response
  | execAbort
  | busyLoading
  | noScript
  | moved
  | ask
  | tryAgain
  | clusterDown
  | crossSlot
  | masterDown
  | readOnly
  | notBusy
  | notSubscribed
  | wrongType
  | client
  | invalidConfig
  | other (name : String)
  deriving DecidableEq, Repr

namespace FaultKind

/-- The word for a kind in messages. -/
def name : FaultKind → String
  | response => "ResponseError"
  | execAbort => "ExecAbortError"
  | busyLoading => "BusyLoadingError"
  | noScript => "NoScriptError"
  | moved => "Moved"
  | ask => "Ask"
  | tryAgain => "TryAgain"
  | clusterDown => "ClusterDown"
  | crossSlot => "CrossSlot"
  | masterDown => "MasterDown"
  | readOnly => "ReadOnly"
  | notBusy => "NotBusy"
  | notSubscribed => "NoSub"
  | wrongType => "TypeError"
  | client => "ClientError"
  | invalidConfig => "InvalidClientConfig"
  | other name => name

/-- The kinds that have a word of their own. -/
def named : List FaultKind :=
  [response, execAbort, busyLoading, noScript, moved, ask, tryAgain, clusterDown, crossSlot,
   masterDown, readOnly, notBusy, notSubscribed, wrongType, client, invalidConfig]

/-- The kind that a word names. -/
def ofName (word : String) : FaultKind := (named.find? fun k => k.name == word).getD (other word)

/-- The kind of an error that the store signals with a code, for the codes that have one. -/
def ofCode? (code : String) : Option FaultKind :=
  match code with
  | "ERR" => some response
  | "EXECABORT" => some execAbort
  | "LOADING" => some busyLoading
  | "NOSCRIPT" => some noScript
  | "MOVED" => some moved
  | "ASK" => some ask
  | "TRYAGAIN" => some tryAgain
  | "CLUSTERDOWN" => some clusterDown
  | "CROSSSLOT" => some crossSlot
  | "MASTERDOWN" => some masterDown
  | "READONLY" => some readOnly
  | "NOTBUSY" => some notBusy
  | "NOSUB" => some notSubscribed
  | _ => none

end FaultKind

/-- A fault of the remote store or of the connection to it. -/
inductive RemoteFault where
  /-- A fault of a known kind. -/
  | known (kind : FaultKind) (description : String) (detail : Option String)
  /-- An error that the store signalled with a code of its own. -/
  | foreign (code text : String)
  /-- No answer: the connection is lost, or the wait for the answer is over. -/
  | connection (words : String)
  deriving DecidableEq, Repr

namespace RemoteFault

/-- Whether the store does not hold the script it was asked to run. -/
def isNoScript : RemoteFault → Bool
  | known kind _ _ => kind == .noScript
  | foreign _ _ | connection _ => false

/-- A fault in words. -/
def message : RemoteFault → String
  | known kind description none => description ++ "- " ++ kind.name
  | known kind description (some detail) =>
    description ++ " - " ++ kind.name ++ ": " ++ detail
  | foreign code text => code ++ ": " ++ text
  | connection words => words

/-- The fault that the line of an error answer reports: a code and, after a space, a text. -/
def ofLine (line : String) : RemoteFault :=
  let code := String.ofList (line.toList.takeWhile (· ≠ ' '))
  let text := match line.toList.dropWhile (· ≠ ' ') with
    | _ :: rest => some (String.ofList rest)
    | [] => none
  match FaultKind.ofCode? code with
  | some kind => known kind "An error was signalled by the server" text
  | none => foreign code (text.getD "Unknown extension error encountered")

end RemoteFault

end TaskQueue
