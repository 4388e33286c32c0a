import TaskQueue.Endpoint.Url
import TaskQueue.Error

/-!
# Connection descriptors

Where the remote store is reached and how a client introduces itself there.  A descriptor is a locator:
`redis` names a host, with the number of the database as its path, `unix` and `redis+unix` a socket in
the file system, with all else in the query.

Model of `RedisConnectionConfig::from_url` and `RedisConnectionConfig::single`, with what the client library
reads in a descriptor.

Principal facts: `ofDescriptor_of_unsupported` — a descriptor of another scheme is refused as such;
`address_ofHosted` — a host without a port is reached at the default one.
-/

set_option autoImplicit false

namespace TaskQueue

open Text

/-- Where the remote store is reached. -/
inductive Address where
  | tcp (host : String) (port : Nat)
  | unix (path : String)
  deriving DecidableEq, Repr

/-- An address as text. -/
def Address.print : Address → String
  | tcp host port => host ++ ":" ++ numeral port
  | unix path => path

/-- The versions of the store's protocol. -/
inductive Protocol where
  | resp2
  | resp3
  deriving DecidableEq, Repr

/-- The version that a text names. -/
def Protocol.ofName? (word : String) : Option Protocol :=
  if word = "2" ∨ word = "resp2" then some .resp2
  else if word = "3" ∨ word = "resp3" then some .resp3
  else none

/-- The port of a store whose descriptor gives none. -/
def defaultPort : Nat := 6379

/-- A connection descriptor. -/
structure Endpoint where
  address : Address
  database : Int64 := 0
  username : Option String := none
  password : Option String := none
  protocol : Protocol := .resp2
  deriving DecidableEq, Repr

/-- What is wrong with a descriptor of a supported scheme. -/
inductive DescriptorFault where
  | malformed
  | noHost
  | noPath
  | badDatabase
  | badUsername
  | badPassword
  | badProtocol (word : String)
  deriving DecidableEq, Repr

/-- A fault of a descriptor as the caller is told it. -/
def DescriptorFault.toFault : DescriptorFault → RemoteFault
  | malformed => .known .invalidConfig "Redis URL did not parse" none
  | noHost => .known .invalidConfig "Missing hostname" none
  | noPath => .known .invalidConfig "Missing path" none
  | badDatabase => .known .invalidConfig "Invalid database number" none
  | badUsername => .known .invalidConfig "Username is not valid UTF-8 string" none
  | badPassword => .known .invalidConfig "Password is not valid UTF-8 string" none
  | badProtocol word => .known .invalidConfig "Invalid protocol version" (some word)

namespace Endpoint

/-- The endpoint at a host and a port. -/
def single (host : String) (port : Nat) : Endpoint := { address := .tcp host port }

/-- The number of a database, zero if the text is empty. -/
def database? (cs : List Char) : Except DescriptorFault Int64 :=
  match cs with
  | [] => .ok 0
  | cs =>
    match Decimal.int64? cs with
    | some n => .ok n
    | none => .error .badDatabase

/-- A part of the user's, percent-decoded; the empty part is none. -/
def credential? (cs : List Char) (fault : DescriptorFault) :
    Except DescriptorFault (Option String) :=
  if cs.isEmpty then .ok none
  else
    match Utf8.decode? (Percent.decode cs) with
    | some s => .ok (some s)
    | none => .error fault

/-- The version of the protocol that a query asks for. -/
def protocol? (u : Url) : Except DescriptorFault Protocol :=
  match u.queryMember? "protocol" with
  | none => .ok .resp2
  | some word =>
    match Protocol.ofName? word with
    | some p => .ok p
    | none => .error (.badProtocol word)

/-- The endpoint of a locator with a host. -/
def ofHosted (u : Url) : Except DescriptorFault Endpoint := do
  let host ← match u.host with
    | some host => pure host.print
    | none => throw .noHost
  let path := (u.path.map Url.printPath).getD []
  let database ← database? (trimBoth (· = '/') path)
  let username ← credential? u.username .badUsername
  let password ← credential? u.password .badPassword
  let protocol ← protocol? u
  return { address := .tcp host (u.port.getD defaultPort), database, username, password, protocol }

/-- The bytes of a path in the file system.  One that ends like the letter of a drive gets a slash. -/
def filePath (segments : List (List Char)) : Bytes :=
  let bs := segments.flatMap fun segment => 0x2F :: Percent.decode segment
  match bs.reverse with
  | mark :: letter :: _ :: _ =>
    if (mark = 0x3A ∨ mark = 0x7C) ∧ (Char.ofNat letter.toNat).isAlpha then bs ++ [0x2F] else bs
  | _ => bs

/-- The endpoint of a locator of a socket. -/
def ofSocket (u : Url) : Except DescriptorFault Endpoint := do
  let path ← match u.host, u.path with
    | none, some segments | some (.name "localhost"), some segments => pure (filePath segments)
    | _, _ => throw .noPath
  let database ← match u.queryMember? "db" with
    | some word => match Decimal.int64? word.toList with
      | some n => pure n
      | none => throw .badDatabase
    | none => pure 0
  let protocol ← protocol? u
  return {
    address := .unix (String.ofList (Utf8.decodeLossy path))
    database
    username := u.queryMember? "user"
    password := u.queryMember? "pass"
    protocol }

/-- The schemes of descriptors. -/
inductive Scheme where
  | hosted
  | socket
  deriving DecidableEq, Repr

/-- The scheme that a word names. -/
def Scheme.ofName? (word : String) : Option Scheme :=
  match word with
  | "redis" => some .hosted
  | "redis+unix" | "unix" => some .socket
  | _ => none

/-- The text before the first `://` and the text behind it. -/
def splitScheme? : List Char → Option (List Char × List Char)
  | [] => none
  | ':' :: '/' :: '/' :: rest => some ([], rest)
  | c :: rest => (splitScheme? rest).map fun (scheme, more) => (c :: scheme, more)

/-- The scheme of a descriptor and what stands behind it, if the scheme is supported. -/
def supported? (descriptor : String) : Option (Scheme × List Char) := do
  let (word, rest) ← splitScheme? descriptor.toList
  let scheme ← Scheme.ofName? (String.ofList word)
  return (scheme, rest)

/-- The endpoint of a locator. -/
def ofUrl (scheme : Scheme) (rest : List Char) : Except DescriptorFault Endpoint :=
  match Url.parse? rest with
  | none => .error .malformed
  | some u =>
    match scheme with
    | .hosted => ofHosted u
    | .socket => ofSocket u

/-- The endpoint that a descriptor names. -/
def ofDescriptor (descriptor : String) : Except Error Endpoint :=
  match supported? descriptor with
  | none => .error (.config (.unsupported descriptor))
  | some (scheme, rest) => (ofUrl scheme rest).mapError fun fault => .remote fault.toFault

theorem ofDescriptor_of_unsupported {descriptor : String} (h : supported? descriptor = none) :
    ofDescriptor descriptor = .error (.config (.unsupported descriptor)) := by
  rw [ofDescriptor, h]

theorem address_ofHosted {u : Url} {e : Endpoint} (h : ofHosted u = .ok e) :
    ∃ host, u.host = some host ∧ e.address = .tcp host.print (u.port.getD defaultPort) := by
  unfold ofHosted at h
  cases hh : u.host with
  | none => simp [hh, bind, Except.bind, throw, throwThe, MonadExceptOf.throw] at h
  | some host =>
    refine ⟨host, rfl, ?_⟩
    simp only [hh, bind, Except.bind, pure, Except.pure] at h
    repeat' split at h
    all_goals cases h
    rfl

end Endpoint

end TaskQueue
