import TaskQueue.Error

/-!
# Client configuration

How long a client waits for a connection and for an answer.  Neither may be no time at all.  Model of
`ClientConfig` and `ClientConfig::validate`.
-/

set_option autoImplicit false

namespace TaskQueue

/-- The span of a small number of seconds. -/
def Span.ofSmall (secs : Nat) : Span := Span.ofNanos (secs * nanosPerSecond)

/-- How long a client waits. -/
structure Config where
  connectionTimeout : Span := Span.ofSmall 30
  responseTimeout : Span := Span.ofSmall 60
  deriving DecidableEq, Repr

/-- The first fault of a configuration. -/
def Config.validate (c : Config) : Except Error Unit :=
  if c.connectionTimeout.isZero then .error (.config .connectionTimeout)
  else if c.responseTimeout.isZero then .error (.config .responseTimeout)
  else .ok ()

end TaskQueue
