import EventConsole.Url.Address

/-!
Contract: why a call to the server can fail.

Owns: the causes, their messages, and which of them send the user back to the
login screen.
-/

namespace EventConsole

inductive Failure where
  /-- There is no credential to send. -/
  | unauthenticated
  /-- The server refused the credential. -/
  | unauthorized
  /-- The server answered with another status that is no success. -/
  | refused (status : Nat) (reason : String)
  /-- No answer was received. -/
  | transport
  /-- The answer is not what was expected. -/
  | malformed
  | invalidUrl (fault : Url.Fault)
  | invalidHeader (name : String)
deriving DecidableEq, Repr

namespace Failure

def needsLogin : Failure → Bool
  | .unauthenticated | .unauthorized => true
  | _ => false

/-- The message of a failure. -/
def message : Failure → String
  | .unauthenticated => "not authenticated"
  | .unauthorized => "unauthorized"
  | .refused _ reason => reason
  | .transport => "transport error"
  | .malformed => "malformed response body"
  | .invalidUrl fault => "invalid server url: " ++ fault.message
  | .invalidHeader name => "invalid header " ++ name

end Failure

end EventConsole
