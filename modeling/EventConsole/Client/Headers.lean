import EventConsole.Client.Failure
import EventConsole.SortedMap
import EventConsole.Text.Base64
import EventConsole.Text.Utf8

/-!
Contract: the credential of a session, and the headers of a request.

The credential is the Base64 form of `user:password`, as a Basic authorization header
carries it. It lives in memory only, and its printed form hides it.

Names of headers are compared without letter case and kept in lower case. The
authorization and the content type have defaults; a header that the caller gives
replaces whatever has its name, and of several the last one counts.
-/

namespace EventConsole

/-- The Base64 form of a user name and a password. -/
def encodedLogin (username password : String) : String :=
  String.ofList
    (Text.Base64.encode (Text.Utf8.encode (username.toList ++ ':' :: password.toList)))

@[ext]
structure Credential where
  encoded : String
  /-- There are no others than those of a user name and a password. -/
  made : ∃ username password, encoded = encodedLogin username password
deriving DecidableEq

namespace Credential

def encode (username password : String) : Credential :=
  ⟨encodedLogin username password, username, password, rfl⟩

def headerValue (credential : Credential) : String := "Basic " ++ credential.encoded

/-- What is printed in place of the secret. -/
def redacted : String := "Credential(<redacted>)"

instance : Repr Credential := ⟨fun _ _ => redacted⟩

end Credential

/-! ### Headers -/

abbrev Headers := SortedMap String String

namespace Headers

def authorization : String := "authorization"

def contentType : String := "content-type"

def isNameMark (c : Char) : Bool :=
  c == '!' || c == '#' || c == '$' || c == '%' || c == '&' || c.toNat == 0x27 ||
    c == '*' || c == '+' || c == '-' || c == '.' || c == '^' || c == '_' || c.toNat == 0x60 ||
    c == '|' || c == '~'

def isNameChar (c : Char) : Bool := c.isAlphanum || isNameMark c

/-- The greatest length of a header name. -/
def nameLimit : Nat := 65535

def isName (name : String) : Bool :=
  !name.isEmpty && name.length ≤ nameLimit && name.toList.all isNameChar

/-- A value holds no controls other than the tab. -/
def isValue (value : String) : Bool :=
  value.toList.all fun c => c = '\t' || (32 ≤ c.toNat && c.toNat ≠ 127)

def lowerName (name : String) : String := String.ofList (name.toList.map Char.toLower)

/-- The headers every request carries. -/
def defaults (credential : Credential) : Headers :=
  (SortedMap.empty.insert authorization credential.headerValue).insert contentType
    "application/json"

/-- Adds one header of the caller. -/
def add? (headers : Headers) (name value : String) : Except Failure Headers :=
  if isName name then
    if isValue value then .ok (headers.insert (lowerName name) value)
    else .error (.invalidHeader (lowerName name))
  else .error (.invalidHeader name)

def addAll? (headers : Headers) : List (String × String) → Except Failure Headers
  | [] => .ok headers
  | (name, value) :: rest =>
      match add? headers name value with
      | .error failure => .error failure
      | .ok headers => addAll? headers rest

/-- The defaults with the headers of the caller added in order. -/
def merge (credential : Credential) (extra : List (String × String)) : Except Failure Headers :=
  if isValue credential.headerValue then addAll? (defaults credential) extra
  else .error (.invalidHeader authorization)

end Headers

end EventConsole
