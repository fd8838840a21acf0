import EventConsole.Url.Domain
import EventConsole.Url.Path

/-!
Contract: URLs, their hosts, and their text.

Special schemes have domains and addresses; their hosts are percent-decoded and
brought to ASCII. The host of any other scheme is a name kept as it is, or an
address in brackets.
-/

namespace EventConsole.Url

inductive Host where
  /-- A domain, or the name of a host of no special scheme; it may be empty. -/
  | name (text : String)
  | ipv4 (address : BitVec 32)
  | ipv6 (groups : List Nat)
deriving DecidableEq, Repr

namespace Host

def empty : Host := .name ""

def text : Host → String
  | .name text => text
  | .ipv4 address => ipv4Text address
  | .ipv6 groups => "[" ++ ipv6Text groups ++ "]"

/-- The address between brackets. -/
def parseBracketed (text : List Char) : Except Fault Host :=
  match text.reverse with
  | ']' :: inner => (parseIpv6 inner.reverse).map .ipv6
  | _ => .error .ipv6Address

/-- The host that a domain in ASCII names: an address if it ends in a number. -/
def ofDomain (domain : List Char) : Except Fault Host :=
  if domain.isEmpty then .error .emptyHost
  else if endsInNumber domain then (parseIpv4 domain).map .ipv4
  else .ok (.name (String.ofList domain))

/-- The host of a special scheme. -/
def parseSpecial : List Char → Except Fault Host
  | '[' :: rest => parseBracketed rest
  | text =>
      match (Text.Utf8.decode? (percentDecode text)).bind domainAscii? with
      | none => .error .domainName
      | some domain => ofDomain domain

/-- Characters that no host name holds. -/
def forbidden (c : Char) : Bool :=
  c.toNat = 0 || c.toNat = 9 || c.toNat = 10 || c.toNat = 13 || " #/:<>?@[\\]^|".toList.contains c

/-- The host of a scheme that is not special. -/
def parsePlain : List Char → Except Fault Host
  | '[' :: rest => parseBracketed rest
  | text =>
      if text.any forbidden then .error .domainCharacter
      else .ok (.name (String.ofList (percentEncode isControl text)))

end Host

end EventConsole.Url

namespace EventConsole

/-- The part of a URL that names a server. User name and password are encoded. -/
structure Url.Authority where
  username : String
  password : String
  host : Url.Host
  /-- The port unless it is that of the scheme. -/
  port : Option UInt16
deriving DecidableEq, Repr

structure Url where
  scheme : String
  authority : Option Url.Authority
  path : Url.Path
  query : Option String
  fragment : Option String
deriving DecidableEq, Repr

namespace Url

/-- Schemes of the web and of files, which have a host and segments. -/
def specialSchemes : List String := ["http", "https", "ws", "wss", "ftp", "file"]

def isSpecial (scheme : String) : Bool := scheme ∈ specialSchemes

def defaultPort? : String → Option UInt16
  | "http" | "ws" => some 80
  | "https" | "wss" => some 443
  | "ftp" => some 21
  | _ => none

def Authority.userinfoText (authority : Authority) : String :=
  if authority.username.isEmpty && authority.password.isEmpty then ""
  else if authority.password.isEmpty then authority.username ++ "@"
  else authority.username ++ ":" ++ authority.password ++ "@"

def Authority.portText (authority : Authority) : String :=
  match authority.port with
  | none => ""
  | some port => ":" ++ toString port.toNat

def Authority.text (authority : Authority) : String :=
  "//" ++ authority.userinfoText ++ authority.host.text ++ authority.portText

/-- The path without an authority before it must not look like one. -/
def guardText (url : Url) : String :=
  match url.authority, url.path with
  | none, .segments ("" :: _ :: _) => "/."
  | _, _ => ""

def authorityText (url : Url) : String := (url.authority.map Authority.text).getD ""

def queryText (url : Url) : String := (url.query.map fun query => "?" ++ query).getD ""

def fragmentText (url : Url) : String :=
  (url.fragment.map fun fragment => "#" ++ fragment).getD ""

def text (url : Url) : String :=
  url.scheme ++ ":" ++ url.authorityText ++ url.guardText ++ url.path.text ++ url.queryText ++
    url.fragmentText

end Url

end EventConsole
