import EventConsole.Url.Basic
import EventConsole.Url.FilePath

/-!
Contract: reading a URL.

Controls and blanks at both ends do not count, nor do tabs and line ends anywhere
but after a drive. The scheme decides how the rest is read; without a scheme there
is no URL.

Owns: the parts of a URL text, the order in which they are checked, and where the
endpoints of a server lie.
-/

namespace EventConsole.Url

/-! ### Parts of the text -/

def isSchemeChar (c : Char) : Bool := c.isAlphanum || c == '+' || c == '-' || c == '.'

/-- The scheme in lower case, and what follows its colon. -/
def splitScheme? (text : List Char) : Option (String × List Char) :=
  match text.span fun c => isSchemeChar c || isBreak c with
  | (start, ':' :: rest) =>
      match dropBreaks start with
      | [] => none
      | first :: others =>
          if first.isAlpha then
            some (String.ofList ((first :: others).map Char.toLower), rest)
          else none
  | _ => none

/-- Text before the fragment, and the fragment. -/
def splitFragment (text : List Char) : List Char × Option (List Char) :=
  match text.span (· ≠ '#') with
  | (before, []) => (before, none)
  | (before, _ :: fragment) => (before, some fragment)

/-- Text before the query, and the query. -/
def splitQuery (text : List Char) : List Char × Option (List Char) :=
  match text.span (· ≠ '?') with
  | (before, []) => (before, none)
  | (before, _ :: query) => (before, some query)

/-- The hierarchical part of a URL, its query and its fragment. -/
structure Tail where
  main : List Char
  query : Option (List Char)
  fragment : Option (List Char)

/-- The parts of a text; query and fragment hold no breaks. -/
def Tail.ofText (text : List Char) : Tail :=
  let (rest, fragment) := splitFragment text
  let (main, query) := splitQuery rest
  ⟨main, query.map dropBreaks, fragment.map dropBreaks⟩

/-- The part after a scheme without the breaks in it. -/
def Tail.withoutBreaks (tail : Tail) : Tail := { tail with main := dropBreaks tail.main }

/-! ### Authority -/

/-- The texts of an authority and of the path after it. -/
structure AuthorityText where
  /-- What stands before the last `@`. -/
  userinfo : Option (List Char)
  host : List Char
  /-- What follows the colon after the host. -/
  port : Option (List Char)
  path : List Char

/-- The text before the last `@`, if there is one, and the text after it. -/
def splitUserinfo (text : List Char) : Option (List Char) × List Char :=
  let reversed := text.reverse
  let server := (reversed.takeWhile (· ≠ '@')).reverse
  match reversed.dropWhile (· ≠ '@') with
  | [] => (none, server)
  | _ :: userinfo => (some userinfo.reverse, server)

/-- Host and the text from the colon of the port on; colons within brackets belong
to the host. -/
def splitPort (inBrackets : Bool) : List Char → List Char × List Char
  | [] => ([], [])
  | c :: rest =>
      if c = ':' ∧ inBrackets = false then ([], c :: rest)
      else
        let inBrackets := if c = '[' then true else if c = ']' then false else inBrackets
        let (host, port) := splitPort inBrackets rest
        (c :: host, port)

/-- The authority ends at the first separator of segments, and after a host also at a
backslash in the port. -/
def AuthorityText.ofText (special : Bool) (text : List Char) : AuthorityText :=
  let (authority, path) := text.span fun c => !Path.isSeparator special c
  let (userinfo, server) := splitUserinfo authority
  match splitPort false server with
  | (host, []) => ⟨userinfo, host, none, path⟩
  | (host, _ :: port) =>
      ⟨userinfo, host, some (port.takeWhile (· ≠ '\\')), port.dropWhile (· ≠ '\\') ++ path⟩

/-- User name and password; the first colon separates them. -/
def parseUserinfo (text : List Char) : String × String :=
  let encode := fun part => String.ofList (percentEncode encodedInUserinfo part)
  match text.span (· ≠ ':') with
  | (username, []) => (encode username, "")
  | (username, _ :: password) => (encode username, encode password)

/-- A port number; an empty one is none, and so is that of the scheme. -/
def parsePort (scheme : String) (digits : List Char) : Except Fault (Option UInt16) :=
  if digits.all Char.isDigit && digitsValue 10 digits ≤ 65535 then
    let port := UInt16.ofNat (digitsValue 10 digits)
    .ok (if digits.isEmpty || defaultPort? scheme == some port then none else some port)
  else .error .port

def parseHost (special : Bool) (text : List Char) : Except Fault Host :=
  if special then if text.isEmpty then .error .emptyHost else Host.parseSpecial text
  else Host.parsePlain text

/-- Host and port. -/
def parseServer (scheme : String) (text : AuthorityText) : Except Fault (Host × Option UInt16) :=
  match parseHost (isSpecial scheme) text.host with
  | .error fault => .error fault
  | .ok host =>
      match text.port with
      | none => .ok (host, none)
      | some digits =>
          if host = Host.empty then .error .emptyHost
          else (parsePort scheme digits).map fun port => (host, port)

/-- The authority of a URL; user information needs a host. -/
def parseAuthority (scheme : String) (text : AuthorityText) (goesOn : Bool) :
    Except Fault Authority :=
  match text.userinfo with
  | none => (parseServer scheme text).map fun (host, port) => ⟨"", "", host, port⟩
  | some userinfo =>
      if userinfo.isEmpty && text.host.isEmpty && text.port.isNone && goesOn then
        .error .emptyHost
      else
        match parseServer scheme text with
        | .error fault => .error fault
        | .ok (host, port) =>
            let (username, password) := parseUserinfo userinfo
            if host = Host.empty && !(username.isEmpty && password.isEmpty) then .error .emptyHost
            else .ok ⟨username, password, host, port⟩

/-! ### Whole URLs -/

/-- A URL with query and fragment encoded for its scheme. -/
def assemble (scheme : String) (authority : Option Authority) (path : Path) (tail : Tail) : Url :=
  let encoded := if isSpecial scheme then encodedInSpecialQuery else encodedInQuery
  { scheme := scheme
    authority := authority
    path := path
    query := tail.query.map fun query => String.ofList (percentEncode encoded query)
    fragment := tail.fragment.map fun fragment =>
      String.ofList (percentEncode encodedInFragment fragment) }

/-- A URL whose text goes on with an authority. -/
def parseWithAuthority (scheme : String) (text : List Char) (tail : Tail) : Except Fault Url :=
  let special := isSpecial scheme
  let parts := AuthorityText.ofText special text
  let goesOn := !parts.path.isEmpty || tail.query.isSome || tail.fragment.isSome
  (parseAuthority scheme parts goesOn).map fun authority =>
    assemble scheme (some authority) (Path.parse special parts.path) tail

/-- A URL of no special scheme. -/
def parseGeneric (scheme : String) (tail : Tail) : Except Fault Url :=
  match tail.main with
  | '/' :: '/' :: rest => parseWithAuthority scheme rest tail
  | '/' :: rest =>
      .ok (assemble scheme none (.segments (Path.resolve (Path.split false rest))) tail)
  | text =>
      .ok (assemble scheme none (.plain (String.ofList (percentEncode isControl text))) tail)

/-- The text after a separator at the start, if there is one. -/
def afterSeparator? (text : List Char) : Option (List Char) :=
  match text.dropWhile isBreak with
  | [] => none
  | c :: rest => if Path.isSeparator true c then some rest else none

/-- The host of a file and its path. A drive is no host, and the local host is none; without a
host the path follows a slash of its own. -/
def parseFileServer (text : List Char) : Except Fault (Host × FilePath) :=
  let (start, path) := text.span fun c => !Path.isSeparator true c
  let server := dropBreaks start
  if Path.isDrive server then .ok (Host.empty, FilePath.parse text)
  else if server.isEmpty then .ok (Host.empty, FilePath.parse path)
  else
    (Host.parseSpecial server).map fun host =>
      if host = .name "localhost" then (Host.empty, FilePath.parse path)
      else (host, FilePath.parse (path.drop 1))

/-- A URL of a file; the text may hold breaks. -/
def parseFile (tail : Tail) : Except Fault Url :=
  let file : Except Fault (Host × FilePath) :=
    match afterSeparator? tail.main with
    | none => .ok (Host.empty, FilePath.parse tail.main)
    | some rest =>
        match afterSeparator? rest with
        | none => .ok (Host.empty, FilePath.parse rest)
        | some rest => parseFileServer rest
  file.map fun (host, path) =>
    let host := if path.hasDrive then Host.empty else host
    assemble "file" (some ⟨"", "", host, none⟩) path.path tail

/-- A text without controls and blanks at its ends. -/
def trim (text : List Char) : List Char :=
  let isOuter := fun (c : Char) => decide (c.toNat ≤ 32)
  ((text.dropWhile isOuter).reverse.dropWhile isOuter).reverse

def parse (text : String) : Except Fault Url :=
  match splitScheme? (trim text.toList) with
  | none => .error .noBase
  | some (scheme, rest) =>
      let tail := Tail.ofText rest
      if scheme = "file" then parseFile tail
      else
        let tail := tail.withoutBreaks
        if isSpecial scheme then
          parseWithAuthority scheme (tail.main.dropWhile (Path.isSeparator true)) tail
        else parseGeneric scheme tail

/-! ### Endpoints -/

def dropSlashes (text : String) : String :=
  String.ofList (text.toList.reverse.dropWhile (· = '/')).reverse

/-- Where the endpoints of a server lie: the text of the origin without slashes at
its end, and `/api`. -/
def baseUrl (origin : String) : Except Fault String :=
  (parse origin).map fun url => dropSlashes url.text ++ "/api"

end EventConsole.Url
