import EventConsole.Url.PercentEncoding

/-!
Contract: the path of a URL.

A path is a list of segments, or a plain text when the URL has neither authority
nor leading slash. Segments of one dot vanish and those of two dots take the
segment before them along, unless it names a drive; either leaves an empty segment
at the end.
-/

namespace EventConsole.Url

inductive Path where
  | plain (content : String)
  | segments (parts : List String)
deriving DecidableEq, Repr

namespace Path

/-- Each segment follows a slash. -/
def segmentsText (parts : List String) : String :=
  String.join (parts.map fun segment => "/" ++ segment)

def text : Path → String
  | .plain content => content
  | .segments parts => segmentsText parts

def isDot (segment : String) : Bool := segment ∈ [".", "%2e", "%2E"]

def isDoubleDot (segment : String) : Bool :=
  segment ∈ ["..", "%2e.", "%2E.", ".%2e", ".%2E", "%2e%2e", "%2e%2E", "%2E%2e", "%2E%2E"]

/-- What may separate segments: a backslash does so in special schemes. -/
def isSeparator (special : Bool) (c : Char) : Bool := c == '/' || (special && c == '\\')

/-- A letter and a colon name a drive; a bar may stand for the colon. -/
def isDrive : List Char → Bool
  | [letter, mark] => letter.isAlpha && (mark == ':' || mark == '|')
  | _ => false

/-- Whether a segment is a drive or begins with one before a backslash. -/
def beginsWithDrive : List Char → Bool
  | letter :: mark :: '\\' :: _ => isDrive [letter, mark]
  | segment => isDrive segment

/-! ### Dots

The segments kept so far stand last first. -/

/-- Two dots do not take a drive along. -/
def parent : List String → List String
  | [] => []
  | last :: before => if beginsWithDrive last.toList then last :: before else before

/-- The segments kept after one more. -/
def keep (kept : List String) (segment : String) : List String :=
  if isDoubleDot segment then parent kept
  else if isDot segment then kept
  else segment :: kept

/-- The segments in order; dots at the end leave an empty one. -/
def finish (kept : List String) (last : Option String) : List String :=
  match last with
  | none => kept.reverse
  | some last => (if isDot last || isDoubleDot last then "" :: kept else kept).reverse

def resolve (parts : List String) : List String := finish (parts.foldl keep []) parts.getLast?

/-! ### Paths of servers -/

def encodeSegment (segment : List Char) : String :=
  String.ofList (percentEncode encodedInPath segment)

/-- The segments of a text that follows a slash. -/
def split (special : Bool) (text : List Char) : List String :=
  (text.splitOnP (isSeparator special)).map encodeSegment

/-- The path after an authority; a special scheme has at least one segment. -/
def parse (special : Bool) (text : List Char) : Path :=
  match text with
  | [] => .segments (if special then [""] else [])
  | c :: rest =>
      .segments (resolve (split special (if isSeparator special c then rest else c :: rest)))

end Path

end EventConsole.Url
