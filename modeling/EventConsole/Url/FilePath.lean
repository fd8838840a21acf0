import EventConsole.Url.Path

/-!
Contract: the path of a file.

The first segment may name a drive, which is written with a colon. A file on a
drive has no host. Empty segments at the start do not count.

Tabs and line ends within a text do not count, except that one right after a drive
ends the segment of the drive.
-/

namespace EventConsole.Url

/-- Tabs and line ends, which do not count. -/
def isBreak (c : Char) : Bool := c.toNat = 9 || c.toNat = 10 || c.toNat = 13

def dropBreaks (text : List Char) : List Char := text.filter fun c => !isBreak c

/-- A segment of the path of a file. -/
inductive FileSegment where
  | whole (text : String)
  /-- A drive and what follows it in the same segment after a break. -/
  | divided (drive : String) (rest : String)
deriving DecidableEq, Repr

namespace FileSegment

/-- The drive of a segment before a break, and the rest of the segment. -/
def divide? (segment : List Char) : Option (List Char × List Char) :=
  match segment.dropWhile isBreak with
  | [] => none
  | letter :: afterLetter =>
      match afterLetter.dropWhile isBreak with
      | ':' :: mark :: afterMark =>
          let rest := dropBreaks afterMark
          if letter.isAlpha && isBreak mark && !rest.isEmpty then some ([letter, ':'], rest)
          else none
      | _ => none

def ofText (segment : List Char) : FileSegment :=
  match divide? segment with
  | some (drive, rest) => .divided (Path.encodeSegment drive) (Path.encodeSegment rest)
  | none => .whole (Path.encodeSegment (dropBreaks segment))

def text : FileSegment → String
  | .whole text => text
  | .divided drive rest => drive ++ rest

end FileSegment

/-- The segments of the path of a file, and whether a drive leads them. -/
structure FilePath where
  parts : List String
  hasDrive : Bool
deriving DecidableEq, Repr

namespace FilePath

/-- The drive with its colon, or the segment as it is. -/
def normalDrive (segment : String) : String :=
  match segment.toList with
  | [letter, _] => String.ofList [letter, ':']
  | _ => segment

/-- The path kept after one more segment; its parts stand last first. -/
def keep (kept : FilePath) (segment : FileSegment) : FilePath :=
  match kept.parts, segment with
  | [], .divided drive rest => { kept with parts := [rest, drive] }
  | [], .whole text =>
      if Path.isDrive text.toList then ⟨[normalDrive text], true⟩
      else { kept with parts := Path.keep [] text }
  | parts, segment => { kept with parts := Path.keep parts segment.text }

def resolve (segments : List FileSegment) : FilePath :=
  let kept := segments.foldl keep ⟨[], false⟩
  { kept with parts := Path.finish kept.parts (segments.getLast?.map FileSegment.text) }

/-- The path of a text that follows a slash. -/
def parse (text : List Char) : FilePath :=
  resolve ((text.splitOnP (Path.isSeparator true)).map FileSegment.ofText)

/-- The path without empty segments at its start. -/
def path (file : FilePath) : Path :=
  match file.parts.dropWhile String.isEmpty with
  | [] => .segments [""]
  | parts => .segments parts

end FilePath

end EventConsole.Url
