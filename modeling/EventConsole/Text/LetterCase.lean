import EventConsole.Text.CaseTable
import EventConsole.Text.Letter

/-!
Contract: full lower-casing and upper-casing of text.

One character may become several, and a capital sigma becomes the final form
where it ends a word: after a cased character and not before one, looking
through characters that casing ignores.
-/

namespace EventConsole.Text

/-- The run that maps a code point, if any. -/
def CaseRun.apply? (run : CaseRun) (code : Nat) : Option Nat :=
  if run.first ≤ code ∧ code ≤ run.last ∧ (code - run.first) % run.stride = 0 then
    some ((code : Int) + run.distance).toNat
  else none

def mapByRuns (runs : List CaseRun) (c : Char) : Char :=
  match runs.findSome? (fun run => run.apply? c.toNat) with
  | some code => Char.ofNat code
  | none => c

def isCased (c : Char) : Bool := inRanges casedRanges c.toNat

def isCaseIgnorable (c : Char) : Bool := inRanges caseIgnorableRanges c.toNat

/-- Whether the first character that casing does not ignore is cased. -/
def startsCased (text : List Char) : Bool :=
  match text.dropWhile isCaseIgnorable with
  | [] => false
  | c :: _ => isCased c

def lowerChar (c : Char) : List Char :=
  if c.toNat < 128 then [c.toLower]
  else if c.toNat = 0x130 then ['i', Char.ofNat 0x307]
  else [mapByRuns lowerRuns c]

/-- Lower-cases text that follows `before`, which is given last character first. -/
def lowerAfter (before : List Char) : List Char → List Char
  | [] => []
  | c :: rest =>
      let lowered :=
        if c = 'Σ' then
          if startsCased before && !startsCased rest then ['ς'] else ['σ']
        else lowerChar c
      lowered ++ lowerAfter (c :: before) rest

def lowerCase (text : List Char) : List Char := lowerAfter [] text

def upperChar (c : Char) : List Char :=
  if c.toNat < 128 then [c.toUpper]
  else
    match upperSequences.lookup c.toNat with
    | some codes => codes.map Char.ofNat
    | none => [mapByRuns upperRuns c]

def upperCase (text : List Char) : List Char := text.flatMap upperChar

end EventConsole.Text
