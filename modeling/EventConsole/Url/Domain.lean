import EventConsole.Text.LetterCase
import EventConsole.Url.Address
import EventConsole.Url.DomainTable
import EventConsole.Url.Label
import EventConsole.Url.Punycode
import EventConsole.Url.SequenceTable

/-!
Contract: domain names in their ASCII form.

Letter case does not count; wide, raised, circled and joined forms count as the
plain ones, full stops of all scripts separate labels, and characters without width
are dropped. The rest is composed and split into labels. A label beyond ASCII is
written in Punycode after `xn--`; a label that claims this form has to be the form
of a label that mapping and composing leave as it is.
-/

namespace EventConsole.Url

/-! ### Characters -/

/-- The entry of a code point in blocks that begin at the given ones. -/
def entryAt? {α : Type} (blocks : List (Nat × List α)) (code : Nat) : Option α :=
  blocks.findSome? fun (first, entries) =>
    if first ≤ code then entries[code - first]? else none

/-- The code points that one beyond ASCII counts as, unless letter case decides. -/
def domainCodes? (code : Nat) : Option (List Nat) :=
  if Text.inRanges ignoredInDomain code then some []
  else
    match entryAt? domainSequences code with
    | some codes => some codes
    | none =>
        match entryAt? domainTargets code with
        | some target => some [target]
        | none => (domainRuns.findSome? fun run => run.apply? code).map fun target => [target]

/-- What a character counts as in a domain. -/
def domainChar (c : Char) : List Char :=
  if c.toNat < 128 then [c.toLower]
  else
    match domainCodes? c.toNat with
    | some codes => codes.map Char.ofNat
    | none => Text.lowerChar c

/-- ASCII characters that no domain holds. -/
def forbiddenInDomain (c : Char) : Bool :=
  c.toNat ≤ 32 || c.toNat = 127 || "%#/:<>?@[\\]^|".toList.contains c

def allowedInDomain (c : Char) : Bool :=
  if c.toNat < 128 then !forbiddenInDomain c
  else !Text.inRanges bannedInDomain c.toNat

/-! ### Labels -/

/-- The longest label beyond ASCII, and the longest Punycode that is read. -/
def shownLabelLimit : Nat := 1000
def encodedTextLimit : Nat := 2000

/-- Whether a label is what mapping and composing make of it. -/
def isMapped (label : List Char) : Bool :=
  label.all (fun c => c != '.' && allowedInDomain c && domainChar c == [c]) &&
    composed label == label

/-- The label that a Punycode text stands for. -/
def decodeLabel? (text : List Char) : Option (List Char) :=
  if text.length ≤ encodedTextLimit then
    match Punycode.decode? text with
    | none => none
    | some label =>
        if label.any (fun c => !Punycode.isBasic c) && isMapped label then some label else none
  else none

/-- The characters that a label shows. -/
def shownLabel? (label : List Char) : Option (List Char) :=
  match label with
  | 'x' :: 'n' :: '-' :: '-' :: text => decodeLabel? text
  | _ => some label

/-- Whether a shown label may stand in a domain. -/
def labelFits (label : List Char) : Bool :=
  (label.all Punycode.isBasic || label.length ≤ shownLabelLimit) && !beginsWithMark label &&
    joinersFit label

/-- Whether the shown labels of a domain may stand together. -/
def labelsFit (shown : List (List Char)) : Bool := shown.all labelFits && directionsFit shown

/-- A label in ASCII. -/
def asciiLabel (label : List Char) : List Char :=
  if label.all Punycode.isBasic then label
  else 'x' :: 'n' :: '-' :: '-' :: Punycode.encode label

/-! ### Domains -/

/-- The ASCII form of a domain. -/
def domainAscii? (text : List Char) : Option (List Char) :=
  let mapped := composed (text.flatMap domainChar)
  if mapped.all allowedInDomain then
    match (labels mapped).mapM shownLabel? with
    | none => none
    | some shown =>
        if labelsFit shown then some (List.intercalate ['.'] ((labels mapped).map asciiLabel))
        else none
  else none

end EventConsole.Url
