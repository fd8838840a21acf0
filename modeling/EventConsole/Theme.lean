import EventConsole.Event
import EventConsole.Highlight
import EventConsole.Screen.Canvas

/-!
Contract: the colours of the console.
-/

namespace EventConsole.Theme

open Screen

def info : Color := .rgb 88 166 255
def success : Color := .rgb 46 160 67
def warning : Color := .rgb 210 153 34
def danger : Color := .rgb 248 81 73
def purple : Color := .rgb 163 113 247
def teal : Color := .rgb 57 197 207
def pink : Color := .rgb 219 97 162
def orange : Color := .rgb 240 136 62

/-- Colours of chart series, in the order in which they are given out. -/
def palette : List Color := [info, success, warning, danger, purple, teal, pink, orange]

/-- The colour of a series; the palette starts again when it is used up. -/
def series (index : Nat) : Color := (palette[index % palette.length]?).getD info

def muted : Color := .rgb 139 148 158
def border : Color := .rgb 48 54 61
def highlight : Color := .rgb 33 38 45

def severityColor : Severity → Color
  | .low => success
  | .medium => warning
  | .high => danger
  | .critical => .rgb 255 123 114

/-- The colour of a severity text; texts that are no severity are muted. -/
def severityTextColor (text : String) : Color :=
  ((Severity.ofName? text).map severityColor).getD muted

def tokenColor : Highlight.Kind → Color
  | .key => info
  | .string => .rgb 165 214 255
  | .number => orange
  | .boolean => purple
  | .null => muted
  | .plain => .gray

end EventConsole.Theme
