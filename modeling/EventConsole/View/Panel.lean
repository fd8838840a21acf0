import EventConsole.Route
import EventConsole.Screen.Paragraph
import EventConsole.Theme
import EventConsole.Time.Rfc3339

/-!
Contract: the frames that the screens of the console share, and the line on top of
the dashboard and the events screen.

The line names the server and the screens, and tells when the dashboard was refreshed
and whether something is being fetched.
-/

namespace EventConsole.View

open Screen

/-! ### Frames -/

/-- A frame in the colour of borders. -/
def panel (title : String) : Block := Block.titled title (Style.fg Theme.border)

def mutedSpan (text : String) : Span := Span.styled text (Style.fg Theme.muted)

/-- Style of table headings. -/
def headingStyle : Style := (Style.fg .cyan).strong

/-- Marks the place where typed text goes. -/
def cursor : String := "▏"

/-- The text of a field, with the cursor behind it while it has the focus. -/
def fieldText (text : String) (focused : Bool) : String := if focused then text ++ cursor else text

/-! ### The line on top -/

/-- What the header shows. -/
structure Header where
  server : String
  route : Route
  lastRefresh : Option Time.Instant
  busy : Bool

namespace Header

def tab (header : Header) (label : String) (route : Route) : Span :=
  let text := " " ++ label ++ " "
  if header.route = route then Span.styled text ((Style.fg .black).withBg .cyan).strong
  else Span.plain text

def refreshText (header : Header) : String :=
  match header.lastRefresh with
  | some instant => "updated " ++ String.ofList (instant.clock 0).hourMinute
  | none => "not updated yet"

def line (header : Header) : Line :=
  ⟨[Span.styled "siemtop" Style.plain.strong,
    Span.plain (" — " ++ header.server ++ " | "),
    header.tab "Dashboard" .dashboard,
    header.tab "Events" .events,
    Span.plain (" | " ++ header.refreshText ++ (if header.busy then " ⟳" else "") ++
      "  (Tab switch, L logout, q quit)")]⟩

def draw (header : Header) (canvas : Canvas) (area : Rect) : Canvas :=
  canvas.drawPanel area ⟨.bottom, Style.plain, none⟩ [header.line]

end Header

end EventConsole.View
