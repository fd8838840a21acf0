import EventConsole.LoginForm
import EventConsole.Screen.Layout
import EventConsole.View.Panel

/-!
Contract: the login screen.

A popup with two fields and a line for the state of the login. Of the password
only the number of its characters is shown.
-/

namespace EventConsole.View

open Screen

/-- Stands for a character of the password. -/
def maskChar : Char := '•'

def masked (password : String) : String :=
  String.ofList (password.toList.map fun _ => maskChar)

def drawField (canvas : Canvas) (area : Rect) (title text : String) (focused : Bool) : Canvas :=
  let border := Style.fg (if focused then .cyan else Theme.border)
  canvas.drawPanel area (Block.titled title border) (linesOfText (fieldText text focused))

/-- The state of the login in words. -/
def loginStatus (form : LoginForm) : Span :=
  if form.pending then mutedSpan "Signing in..."
  else
    match form.error with
    | some error => Span.styled error (Style.fg Theme.danger).strong
    | none => mutedSpan "Enter to sign in, Tab to switch field, Ctrl-C to quit"

def drawLogin (canvas : Canvas) (area : Rect) (form : LoginForm) (server : String) : Canvas :=
  let popup := area.centered 50 40
  let canvas := (canvas.clear popup).drawBlock popup (panel ("siemtop — sign in to " ++ server))
  let rows := Layout.rows popup.insideMargin [.fixed 3, .fixed 3, .fixed 1, .atLeast 1]
  let onUsername := form.focus == .username
  let canvas := drawField canvas (Layout.part rows 0) "Username" form.username onUsername
  let canvas := drawField canvas (Layout.part rows 1) "Password" (masked form.password) !onUsername
  canvas.drawParagraph (Layout.part rows 2) [Line.ofSpan (loginStatus form)]

end EventConsole.View
