import EventConsole.Input

/-!
Contract: the login form.

Two text fields, one of which has the focus. While a login is pending the form
takes no keys.
-/

namespace EventConsole

inductive LoginField where
  | username
  | password
deriving DecidableEq, Repr

structure LoginForm where
  username : String
  password : String
  focus : LoginField
  error : Option String
  pending : Bool
deriving DecidableEq, Repr

namespace LoginForm

/-- A form with a known user name starts at the password. -/
def new : Option String → LoginForm
  | some username => ⟨username, "", .password, none, false⟩
  | none => ⟨"", "", .username, none, false⟩

/-- Forgets the password and a pending login. -/
def reset (form : LoginForm) : LoginForm := { form with password := "", pending := false }

def otherField : LoginField → LoginField
  | .username => .password
  | .password => .username

/-- Changes the text of the field that has the focus. -/
def edit (form : LoginForm) (change : String → String) : LoginForm :=
  match form.focus with
  | .username => { form with username := change form.username }
  | .password => { form with password := change form.password }

def dropLast (text : String) : String := String.ofList text.toList.dropLast

/-- Whether Enter moves from the user name to a password not yet typed. -/
def advancesOnEnter (form : LoginForm) : Bool := form.focus == .username && form.password.isEmpty

/-- Takes a key; says whether the form is submitted. -/
def handleKey (form : LoginForm) (key : Key) : Bool × LoginForm :=
  if form.pending then (false, form)
  else
    match key with
    | .tab | .down | .up | .backTab => (false, { form with focus := otherField form.focus })
    | .enter =>
        if form.advancesOnEnter then (false, { form with focus := .password })
        else (!form.username.isEmpty, form)
    | .backspace => (false, form.edit dropLast)
    | .char c => (false, { form with error := none }.edit (·.push c))
    | _ => (false, form)

end LoginForm

end EventConsole
