/-!
Contract: the screens of the console and the navigation between them.

Navigation is a cell that holds the wanted route. Whoever writes it marks it as
changed, even with the route it already holds; the console takes it up later.
-/

namespace EventConsole

inductive Route where
  | login
  | dashboard
  | events
deriving DecidableEq, Repr, Inhabited

/-- Screens that need a credential. -/
def Route.isProtected : Route → Bool
  | .login => false
  | _ => true

theorem Route.eq_login_of_not_isProtected {route : Route}
    (unprotected : route.isProtected = false) : route = .login := by
  cases route with
  | login => rfl
  | dashboard => contradiction
  | events => contradiction

structure Navigator where
  route : Route
  /-- The route was written since it was last taken up. -/
  changed : Bool
deriving DecidableEq, Repr

namespace Navigator

def new (route : Route) : Navigator := ⟨route, false⟩

def goto (_ : Navigator) (route : Route) : Navigator := ⟨route, true⟩

/-- Marks the route as taken up. -/
def take (navigator : Navigator) : Navigator := { navigator with changed := false }

end Navigator

end EventConsole
