import EventConsole.Client.Failure
import EventConsole.Dashboard.View

/-!
Contract: when the dashboard is refreshed, and what an outcome does.

A refresh is due once the interval has passed since the last one was started,
whatever became of it. Several may be outstanding.

Owns: the schedule, the count of outstanding refreshes, and waiting for the
charts to be ready.
-/

namespace EventConsole

structure Dashboard where
  view : DashboardView
  /-- Milliseconds between refreshes. -/
  interval : Nat
  /-- When the last refresh was started. -/
  lastStart : Option Int
  /-- Refreshes started and not finished. -/
  outstanding : Nat
deriving DecidableEq, Repr

namespace Dashboard

def defaultInterval : Nat := 30000

def withInterval (interval : Nat) : Dashboard := ⟨DashboardView.initial, interval, none, 0⟩

def new : Dashboard := withInterval defaultInterval

def isDue (dashboard : Dashboard) (now : Int) : Bool :=
  match dashboard.lastStart with
  | none => true
  | some start => dashboard.interval ≤ (now - start).toNat

def isRefreshing (dashboard : Dashboard) : Bool := 0 < dashboard.outstanding

def startRefresh (dashboard : Dashboard) (now : Int) : Dashboard :=
  { dashboard with lastStart := some now, outstanding := dashboard.outstanding + 1 }

/-- Takes the outcome of one outstanding refresh. -/
def finishRefresh (dashboard : Dashboard) (outcome : Except Failure StatsSnapshot)
    (now : Time.Instant) : Dashboard :=
  match outcome with
  | .ok stats =>
      { dashboard with
        outstanding := dashboard.outstanding - 1
        view := { dashboard.view.render stats now with lastRefresh := some now } }
  | .error _ =>
      { dashboard with
        outstanding := dashboard.outstanding - 1
        view := dashboard.view.showFailure }

end Dashboard

/-- What is known of the charts when someone starts to wait for them. -/
structure ChartSignal where
  ready : Bool
  /-- Nobody is left who could report them ready. -/
  closed : Bool
  /-- Milliseconds until they are reported ready. -/
  readyAfter : Option Nat
deriving DecidableEq, Repr

/-- Whether the charts become ready within some milliseconds. -/
def ChartSignal.awaited (signal : ChartSignal) (patience : Nat) : Bool :=
  signal.ready || (!signal.closed && signal.readyAfter.any (· < patience))

end EventConsole
