import Pressroom.Address
import Pressroom.Config.Basic
import Pressroom.Text.Blank

/-!
Validation finds every fault of a configuration: those of the sections first, then those of the
manifest, entry by entry.
-/

set_option autoImplicit false
set_option relaxedAutoImplicit false

namespace Pressroom.Config

open Pressroom.Page (View)
open Pressroom.Route (Location LocationError Entry)

inductive Fault where
  | invalidBindAddress (address : String)
  | invalidMetricsAddress (address : String)
  | zeroTimeout
  | zeroBodyLimit
  | emptyTitle
  | invalidRoute (raw : String) (reason : LocationError)
  | unknownView (raw : String) (view : String)
  | duplicateRoute (location : String)
  deriving DecidableEq, Repr

def Fault.message : Fault → String
  | .invalidBindAddress a => s!"invalid bind address `{a}`"
  | .invalidMetricsAddress a => s!"invalid metrics address `{a}`"
  | .zeroTimeout => "request timeout must be greater than zero"
  | .zeroBodyLimit => "body size limit must be greater than zero"
  | .emptyTitle => "site title must not be empty"
  | .invalidRoute raw reason => s!"route `{raw}`: {reason.message}"
  | .unknownView raw view => s!"route `{raw}` names unknown view `{view}`"
  | .duplicateRoute location => s!"duplicate route location `{location}`"

def faultsMessage (faults : List Fault) : String :=
  "Validation failed: " ++ ", ".intercalate (faults.map (·.message))

def faultIf (p : Prop) [Decidable p] (f : Fault) : List Fault :=
  if p then [f] else []

def sectionFaults (c : Server) : List Fault :=
  faultIf (Address.parse? c.listener.bindAddress = none)
      (.invalidBindAddress c.listener.bindAddress)
    ++ faultIf (c.observability.metricsEnabled = true
        ∧ Address.parse? c.observability.metricsAddress = none)
      (.invalidMetricsAddress c.observability.metricsAddress)
    ++ faultIf (c.timeouts.requestSecs = 0) .zeroTimeout
    ++ faultIf (c.limits.maxBodyBytes = 0) .zeroBodyLimit
    ++ faultIf (Text.trim c.site.title = "") .emptyTitle

/-- The fault of an entry's location, given the locations seen before. -/
def locationFaults (seen : List Location) (e : Entry) : List Fault :=
  match Location.parse e.location with
  | .error reason => [.invalidRoute e.location reason]
  | .ok l => faultIf (l ∈ seen) (.duplicateRoute l.display)

def viewFaults (e : Entry) : List Fault :=
  faultIf (View.ofName? e.view = none) (.unknownView e.location e.view)

/-- The locations seen once an entry has been looked at. -/
def see (seen : List Location) (e : Entry) : List Location :=
  match Location.parse e.location with
  | .error _ => seen
  | .ok l => l :: seen

/-- The faults of a manifest, given the locations seen before. -/
def routeFaults (seen : List Location) : List Entry → List Fault
  | [] => []
  | e :: rest => locationFaults seen e ++ viewFaults e ++ routeFaults (see seen e) rest

def faults (c : Server) : List Fault :=
  sectionFaults c ++ routeFaults [] c.routes.entries

def validate (c : Server) : Except (List Fault) Server :=
  match faults c with
  | [] => .ok c
  | fs => .error fs

end Pressroom.Config
