import Pressroom.Keyed
import Pressroom.Page.Kind

/-!
Counters: how often each view was rendered, how many paths led nowhere, and how requests were
answered.
-/

set_option autoImplicit false
set_option relaxedAutoImplicit false

namespace Pressroom

inductive Counter where
  | render (view : Page.View) (ok : Bool)
  | routeMiss
  | request (method : String) (status : Nat)
  deriving DecidableEq, Repr

def Counter.name : Counter → String
  | .render view ok =>
    "cms_renders_total\x7bview=\"" ++ view.name ++ "\",outcome=\"" ++
      (if ok then "ok" else "error") ++ "\"\x7d"
  | .routeMiss => "cms_route_misses_total"
  | .request method status =>
    "cms_requests_total\x7bmethod=\"" ++ method ++ "\",status=\"" ++ toString status ++ "\"\x7d"

/-- The counters that have been moved, with their values. -/
structure Metrics where
  counts : List (Counter × Nat)
  deriving DecidableEq, Repr

namespace Metrics

def zero : Metrics := ⟨[]⟩

def value (m : Metrics) (c : Counter) : Nat :=
  (m.counts.lookup c).getD 0

def count (m : Metrics) (c : Counter) : Metrics :=
  ⟨Keyed.put c (m.value c + 1) m.counts⟩

/-- One line for each counter that has been moved, in the order of the lines. -/
def lines (m : Metrics) : List String :=
  (m.counts.map fun e => e.1.name ++ " " ++ toString e.2).mergeSort (fun a b => decide (a ≤ b))

@[simp] theorem value_count_self (m : Metrics) (c : Counter) :
    (m.count c).value c = m.value c + 1 := by
  simp [count, value]

theorem value_count_of_ne (m : Metrics) {c other : Counter} (h : other ≠ c) :
    (m.count c).value other = m.value other := by
  simp [count, value, Keyed.lookup_put_of_ne h]

end Metrics

end Pressroom
