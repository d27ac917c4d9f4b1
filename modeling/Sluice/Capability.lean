import Sluice.Error

/-!
# Capabilities

Optional features of a driver. A driver declares some of them as present or absent and leaves the
others to its parent.
-/

namespace Sluice

inductive Capability where
  | fullJoin
  | regex
  | percentileAggregations
  | actions
  | customActions
  /-- Intervals take whole numbers only. -/
  | integralIntervals
deriving DecidableEq, Inhabited

namespace Capability

/-- All features in their customary order. -/
def all : List Capability :=
  [fullJoin, regex, percentileAggregations, actions, customActions, integralIntervals]

/-- The name of the feature in configurations. -/
def flag : Capability → String
  | fullJoin => "full-join"
  | regex => "regex"
  | percentileAggregations => "percentile-aggregations"
  | actions => "actions"
  | customActions => "actions/custom"
  | integralIntervals => "integral-intervals"

/-- Look a feature up by its exact name. -/
def ofFlag (s : String) : Except Error Capability :=
  match all.find? (·.flag == s) with
  | some c => .ok c
  | none => .error (.configuration (.unknownCapability s))

theorem ofFlag_flag (c : Capability) : ofFlag c.flag = .ok c := by
  cases c <;> rfl

end Capability

/-- What a driver says about each feature; none leaves it to the parent. -/
structure CapabilitySet where
  fullJoin : Option Bool := none
  regex : Option Bool := none
  percentileAggregations : Option Bool := none
  actions : Option Bool := none
  customActions : Option Bool := none
  integralIntervals : Option Bool := none
deriving DecidableEq, Inhabited

namespace CapabilitySet

/-- The declared value of a feature. -/
def get (s : CapabilitySet) : Capability → Option Bool
  | .fullJoin => s.fullJoin
  | .regex => s.regex
  | .percentileAggregations => s.percentileAggregations
  | .actions => s.actions
  | .customActions => s.customActions
  | .integralIntervals => s.integralIntervals

/-- Declare a feature, in place of any earlier declaration. -/
def set (s : CapabilitySet) (c : Capability) (value : Bool) : CapabilitySet :=
  match c with
  | .fullJoin => { s with fullJoin := some value }
  | .regex => { s with regex := some value }
  | .percentileAggregations => { s with percentileAggregations := some value }
  | .actions => { s with actions := some value }
  | .customActions => { s with customActions := some value }
  | .integralIntervals => { s with integralIntervals := some value }

@[simp] theorem get_set_self (s : CapabilitySet) (c : Capability) (value : Bool) :
    (s.set c value).get c = some value := by
  cases c <;> rfl

theorem get_set_of_ne (s : CapabilitySet) {c d : Capability} (value : Bool) (h : d ≠ c) :
    (s.set c value).get d = s.get d := by
  cases c <;> cases d <;> first | rfl | exact absurd rfl h

def isEmpty (s : CapabilitySet) : Bool := Capability.all.all fun c => (s.get c).isNone

end CapabilitySet

end Sluice
