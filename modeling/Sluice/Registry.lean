import Sluice.Driver

/-!
# Registries

A registry knows every driver by its identifier. It starts from one root, which fills every slot
of its dialect, and grows by drivers whose parent is already known. A driver is stored with its
ancestors, so a chain is fixed when its driver is registered.
-/

namespace Sluice

/-- All known drivers, in the order of their registration, the root first. -/
structure Registry where
  root : Driver
  others : List Driver

namespace Registry

def drivers (r : Registry) : List Driver := r.root :: r.others

def get? (r : Registry) (id : String) : Option Driver := r.drivers.find? (·.id == id)

/-- The driver with an identifier, or an error. -/
def resolve (r : Registry) (id : String) : Except Error Driver :=
  match r.get? id with
  | some d => .ok d
  | none => .error (.unknownDriver id)

def contains (r : Registry) (id : String) : Bool := (r.get? id).isSome

def ofRoot (root : Descriptor) : Except Error Registry :=
  match root.parent with
  | some parent => .error (.configuration (.rootHasParent root.id parent))
  | none =>
    match root.dialect.missingSlots with
    | [] => .ok ⟨⟨root, []⟩, []⟩
    | missing => .error (.configuration (.rootLeavesSlotsEmpty root.id missing))

/-- Add a driver whose parent is known. -/
def register (r : Registry) (d : Descriptor) : Except Error Registry :=
  if r.contains d.id then .error (.duplicateDriver d.id)
  else
    match d.parent with
    | none => .error (.configuration (.parentless d.id r.root.id))
    | some parent =>
      match r.get? parent with
      | none => .error (.unknownParent d.id parent)
      | some p => .ok { r with others := r.others ++ [⟨d, p.chain⟩] }

/-- Add drivers one after the other, up to the first that fails. -/
def registerAll (r : Registry) (ds : List Descriptor) : Except Error Registry :=
  ds.foldlM register r

def capability (r : Registry) (id : String) (c : Capability) : Except Error Bool :=
  (r.resolve id).map (·.capability c)

/-- All identifiers in increasing order. -/
def list (r : Registry) : List String := (r.drivers.map (·.id)).mergeSort fun a b => decide (a ≤ b)

def size (r : Registry) : Nat := r.drivers.length

end Registry

end Sluice
