import Sluice.Execution
import Sluice.Backend.Ansi

/-!
# Drivers that connect

A catalog holds the drivers that can open connections, and from it come a registry and a source of
connections. A driver that is declared elsewhere connects through its nearest ancestor in the
catalog.
-/

namespace Sluice

/-- A driver that describes itself and opens connections. -/
structure Connector (κ : Type) where
  id : String
  displayName : String := id
  descriptor : Except Error Descriptor
  /-- Open a connection; most drivers have none of their own. -/
  connect : ConnectionDescriptor → Except Error κ := fun _ =>
    .error (.notSupported (.builtinConnection displayName))

/-- Connectors with distinct identifiers. -/
structure Catalog (κ : Type) where
  connectors : List (Connector κ) := []

namespace Catalog

/-- Add a connector, in place of an earlier one with its identifier. -/
def register (c : Catalog κ) (k : Connector κ) : Catalog κ :=
  ⟨c.connectors.filter (fun e => e.id ≠ k.id) ++ [k]⟩

def get? (c : Catalog κ) (id : String) : Option (Connector κ) :=
  c.connectors.find? fun k => k.id = id

def contains (c : Catalog κ) (id : String) : Bool := (c.get? id).isSome

/-- The connectors in increasing order of their identifiers. -/
def sorted (c : Catalog κ) : List (Connector κ) :=
  c.connectors.mergeSort fun a b => decide (a.id ≤ b.id)

/-- All identifiers in increasing order. -/
def list (c : Catalog κ) : List String := c.sorted.map (·.id)

/-- The registry of the root and all connectors. They are registered in the order of their
identifiers, each when its parent is already there. -/
def registry (c : Catalog κ) : Except Error Registry := do
  c.sorted.foldlM (fun r k => do r.register (← k.descriptor)) (← Registry.ofRoot Ansi.descriptor)

/-- The connector of the nearest member of a driver's chain. -/
def connectorFor? (c : Catalog κ) (d : Driver) : Option (Connector κ) :=
  d.nearest fun e => c.get? e.id

/-- Open a connection for the metadata, after the safe options of their driver were applied. -/
def acquire (c : Catalog κ) (r : Registry) (m : Metadata) : Except Error κ :=
  match r.resolve m.driverId with
  | .error e => .error e
  | .ok d =>
    match c.connectorFor? d with
    | none => .error (.notSupported (.connections m.driverId))
    | some k => k.connect (m.descriptor.applySafeOptions d.safeOptions)

/-- A source that opens a fresh connection every time and drops it afterwards. -/
def source (c : Catalog κ) (r : Registry) (link : Link κ) : Source Unit κ where
  toLink := link
  acquire := fun m s => (c.acquire r m, s)
  release := fun _ s => s

end Catalog

end Sluice
