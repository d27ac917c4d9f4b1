import Sluice.Capability
import Sluice.Classify
import Sluice.ConnectionString
import Sluice.Dialect
import Sluice.Humanize
import Sluice.TypeName

/-!
# Drivers

A descriptor holds what is known about one backend; whatever it leaves open is inherited from its
parent. A driver is a descriptor together with its ancestors, nearest first, so every lookup is a
search along one list.
-/

namespace Sluice

/-- What a backend declares about itself. -/
structure Descriptor where
  id : String
  displayName : String
  parent : Option String := none
  capabilities : CapabilitySet := {}
  /-- Native type names, by their normal forms; the last entry of a name counts. -/
  types : List (String × SemanticType) := []
  /-- Native names for casts; the last entry of a type counts. -/
  casts : List (SemanticType × String) := []
  dialect : Dialect := {}
  /-- The account that every database of this kind is created with. -/
  adminUser : Option String := none
  safeOptions : List SafeOption := []
  parser : Option StatementParser := none
  patterns : List ErrorPattern := []

namespace Descriptor

def ofId (id : String) : Descriptor := { id, displayName := id }

/-- Declare the type of a native name, in place of any earlier declaration. -/
def withType (d : Descriptor) (native : String) (type : SemanticType) : Descriptor :=
  { d with types := d.types ++ [(TypeName.normalize native, type)] }

/-- Declare the native name for casts to a type, in place of any earlier declaration. -/
def withCast (d : Descriptor) (type : SemanticType) (native : String) : Descriptor :=
  { d with casts := d.casts ++ [(type, native)] }

def type? (d : Descriptor) (normal : String) : Option SemanticType :=
  d.types.reverse.lookup normal

/-- The declared native name of a type. -/
def cast? (d : Descriptor) (type : SemanticType) : Option String :=
  d.casts.reverse.lookup type

end Descriptor

/-- A descriptor and its ancestors, nearest first. -/
structure Driver where
  own : Descriptor
  ancestors : List Descriptor

namespace Driver

def id (d : Driver) : String := d.own.id

def displayName (d : Driver) : String := d.own.displayName

/-- The driver and its ancestors, ending at the root. -/
def chain (d : Driver) : List Descriptor := d.own :: d.ancestors

def parent? (d : Driver) : Option Driver :=
  match d.ancestors with
  | [] => none
  | own :: ancestors => some ⟨own, ancestors⟩

/-- Whether `ancestor` is this driver or one of its ancestors. -/
def inheritsFrom (d : Driver) (ancestor : String) : Bool := d.chain.any (·.id == ancestor)

def nearest (d : Driver) (declared : Descriptor → Option α) : Option α :=
  d.chain.findSome? declared

/-- Whether the driver has a feature; one that nobody declares is absent. -/
def capability (d : Driver) (c : Capability) : Bool :=
  (d.nearest fun e => e.capabilities.get c).getD false

/-- The type of a native name: the nearest declaration, else the names shared by all. -/
def semanticType (d : Driver) (native : String) : SemanticType :=
  let normal := TypeName.normalize native
  ((d.nearest (·.type? normal)) <|> TypeName.lookup? normal).getD .other

def nativeType? (d : Driver) (type : SemanticType) : Option String := d.nearest (·.cast? type)

def slot? (d : Driver) (slot : Dialect → Option α) : Option α := d.nearest fun e => slot e.dialect

def slot (d : Driver) (name : String) (slot : Dialect → Option α) : Except Error α :=
  match d.slot? slot with
  | some a => .ok a
  | none => .error (.notSupported (.slot d.displayName name))

def adminUser? (d : Driver) : Option String := d.nearest (·.adminUser)

/-- The safe options of the whole chain, the root's first. -/
def safeOptions (d : Driver) : List SafeOption := d.chain.reverse.flatMap (·.safeOptions)

def parser? (d : Driver) : Option StatementParser := d.nearest (·.parser)

/-- The error patterns of the whole chain, nearest first. -/
def errorPatterns (d : Driver) : List ErrorPattern := d.chain.flatMap (·.patterns)

def sessionSetup (d : Driver) (options : SessionOptions) : List String :=
  match d.slot? (·.sessionSetup) with
  | some setup => setup options
  | none => []

end Driver

end Sluice
