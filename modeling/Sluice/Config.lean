import Sluice.Guard
import Sluice.Toml.Reader
import Sluice.Translation

/-!
# Configuration

A configuration sets the start of the week, the policies, the session, and further drivers that
inherit from known ones. Everything in it is optional.
-/

namespace Sluice

structure DriverConfig where
  id : String
  parent : String
  displayName : Option String := none
  /-- Features by their flags. -/
  capabilities : NameMap Bool := .empty
  /-- Types by their native names. -/
  typeMap : NameMap SemanticType := .empty
  adminUser : Option String := none
deriving DecidableEq, Inhabited

structure Config where
  weekStart : Option String := none
  metadataTtl : Nat := 60
  defaultPolicy : Policy := {}
  policies : NameMap Policy := .empty
  session : SessionOptions := {}
  drivers : List DriverConfig := []
deriving DecidableEq, Inhabited

/-! ## Reading -/

namespace Policy

def ofToml? (v : Toml) : Option Policy := do
  let parts ← v.record? ["allow_schema_mutation", "allow_unparseable"]
  let allowSchemaMutation ← Toml.defaulted? parts "allow_schema_mutation" false Toml.toBool?
  let allowUnparseable ← Toml.defaulted? parts "allow_unparseable" true Toml.toBool?
  return { allowSchemaMutation, allowUnparseable }

end Policy

namespace DriverConfig

def ofToml? (v : Toml) : Option DriverConfig := do
  let parts ← v.record?
    ["id", "parent", "display_name", "capabilities", "type_map", "default_admin_user"]
  let id ← Toml.required? parts "id" Toml.toText?
  let parent ← Toml.required? parts "parent" Toml.toText?
  let text v := (Toml.toText? v).map some
  let displayName ← Toml.defaulted? parts "display_name" none text
  let capabilities ← Toml.defaulted? parts "capabilities" .empty (Toml.toMapOf? Toml.toBool?)
  let type v := (Toml.toText? v).bind SemanticType.ofName?
  let typeMap ← Toml.defaulted? parts "type_map" .empty (Toml.toMapOf? type)
  let adminUser ← Toml.defaulted? parts "default_admin_user" none text
  return { id, parent, displayName, capabilities, typeMap, adminUser }

/-- The descriptor of a driver; the first unknown flag is an error. -/
def toDescriptor (c : DriverConfig) : Except Error Descriptor := do
  let capabilities ← c.capabilities.entries.foldlM (fun (s : CapabilitySet) (flag, value) =>
    (Capability.ofFlag flag).map fun c => s.set c value) {}
  return {
    id := c.id
    displayName := c.displayName.getD c.id
    parent := some c.parent
    capabilities
    types := c.typeMap.entries.map fun (native, type) => (TypeName.normalize native, type)
    adminUser := c.adminUser }

end DriverConfig

namespace Config

def ofEntries? (entries : List (String × Toml)) : Option Config := do
  let text v := (Toml.toText? v).map some
  let weekStart ← Toml.defaulted? entries "translate" none fun v => do
    let parts ← v.record? ["week_start"]
    Toml.defaulted? parts "week_start" none text
  let (metadataTtl, defaultPolicy, policies) ←
    Toml.defaulted? entries "security" (60, {}, .empty) fun v => do
      let parts ← v.record? ["metadata_ttl_secs", "default_policy", "policies"]
      let ttl ← Toml.defaulted? parts "metadata_ttl_secs" 60 Toml.toNat?
      let fallback ← Toml.defaulted? parts "default_policy" {} Policy.ofToml?
      let policies ← Toml.defaulted? parts "policies" .empty (Toml.toMapOf? Policy.ofToml?)
      return (ttl, fallback, policies)
  let session ← Toml.defaulted? entries "session" {} fun v => do
    let parts ← v.record? ["read_only", "time_zone"]
    let readOnly ← Toml.defaulted? parts "read_only" true Toml.toBool?
    let timeZone ← Toml.defaulted? parts "time_zone" none text
    return { readOnly, timeZone }
  let drivers ← Toml.defaulted? entries "drivers" [] (Toml.toListOf? DriverConfig.ofToml?)
  return { weekStart, metadataTtl, defaultPolicy, policies, session, drivers }

def ofText (s : String) : Except Error Config :=
  match (Toml.parse? s).bind ofEntries? with
  | some c => .ok c
  | none => .error (.toml "")

/-- Read a configuration from a file, given the file's text if it could be read. -/
def ofFile (content : Option String) : Except Error Config :=
  match content with
  | some s => ofText s
  | none => .error (.io "")

/-! ## Use -/

def translateOptions (c : Config) : Except Error TranslateOptions :=
  match c.weekStart with
  | none => .ok {}
  | some day =>
    match Weekday.parse? day with
    | some weekStart => .ok { weekStart }
    | none => .error (.configuration (.invalidWeekStart day))

def policySet (c : Config) : PolicySet := ⟨c.defaultPolicy, c.policies.entries⟩

end Config

end Sluice
