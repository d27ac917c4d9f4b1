import Sluice.Backend.Ansi
import Sluice.Plan
import Sluice.Registry

/-!
# Authorization

Before a query runs, the guard decides whether it may. Plans always may. Native SQL must not come
from the default administrative account, and the policy of the driver says whether it may change
the schema or hold statements that nobody could classify.
-/

namespace Sluice

/-- What a driver lets through. -/
structure Policy where
  /-- Statements that change the schema. -/
  allowSchemaMutation : Bool := false
  /-- Statements that could not be classified. -/
  allowUnparseable : Bool := true
deriving DecidableEq, Inhabited

/-- Policies by driver, and one for all others. -/
structure PolicySet where
  fallback : Policy := {}
  /-- The last entry of a driver counts. -/
  entries : List (String × Policy) := []
deriving DecidableEq, Inhabited

namespace PolicySet

def entry? (ps : PolicySet) (id : String) : Option Policy := ps.entries.reverse.lookup id

def withPolicy (ps : PolicySet) (id : String) (p : Policy) : PolicySet :=
  { ps with entries := ps.entries ++ [(id, p)] }

/-- The nearest policy along the chain of a driver, else the fallback. -/
def policyFor (ps : PolicySet) (d : Driver) : Policy :=
  (d.nearest fun e => ps.entry? e.id).getD ps.fallback

end PolicySet

structure Metadata where
  driverId : String
  descriptor : ConnectionDescriptor
  /-- The authenticated user, if known apart from the connection string. -/
  user : Option String := none
deriving DecidableEq, Inhabited

/-- The known user, else the one of the connection string, else nobody. -/
def Metadata.resolvedUser (m : Metadata) : String :=
  (m.user <|> m.descriptor.user?).getD ""

/-- A decision: allowed, or denied for a reason. -/
inductive Decision where
  | allow
  | deny (reason : Violation)
deriving DecidableEq, Inhabited

namespace Decision

def allowed : Decision → Bool
  | allow => true
  | deny _ => false

def reason? : Decision → Option Violation
  | allow => none
  | deny reason => some reason

def toResult : Decision → Except Error Unit
  | allow => .ok ()
  | deny reason => .error (.security reason)

end Decision

structure Guard where
  registry : Registry
  policies : PolicySet

namespace Guard

def isDefaultAccount (admin user : String) : Bool :=
  user.isEmpty || Text.eqIgnoreCase user admin

def judge (driver : String) (policy : Policy) (statements : List Classification) : Decision :=
  match if policy.allowSchemaMutation then none else statements.find? (·.kind == .ddl) with
  | some ddl => .deny (.disallowedCategory driver ddl.className)
  | none =>
    if !policy.allowUnparseable && statements.any (·.kind == .unparseable) then .deny .unparseable
    else .allow

/-- The parser that classifies a driver's native SQL. -/
def parserOf (d : Driver) : StatementParser := d.parser?.getD Ansi.parser

/-- Decide on native SQL; the parser's calls are numbered from `call` on. -/
def judgeNative (g : Guard) (d : Driver) (m : Metadata) (sql : String) (call : Nat) : Decision :=
  if d.adminUser?.any fun admin => isDefaultAccount admin m.resolvedUser then
    .deny (.defaultCredential d.displayName)
  else
    judge d.displayName (g.policies.policyFor d) ((parserOf d).classify sql call)

/-- Decide whether a query may run on a connection. Only an unknown driver is an error. -/
def authorize (g : Guard) (q : Query) (m : Metadata) (call : Nat := 0) : Except Error Decision :=
  match g.registry.resolve m.driverId with
  | .error e => .error e
  | .ok d =>
    match q with
    | .plan _ => .ok .allow
    | .native sql _ => .ok (g.judgeNative d m sql call)

end Guard

end Sluice
