import Sluice.Expr

/-!
# Errors

An error is a cause. Its wording lives in `Error.message` and nowhere else. Where a server or the
system explains a failure in its own words, these are kept as a detail after the cause.
-/

namespace Sluice

/-- Why a query was rejected. -/
inductive Violation where
  /-- A native query by the default administrative account. -/
  | defaultCredential (driver : String)
  /-- A statement of a class that the policy forbids. -/
  | disallowedCategory (driver className : String)
  /-- A statement that could not be classified. -/
  | unparseable
deriving DecidableEq, Inhabited

namespace Violation

def message : Violation → String
  | defaultCredential driver =>
    "native queries on " ++ driver ++
      " require a user other than the default administrative account"
  | disallowedCategory driver className =>
    className ++ " statements are not allowed on " ++ driver
  | unparseable => "query contains a statement that could not be classified"

end Violation

inductive ConfigurationIssue where
  | rootHasParent (root parent : String)
  | rootLeavesSlotsEmpty (root : String) (slots : List String)
  | parentless (driver root : String)
  | unknownCapability (flag : String)
  | invalidWeekStart (day : String)
  | invalidErrorPattern (pattern : String)
  | foreignMetadata (found expected : String)
  | missingDatabasePath
  | homeUnknown
  | homeOfOtherUser
  | invalidServerTarget
  /-- Explained by someone else. -/
  | reported (text : String)
deriving DecidableEq, Inhabited

inductive ConnectionStringIssue where
  | missingTarget
  | optionWithoutValue (segment : String)
  | optionWithoutKey (segment : String)
  /-- Explained by someone else. -/
  | reported (text : String)
deriving DecidableEq, Inhabited

/-- Why an expression has no form in a dialect. -/
inductive TranslationIssue where
  | noNativeType (driver : String) (type : SemanticType)
  | invalidFunctionName (name : String)
  | nonFiniteNumber (x : Binary64)
  | invalidDecimal (digits : String)
  | amountOutOfRange (amount : Int64)
  | fractionalAmount (driver : String) (unit : IntervalUnit) (amount : Binary64)
  | extractionUnit (unit : TruncateUnit)
  | cannotTruncate (backend : String) (unit : TruncateUnit)
  | noInfixForm (op : BinaryOperator)
  /-- Explained by someone else. -/
  | reported (text : String)
deriving DecidableEq, Inhabited

inductive UnsupportedFeature where
  | slot (driver name : String)
  | regularExpressions (driver : String)
  | connections (driverId : String)
  | builtinConnection (driver : String)
  /-- Explained by someone else. -/
  | reported (text : String)
deriving DecidableEq, Inhabited

inductive ConnectionIssue where
  | closed
  | missingParentDirectory (path : String)
  /-- The detail is the system's. -/
  | cannotOpenDatabase (path detail : String)
  /-- The detail is the system's. -/
  | cannotReachServer (detail : String)
  | refusedByServer (explanation : String)
  /-- Explained by someone else. -/
  | reported (text : String)
deriving DecidableEq, Inhabited

/-- Why a statement or query failed; servers may explain it. -/
inductive QueryIssue where
  | prepareStatement (explanation : String)
  | executeStatement (explanation : String)
  | prepareQuery (explanation : String)
  | executeQuery (explanation : String)
  | fetchRow (explanation : String)
  | readColumn (index : Nat)
  /-- Explained by someone else. -/
  | reported (text : String)
deriving DecidableEq, Inhabited

/-- Everything that can go wrong. -/
inductive Error where
  | configuration (issue : ConfigurationIssue)
  | malformedConnectionString (issue : ConnectionStringIssue)
  | security (violation : Violation)
  | unknownDriver (id : String)
  | duplicateDriver (id : String)
  | unknownParent (driver parent : String)
  | translation (issue : TranslationIssue)
  | notSupported (feature : UnsupportedFeature)
  | connection (issue : ConnectionIssue)
  | query (issue : QueryIssue)
  | io (detail : String)
  | toml (detail : String)
deriving DecidableEq, Inhabited

/-- A cause followed by a detail, if there is one. -/
def withDetail (cause detail : String) : String :=
  if detail.isEmpty then cause else cause ++ ": " ++ detail

namespace ConfigurationIssue

def message : ConfigurationIssue → String
  | rootHasParent root parent =>
    "root driver '" ++ root ++ "' must not declare a parent (found '" ++ parent ++ "')"
  | rootLeavesSlotsEmpty root slots =>
    "root driver '" ++ root ++ "' leaves dialect slots empty: " ++ ", ".intercalate slots
  | parentless driver root =>
    "driver '" ++ driver ++ "' has no parent; only the root driver '" ++ root ++
      "' may be parentless"
  | unknownCapability flag => "unknown capability flag '" ++ flag ++ "'"
  | invalidWeekStart day => "invalid week_start '" ++ day ++ "'"
  | invalidErrorPattern pattern => "invalid error pattern '" ++ pattern ++ "'"
  | foreignMetadata found expected =>
    "connection metadata belongs to driver '" ++ found ++ "', not '" ++ expected ++ "'"
  | missingDatabasePath => "SQLite requires a database path, e.g. /path/to/database.db"
  | homeUnknown => "Unable to determine HOME directory"
  | homeOfOtherUser => "User-specific home directories (~user) are not supported"
  | invalidServerTarget => "invalid PostgreSQL target"
  | reported text => text

end ConfigurationIssue

namespace ConnectionStringIssue

def message : ConnectionStringIssue → String
  | missingTarget => "missing primary target"
  | optionWithoutValue segment => "option '" ++ segment ++ "' has no '='"
  | optionWithoutKey segment => "option '" ++ segment ++ "' has an empty key"
  | reported text => text

end ConnectionStringIssue

namespace TranslationIssue

def message : TranslationIssue → String
  | noNativeType driver type => driver ++ " has no native type for " ++ type.name
  | invalidFunctionName name => "invalid function name '" ++ name ++ "'"
  | nonFiniteNumber x => "cannot emit non-finite number " ++ toString x
  | invalidDecimal digits => "invalid decimal literal '" ++ digits ++ "'"
  | amountOutOfRange amount => "interval amount " ++ toString amount.toInt ++ " is out of range"
  | fractionalAmount driver unit amount =>
    driver ++ " only accepts whole " ++ unit.name ++ " amounts, got " ++ toString amount
  | extractionUnit unit => unit.label ++ " is an extraction, not a truncation unit"
  | cannotTruncate backend unit => backend ++ " cannot truncate to " ++ unit.label
  | noInfixForm op => "no infix form for " ++ op.name
  | reported text => text

end TranslationIssue

namespace UnsupportedFeature

def message : UnsupportedFeature → String
  | slot driver name => driver ++ " provides no '" ++ name ++ "' operation"
  | regularExpressions driver => driver ++ " does not support regular expressions"
  | connections driverId => "no connection support for driver '" ++ driverId ++ "'"
  | builtinConnection driver => driver ++ " does not provide a built-in connection"
  | reported text => text

end UnsupportedFeature

namespace ConnectionIssue

def message : ConnectionIssue → String
  | closed => "connection is closed"
  | missingParentDirectory path => "Parent directory does not exist: " ++ path
  | cannotOpenDatabase path detail =>
    withDetail ("Failed to open SQLite database at '" ++ path ++ "'") detail
  | cannotReachServer detail => withDetail "Failed to connect to PostgreSQL" detail
  | refusedByServer explanation => withDetail "Failed to connect to PostgreSQL" explanation
  | reported text => text

/-- The issue without the system's own words after it. -/
def withoutDetail : ConnectionIssue → ConnectionIssue
  | cannotOpenDatabase path _ => cannotOpenDatabase path ""
  | cannotReachServer _ => cannotReachServer ""
  | issue => issue

end ConnectionIssue

namespace QueryIssue

def message : QueryIssue → String
  | prepareStatement explanation => withDetail "Failed to prepare statement" explanation
  | executeStatement explanation => withDetail "Failed to execute statement" explanation
  | prepareQuery explanation => withDetail "Failed to prepare query" explanation
  | executeQuery explanation => withDetail "Failed to execute query" explanation
  | fetchRow explanation => withDetail "Failed to fetch row" explanation
  | readColumn index => "Failed to read column " ++ toString index
  | reported text => text

end QueryIssue

namespace Error

def message : Error → String
  | configuration issue => "Configuration error: " ++ issue.message
  | malformedConnectionString issue => "Malformed connection string: " ++ issue.message
  | security violation => "Security violation: " ++ violation.message
  | unknownDriver id => "Unknown driver: " ++ id
  | duplicateDriver id => "Driver already registered: " ++ id
  | unknownParent driver parent =>
    "Driver '" ++ driver ++ "' declares unknown parent '" ++ parent ++ "'"
  | translation issue => "Translation error: " ++ issue.message
  | notSupported feature => "Not supported: " ++ feature.message
  | connection issue => "Connection error: " ++ issue.message
  | query issue => "Query error: " ++ issue.message
  | io detail => "IO error: " ++ detail
  | toml detail => "Invalid configuration file: " ++ detail

/-- Whether the error lies in what was configured, so that trying again cannot help. -/
def isConfiguration : Error → Bool
  | configuration _ | malformedConnectionString _ | unknownDriver _ | duplicateDriver _
  | unknownParent _ _ | toml _ => true
  | _ => false

def violation? : Error → Option Violation
  | security violation => some violation
  | _ => none

/-- The cause alone, without the system's own words after it. -/
def withoutDetail : Error → Error
  | connection issue => connection issue.withoutDetail
  | e => e

end Error

end Sluice
