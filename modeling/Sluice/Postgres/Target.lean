import Sluice.ConnectionString
import Sluice.Postgres.Address
import Sluice.Text.Percent
import Sluice.Value

/-!
# Where a server is, and who asks

The target of a connection string is a URL or a list of `key = value` settings. Either way it says
which hosts to try, as whom, and for which database; options of the connection string override the
user, the password and the name of the application.
-/

namespace Sluice.Postgres

open Text

/-- A host as it is written: a name, or the directory of a local socket. -/
inductive Host where
  | network (name : String)
  | directory (path : String)
deriving DecidableEq, Inhabited

/-- A host by its text; a path starts with a slash. -/
def Host.ofText (s : String) : Host :=
  if s.startsWith "/" then directory s else network s

structure Target where
  hosts : List Host := []
  /-- Numeric addresses that stand in for the hosts. -/
  addresses : List String := []
  ports : List Nat := []
  user : Option String := none
  /-- Passwords in URLs need not be text. -/
  password : Option (List UInt8) := none
  database : Option String := none
  options : Option String := none
  application : Option String := none
  requiresEncryption : Bool := false
  requiresChannelBinding : Bool := false
deriving DecidableEq, Inhabited

namespace Target

/-- Where a server listens when its target does not say. -/
def defaultPort : Nat := 5432

/-- Read an unsigned number below a bound, a plus sign allowed. -/
def unsigned? (bound : Nat) (s : String) : Option Nat :=
  let digits := match s.toList with
    | '+' :: rest => rest
    | cs => cs
  if digits.isEmpty || !digits.all Char.isDigit then none
  else
    let n := digits.foldl (fun n c => n * 10 + (c.toNat - '0'.toNat)) 0
    if n < bound then some n else none

/-- One port number; an empty text is the default. -/
def port? (s : String) : Option Nat :=
  if s.isEmpty then some defaultPort else unsigned? UInt16.size s

def addHost (t : Target) (s : String) : Target := { t with hosts := t.hosts ++ [Host.ofText s] }

def addPorts? (t : Target) (s : String) : Option Target := do
  let ports ← ((splitChar ',' s.toList).map String.ofList).mapM port?
  return { t with ports := t.ports ++ ports }

/-- Accept a setting that changes nothing here if its value is well formed. -/
def accept? (t : Target) (wellFormed : Bool) : Option Target :=
  if wellFormed then some t else none

/-- Apply one setting; none for an unknown key or a bad value. -/
def set? (t : Target) (key value : String) : Option Target :=
  match key with
  | "user" => some { t with user := some value }
  | "password" => some { t with password := some (utf8 value) }
  | "dbname" => some { t with database := some value }
  | "options" => some { t with options := some value }
  | "application_name" => some { t with application := some value }
  | "sslmode" =>
    match value with
    | "disable" => some { t with requiresEncryption := false }
    | "prefer" => some { t with requiresEncryption := false }
    | "require" => some { t with requiresEncryption := true }
    | _ => none
  | "sslnegotiation" => t.accept? (["postgres", "direct"].contains value)
  | "host" => some (((splitChar ',' value.toList).map String.ofList).foldl addHost t)
  | "hostaddr" =>
    let addresses := (splitChar ',' value.toList).map String.ofList
    if addresses.all Address.isNumeric then some { t with addresses := t.addresses ++ addresses }
    else none
  | "port" => t.addPorts? value
  | "connect_timeout" => t.accept? (Value.parseInt64? value).isSome
  | "tcp_user_timeout" => t.accept? (Value.parseInt64? value).isSome
  | "keepalives" => t.accept? (unsigned? UInt64.size value).isSome
  | "keepalives_idle" => t.accept? (Value.parseInt64? value).isSome
  | "keepalives_interval" => t.accept? (Value.parseInt64? value).isSome
  | "keepalives_retries" => t.accept? (unsigned? UInt32.size value).isSome
  | "target_session_attrs" => t.accept? (["any", "read-write", "read-only"].contains value)
  | "channel_binding" =>
    match value with
    | "disable" => some { t with requiresChannelBinding := false }
    | "prefer" => some { t with requiresChannelBinding := false }
    | "require" => some { t with requiresChannelBinding := true }
    | _ => none
  | "load_balance_hosts" => t.accept? (["disable", "random"].contains value)
  | _ => none

/-! ## Settings -/

/-- The characters of a bare value, a backslash before any of them dropped. -/
def bareValue : List Char → List Char × List Char
  | [] => ([], [])
  | '\\' :: c :: rest => let (v, rest) := bareValue rest; (c :: v, rest)
  | ['\\'] => ([], [])
  | c :: rest =>
    if isBlank c then ([], c :: rest) else let (v, rest) := bareValue rest; (c :: v, rest)

/-- The characters up to the closing quote, and what follows it. -/
def quotedValue : List Char → Option (List Char × List Char)
  | [] => none
  | '\'' :: rest => some ([], rest)
  | '\\' :: c :: rest => (quotedValue rest).map fun (v, rest) => (c :: v, rest)
  | c :: rest => (quotedValue rest).map fun (v, rest) => (c :: v, rest)

/-- One value, quoted or bare; a bare value is not empty. -/
def settingValue (cs : List Char) : Option (String × List Char) :=
  match cs with
  | '\'' :: rest => (quotedValue rest).map fun (v, rest) => (String.ofList v, rest)
  | cs =>
    let (v, rest) := bareValue cs
    if v.isEmpty then none else some (String.ofList v, rest)

/-- Apply settings up to the end, or up to a stray equals sign. -/
def applySettings : (fuel : Nat) → Target → List Char → Option Target
  | 0, t, _ => some t
  | fuel + 1, t, cs => do
    let cs := cs.dropWhile isBlank
    let isKey c := !isBlank c && c != '='
    let key := cs.takeWhile isKey
    if key.isEmpty then some t
    else
      match (cs.dropWhile isKey).dropWhile isBlank with
      | '=' :: rest =>
        let (value, rest) ← settingValue (rest.dropWhile isBlank)
        applySettings fuel (← t.set? (String.ofList key) value) rest
      | _ => none

/-- Read `key = value` settings. -/
def ofSettings? (cs : List Char) : Option Target := applySettings (cs.length + 1) {} cs

/-! ## URLs -/

def percentText? (cs : List Char) : Option String := ofUtf8? (percentBytes cs)

def cutAt? (stop : Char → Bool) (cs : List Char) : Option (List Char × List Char) :=
  if cs.any stop then some (cs.takeWhile (!stop ·), cs.dropWhile (!stop ·)) else none

/-- Add a host of a URL; the directory of a socket need not be text. -/
def addUrlHost? (t : Target) (cs : List Char) : Option Target :=
  match percentBytes cs with
  | 0x2F :: path =>
    some { t with hosts := t.hosts ++ [.directory (ofUtf8Lossy (0x2F :: path))] }
  | bytes => (ofUtf8? bytes).map t.addHost

/-- A host of a URL with its port; an address of version 6 stands in brackets. -/
def hostAndPort? (cs : List Char) : Option (List Char × Option (List Char)) :=
  match cs with
  | '[' :: rest =>
    match cutAt? (· = ']') rest with
    | some (host, _ :: ':' :: port) => some (host, some port)
    | some (host, [_]) => some (host, none)
    | _ => none
  | cs =>
    match cutAt? (· = ':') cs with
    | some (host, rest) => some (host, some (rest.drop 1))
    | none => some (cs, none)

/-- Add the hosts of a URL, with commas between them. -/
def addUrlHosts? (t : Target) (cs : List Char) : Option Target :=
  if cs.isEmpty then some t
  else (splitChar ',' cs).foldlM (fun t part => do
    let (host, port) ← hostAndPort? part
    let t ← t.addUrlHost? host
    match port with
    | some port => t.addPorts? (← percentText? port)
    | none => t.addPorts? (toString defaultPort)) t

/-- Apply the settings behind the question mark of a URL. -/
def applyUrlSettings : (fuel : Nat) → Target → List Char → Option Target
  | 0, t, _ => some t
  | fuel + 1, t, cs =>
    if cs.isEmpty then some t
    else do
      let (key, rest) ← cutAt? (· = '=') cs
      let key ← percentText? key
      let (value, rest) := (cutAt? (· = '&') (rest.drop 1)).getD (rest.drop 1, [])
      let t ← if key = "host" then t.addUrlHost? value else t.set? key (← percentText? value)
      applyUrlSettings fuel t (rest.drop 1)

/-- Read a URL without its scheme. -/
def ofUrl? (cs : List Char) : Option Target := do
  let (t, cs) ← match cutAt? (· = '@') cs with
    | none => pure (({} : Target), cs)
    | some (credentials, rest) =>
      let (user, password) := match cutAt? (· = ':') credentials with
        | some (user, password) => (user, some (percentBytes (password.drop 1)))
        | none => (credentials, none)
      let user ← percentText? user
      pure ({ user := some user, password }, rest.drop 1)
  let (hosts, cs) := (cutAt? (fun c => c = '/' || c = '?') cs).getD (cs, [])
  let t ← t.addUrlHosts? hosts
  let (t, cs) ← match cs with
    | '/' :: rest =>
      let (name, rest) := (cutAt? (· = '?') rest).getD (rest, [])
      if name.isEmpty then pure (t, rest)
      else pure ({ t with database := some (← percentText? name) }, rest)
    | cs => pure (t, cs)
  match cs with
  | '?' :: rest => applyUrlSettings (rest.length + 1) t rest
  | _ => some t

def parse? (s : String) : Option Target :=
  match dropPrefix? "postgres://".toList s.toList with
  | some rest => ofUrl? rest
  | none =>
    match dropPrefix? "postgresql://".toList s.toList with
    | some rest => ofUrl? rest
    | none => ofSettings? s.toList

def ofDescriptor (d : ConnectionDescriptor) : Except Error Target :=
  match parse? d.target with
  | none => .error (.configuration .invalidServerTarget)
  | some t => .ok {
      t with
      user := d.user? <|> t.user
      password := ((d.option? "PASSWORD").map utf8) <|> t.password
      application := d.option? "APPLICATION_NAME" <|> t.application }

/-! ## Use -/

inductive Door where
  | network (host : String) (port : Nat)
  | socket (path : String)
deriving DecidableEq, Inhabited

def socketPath (directory : String) (port : Nat) : String :=
  (if directory.endsWith "/" then directory else directory ++ "/") ++ ".s.PGSQL." ++ toString port

/-- Where the host at a position listens: its own number, else the first, else the default. -/
def portAt (t : Target) (i : Nat) : Nat :=
  ((t.ports[i]?) <|> t.ports.head?).getD defaultPort

/-- The door of the host at a position; a numeric address goes before the name. -/
def door (t : Target) (i : Nat) : Door :=
  match t.addresses[i]? with
  | some address => .network address (t.portAt i)
  | none =>
    match (t.hosts[i]?).getD default with
    | .network name => .network name (t.portAt i)
    | .directory path => .socket (socketPath path (t.portAt i))

/-- The doors to try in turn; none if hosts, addresses and ports do not go together. -/
def doors? (t : Target) : Option (List Door) :=
  if t.hosts.isEmpty && t.addresses.isEmpty then none
  else if !t.hosts.isEmpty && !t.addresses.isEmpty && t.hosts.length ≠ t.addresses.length then none
  else
    let count := if t.hosts.isEmpty then t.addresses.length else t.hosts.length
    if 1 < t.ports.length && t.ports.length ≠ count then none
    else some ((List.range count).map t.door)

/-- What the client tells the server first; `account` is used if no user is given. -/
def startup (t : Target) (account : String) : List (String × String) :=
  let given (key : String) (value : Option String) := (value.map fun v => (key, v)).toList
  [("client_encoding", "UTF8"), ("user", t.user.getD account)] ++ given "database" t.database ++
    given "options" t.options ++ given "application_name" t.application

end Target

end Sluice.Postgres
