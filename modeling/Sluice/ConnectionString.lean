import Sluice.Error
import Sluice.Text.Ascii
import Sluice.Text.Blank

/-!
# Connection strings

`target[;KEY=VALUE]*`: a database location and options. Keys are case-sensitive, values hold no
semicolon, and nothing is escaped. Drivers force or strip options; these match keys of any case.
-/

namespace Sluice

open Text

/-- A location and its options, in the order in which their keys first appeared. -/
structure ConnectionDescriptor where
  target : String
  options : List (String × String)
deriving DecidableEq, Inhabited

/-- An option that a driver enforces whatever the user wrote. -/
inductive SafeOption where
  | force (key value : String)
  | strip (key : String)
deriving DecidableEq, Inhabited

def SafeOption.key : SafeOption → String
  | force key _ => key
  | strip key => key

namespace ConnectionDescriptor

/-- A location without options. -/
def ofTarget (target : String) : ConnectionDescriptor := ⟨target, []⟩

/-- Set an option of a list: in place when its key is there, at the end otherwise. -/
def setOption (key value : String) : List (String × String) → List (String × String)
  | [] => [(key, value)]
  | (k, v) :: rest => if k = key then (k, value) :: rest else (k, v) :: setOption key value rest

def withOption (d : ConnectionDescriptor) (key value : String) : ConnectionDescriptor :=
  { d with options := setOption key value d.options }

def option? (d : ConnectionDescriptor) (key : String) : Option String := d.options.lookup key

/-- The connecting user, given by the option `USER`. -/
def user? (d : ConnectionDescriptor) : Option String := d.option? "USER"

/-- Cut at the first equals sign. -/
def splitAtEquals : List Char → Option (List Char × List Char)
  | [] => none
  | c :: rest =>
    if c = '=' then some ([], rest)
    else (splitAtEquals rest).map fun (key, value) => (c :: key, value)

def decodeOption (segment : List Char) : Except Error (String × String) :=
  match splitAtEquals segment with
  | none => .error (.malformedConnectionString (.optionWithoutValue (String.ofList segment)))
  | some ([], _) => .error (.malformedConnectionString (.optionWithoutKey (String.ofList segment)))
  | some (key, value) => .ok (String.ofList key, String.ofList value)

/-- Read the segments after the target, the first fault first. Empty segments are skipped, and a
repeated key takes the later value. -/
def decodeOptions (options : List (String × String)) :
    List (List Char) → Except Error (List (String × String))
  | [] => .ok options
  | [] :: rest => decodeOptions options rest
  | segment :: rest =>
    match decodeOption segment with
    | .error e => .error e
    | .ok (key, value) => decodeOptions (setOption key value options) rest

def decode (s : String) : Except Error ConnectionDescriptor :=
  match splitChar ';' s.toList with
  | [] => .error (.malformedConnectionString .missingTarget)
  | target :: segments =>
    if target.all isBlank then .error (.malformedConnectionString .missingTarget)
    else (decodeOptions [] segments).map fun options => ⟨String.ofList target, options⟩

def encode (d : ConnectionDescriptor) : String :=
  d.options.foldl (fun s (key, value) => s ++ ";" ++ key ++ "=" ++ value) d.target

/-- Apply one safe option: every spelling of its key goes, a forced value comes last. -/
def applySafeOption (d : ConnectionDescriptor) (o : SafeOption) : ConnectionDescriptor :=
  let kept := d.options.filter fun (key, _) => !eqIgnoreCase key o.key
  match o with
  | .force key value => { d with options := setOption key value kept }
  | .strip _ => { d with options := kept }

def applySafeOptions (d : ConnectionDescriptor) (os : List SafeOption) : ConnectionDescriptor :=
  os.foldl applySafeOption d

end ConnectionDescriptor

end Sluice
