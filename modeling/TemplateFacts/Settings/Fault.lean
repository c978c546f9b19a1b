import TemplateFacts.Binary64.Text
import TemplateFacts.Text.Quoted

/-! What is wrong with a configuration. -/

namespace TemplateFacts.Settings

/-- A value of a configuration that holds no others. -/
inductive Scalar where
  | unit
  | bool (b : Bool)
  | int (n : Int)
  | float (x : Binary64)
  | text (s : String)
deriving DecidableEq, Repr

/-- What a configuration holds where something else is expected. -/
inductive Found where
  | scalar (s : Scalar)
  | list
  | table
deriving DecidableEq, Repr

/-- The cause of a failure to load settings. -/
inductive Fault where
  /-- The ending of the file's name belongs to no known format. -/
  | unknownFormat (path : String)
  /-- There is no such file. -/
  | notFound (name : String)
  /-- The file cannot be read, in the words of the system. -/
  | unreadable (reason : String)
  /-- The file does not follow its format. -/
  | malformed
  /-- A value cannot be converted to the kind of its setting. -/
  | unconvertible (found : Found) (expected key : String) (origin : Option String)
  /-- A section or a list is expected. -/
  | misplaced (found : Found) (expected : String)
  | missingField (name : String)
  | shortList (count : Nat) (expected : String)
  | unknownVariant (type name : String)
  | notVariant (type : String)
deriving DecidableEq, Repr

/-- A float with a point even when it is whole. -/
def pointedText (x : Binary64) : String :=
  -- Infinities and the undefined number keep their names.
  let text := x.plainText
  if x.isFinite && !text.toList.contains '.' then text ++ ".0" else text

/-- What was found, when it could not be converted. -/
def Found.unconvertible : Found → String
  -- Integers are named by their width.
  | .scalar .unit => "unit value"
  | .scalar (.bool b) => s!"boolean `{b}`"
  | .scalar (.int n) => s!"integer 64 bit `{n}`"
  | .scalar (.float x) => s!"floating point `{x.plainText}`"
  | .scalar (.text s) => "string " ++ Text.quoted s
  | .list => "sequence"
  | .table => "map"

/-- What was found, when it stands where a section or a list is expected. -/
def Found.misplaced : Found → String
  -- Floats show that they are floats.
  | .scalar .unit => "unit value"
  | .scalar (.bool b) => s!"boolean `{b}`"
  | .scalar (.int n) => s!"integer `{n}`"
  | .scalar (.float x) => s!"floating point `{pointedText x}`"
  | .scalar (.text s) => "string " ++ Text.quoted s
  | .list => "sequence"
  | .table => "map"

/-- The failure in words. -/
def Fault.message : Fault → String
  -- Where a value comes from is said only of those that are converted.
  | .unknownFormat path => s!"configuration file \"{path}\" is not of a registered file format"
  | .notFound name => s!"configuration file \"{name}\" not found"
  | .unreadable reason => reason
  | .malformed => "malformed configuration file"
  | .unconvertible found expected key origin =>
    let place := match origin with
      | some origin => " in " ++ origin
      | none => ""
    s!"invalid type: {found.unconvertible}, expected {expected} for key `{key}`{place}"
  | .misplaced found expected => s!"invalid type: {found.misplaced}, expected {expected}"
  | .missingField name => s!"missing field `{name}`"
  | .shortList count expected => s!"invalid length {count}, expected {expected}"
  | .unknownVariant type name => s!"enum {type} does not have variant constructor {name}"
  | .notVariant type =>
    s!"value of enum {type} should be represented by either string or table with exactly one key"

end TemplateFacts.Settings
