-- What may be wrong with the text of a configuration, and how that is told.
import GitSteward.Yaml.Node
import GitSteward.Yaml.Scalar
import GitSteward.Decimal.Text
import GitSteward.Text.Quoted

namespace GitSteward

open Yaml

/-- What stands in a document in place of something else. -/
inductive Found where
  | nothing
  | bool (b : Bool)
  | int (n : Int)
  | float (x : Float)
  | text (s : String)
  | sequence
  | map
deriving Repr, Inhabited

/-- What is wrong at one place of a document. -/
inductive Misfit where
  /-- one kind of thing in place of another -/
  | wrongKind (found : Found) (expected : String)
  /-- a text that its tag or its place does not allow -/
  | wrongText (text expected : String)
  /-- a form of log lines that there is not -/
  | unknownVariant (name : String)
  /-- a field that is set twice -/
  | duplicateField (name : String)
deriving Repr, Inhabited

/-- Where something stands: the fields that lead to it, and its place in the text. -/
structure Place where
  path : List String
  mark : Mark
deriving Repr, Inhabited

/-- Why a text gives no configuration. -/
inductive DecodeError where
  /-- the text is no YAML -/
  | malformed (why : Malformed)
  /-- the text holds more than one document -/
  | moreDocuments
  /-- something does not fit, at a place that may not be known yet -/
  | misfit (what : Misfit) (place : Option Place)
deriving Repr, Inhabited

/-- Gives an error that has no place yet this one. -/
def DecodeError.locate (place : Place) : DecodeError → DecodeError
  | .misfit what none => .misfit what (some place)
  | e => e

/-! ## The wording -/

/-- What a value of a scalar is found to be. -/
def Found.ofValue : Value → Found
  | .null => .nothing
  | .bool b => .bool b
  | .int n => .int n
  | .float x => .float x
  | .text s => .text s

/-- A number that was found. One that needs more than 64 bits is told with its width. -/
def intText (n : Int) : String :=
  let number := "integer `" ++ toString n ++ "`"
  if n ≤ maxWord ∧ -0x8000_0000_0000_0000 ≤ n then number
  else if 0 ≤ n then number ++ " as u128"
  else number ++ " as i128"

/-- The words for what was found. -/
def Found.words : Found → String
  | .nothing => "unit value"
  | .bool b => "boolean `" ++ (if b then "true" else "false") ++ "`"
  | .int n => intText n
  | .float x => "floating point `" ++ (Decimal.Double.ofFloat x).plainText ++ "`"
  | .text s => "string " ++ Text.quoted s
  | .sequence => "sequence"
  | .map => "map"

/-- The words for what is wrong. -/
def Misfit.words : Misfit → String
  | .wrongKind found expected => "invalid type: " ++ found.words ++ ", expected " ++ expected
  | .wrongText text expected =>
    "invalid value: string " ++ Text.quoted text ++ ", expected " ++ expected
  | .unknownVariant name => "unknown variant `" ++ name ++ "`, expected `json` or `pretty`"
  | .duplicateField name => "duplicate field `" ++ name ++ "`"

/-- A message with its place. The start of the text goes without saying, and so does the top
of the configuration. -/
def Place.around (place : Place) (message : String) : String :=
  let mark := place.mark
  let path := if place.path.isEmpty then "" else ".".intercalate place.path ++ ": "
  let spot :=
    if mark.line = 0 && mark.column = 0 then ""
    else " at line " ++ toString (mark.line + 1) ++ " column " ++ toString (mark.column + 1)
  path ++ message ++ spot

/-- The message of an error. -/
def DecodeError.message : DecodeError → String
  | .malformed _ => "malformed YAML"
  | .moreDocuments =>
    "deserializing from YAML containing more than one document is not supported"
  | .misfit what none => what.words
  | .misfit what (some place) => place.around what.words

end GitSteward
