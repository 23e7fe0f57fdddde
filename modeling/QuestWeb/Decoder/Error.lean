import QuestWeb.Json.Printer
import QuestWeb.Text.Quoted

/-!
What can be wrong with a JSON tree that is read as a typed value, and how it is reported.
-/

namespace QuestWeb

inductive Found where
  | null
  | bool (value : Bool)
  | int (value : Int)
  | float (value : Binary64)
  | str (value : String)
  | sequence
  | map
  deriving DecidableEq, Repr

namespace Found

def text : Found → String
  | .null => "null"
  | .bool value => "boolean `" ++ (if value then "true" else "false") ++ "`"
  | .int value => "integer `" ++ toString value ++ "`"
  | .float value => "floating point `" ++ Json.floatText value ++ "`"
  | .str value => "string " ++ Text.quoted value
  | .sequence => "sequence"
  | .map => "map"

end Found

def Json.found : Json → Found
  | .null | .unreadable => .null
  | .bool value => .bool value
  | .num (.int value) => .int value
  | .num (.float value) => .float value
  | .str value => .str value
  | .arr _ => .sequence
  | .obj _ => .map

inductive DecodeError where
  | invalidType (found : Found) (expected : String)
  | invalidValue (found : Found) (expected : String)
  | invalidLength (length : Nat) (expected : String)
  | missingField (name : String)
  | duplicateField (name : String)
  | unknownVariant (found : String) (known : List String)
  /-- None of the forms of an untagged choice fits. -/
  | noVariant (choice : String)
  /-- The value has the right form, and its own reader refuses it. -/
  | refused (message : String)
  deriving DecidableEq, Repr

namespace DecodeError

def tick (text : String) : String :=
  "`" ++ text ++ "`"

def message : DecodeError → String
  | .invalidType found expected => "invalid type: " ++ found.text ++ ", expected " ++ expected
  | .invalidValue found expected => "invalid value: " ++ found.text ++ ", expected " ++ expected
  | .invalidLength length expected =>
      "invalid length " ++ toString length ++ ", expected " ++ expected
  | .missingField name => "missing field " ++ tick name
  | .duplicateField name => "duplicate field " ++ tick name
  | .unknownVariant found known =>
      "unknown variant " ++ tick found ++ ", expected one of " ++
        ", ".intercalate (known.map tick)
  | .noVariant choice => "data did not match any variant of untagged enum " ++ choice
  | .refused message => message

end DecodeError

end QuestWeb
