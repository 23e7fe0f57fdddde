import QuestWeb.Decoder.Record

/-!
Flag values, and the comparisons that conditions make.
-/

namespace QuestWeb

inductive FlagValue where
  | bool (value : Bool)
  | int (value : Int64)
  | text (value : String)
  deriving DecidableEq, Repr

def boolScore (value : Bool) : Int64 :=
  if value then 1 else 0

namespace FlagValue

/-- As a number: a truth value counts as nought or one, a text as nothing. -/
def asInt? : FlagValue → Option Int64
  | .bool value => some (boolScore value)
  | .int value => some value
  | .text _ => none

def display : FlagValue → String
  | .bool value => if value then "true" else "false"
  | .int value => toString value.toInt
  | .text value => "\"" ++ value ++ "\""

def json : FlagValue → Json
  | .bool value => .bool value
  | .int value => .num (.int value.toInt)
  | .text value => .str value

def decoder : Decoder FlagValue where
  shape := .any
  read
    | .bool value => .ok (.bool value)
    | .str value => .ok (.text value)
    | value =>
        match Decoder.int64.read value with
        | .ok n => .ok (.int n)
        | .error _ => .error (.noVariant "FlagValue")

end FlagValue

inductive CompareOp where
  | eq
  | ne
  | ge
  | gt
  | le
  | lt
  deriving DecidableEq, Repr

namespace CompareOp

def all : List CompareOp := [.eq, .ne, .ge, .gt, .le, .lt]

def text : CompareOp → String
  | .eq => "=="
  | .ne => "!="
  | .ge => ">="
  | .gt => ">"
  | .le => "<="
  | .lt => "<"

def holds (op : CompareOp) (order : Ordering) : Bool :=
  match op with
  | .eq => order.isEq
  | .ne => order.isNe
  | .ge => order.isGE
  | .gt => order.isGT
  | .le => order.isLE
  | .lt => order.isLT

def isEquality : CompareOp → Bool
  | .eq | .ne => true
  | _ => false

def json (op : CompareOp) : Json :=
  .str op.text

def ofText? (text : String) : Option CompareOp :=
  all.find? (·.text == text)

def read (text : String) : Except DecodeError CompareOp :=
  match ofText? text with
  | some op => .ok op
  | none => .error (.unknownVariant text (all.map CompareOp.text))

/-- A comparison is its sign, or an object with the sign as its only key and nothing under it. -/
def decoder : Decoder CompareOp where
  shape := .any
  read
    | .str text => read text
    | .obj [(text, value)] =>
        match read text with
        | .error e => .error e
        | .ok op =>
            match value with
            | .null => .ok op
            | _ => Decoder.mismatch value "unit"
    | .obj _ => .error (.invalidValue .map "map with a single key")
    | value => Decoder.mismatch value "string or map"

end CompareOp

end QuestWeb
