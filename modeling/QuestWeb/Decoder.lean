import QuestWeb.Decoder.Error
import QuestWeb.Json.Reader
import Std.Data.ExtTreeMap

/-!
Decoders: from a JSON tree to a typed value, or the first thing wrong with it.
-/

namespace QuestWeb

/-- The outline of what a decoder accepts, for formats that are read by type. -/
inductive Shape where
  | any
  | text
  | flag
  | whole
  | real
  | list (item : Shape)
  | optional (content : Shape)
  | record (name : String) (fields : List (String × Shape))
  deriving Inhabited

structure Decoder (α : Type) where
  shape : Shape
  read : Json → Except DecodeError α

namespace Decoder

variable {α β : Type}

def mismatch (value : Json) (expected : String) : Except DecodeError α :=
  .error (.invalidType value.found expected)

def string : Decoder String where
  shape := .text
  read
    | .str text => .ok text
    | value => mismatch value "a string"

def bool : Decoder Bool where
  shape := .flag
  read
    | .bool value => .ok value
    | value => mismatch value "a boolean"

/-- Whole numbers from `low` to `high`. A double is never one. -/
def whole (low high : Int) (expected : String) (make : Int → α) : Decoder α where
  shape := .whole
  read
    | .num (.int n) =>
        if low ≤ n ∧ n ≤ high then .ok (make n) else .error (.invalidValue (.int n) expected)
    | value => mismatch value expected

def int64 : Decoder Int64 :=
  whole Int64.minValue.toInt Int64.maxValue.toInt "i64" Int64.ofInt

def uint32 : Decoder UInt32 :=
  whole 0 (UInt32.size - 1) "u32" fun n => n.toNat.toUInt32

def uint64 : Decoder UInt64 :=
  whole 0 (UInt64.size - 1) "usize" fun n => n.toNat.toUInt64

/-- A count, kept as a natural; it fits a word of 64 bits. -/
def count : Decoder Nat :=
  whole 0 (UInt64.size - 1) "usize" Int.toNat

def real : Decoder Binary64 where
  shape := .real
  read
    | .num (.float x) => .ok x
    | .num (.int n) => .ok (Binary64.ofInt n)
    | value => mismatch value "f64"

def map (f : α → β) (d : Decoder α) : Decoder β where
  shape := d.shape
  read value :=
    match d.read value with
    | .ok a => .ok (f a)
    | .error e => .error e

def refine (d : Decoder α) (f : α → Except String β) : Decoder β where
  shape := d.shape
  read value :=
    match d.read value with
    | .ok a =>
        match f a with
        | .ok b => .ok b
        | .error message => .error (.refused message)
    | .error e => .error e

def readAll (read : Json → Except DecodeError α) : List Json → Except DecodeError (List α)
  | [] => .ok []
  | item :: rest =>
      match read item with
      | .error e => .error e
      | .ok a =>
          match readAll read rest with
          | .error e => .error e
          | .ok as => .ok (a :: as)

def list (d : Decoder α) : Decoder (List α) where
  shape := .list d.shape
  read
    | .arr items => readAll d.read items
    | value => mismatch value "a sequence"

def optional (d : Decoder α) : Decoder (Option α) where
  shape := .optional d.shape
  read
    | .null => .ok none
    | value =>
        match d.read value with
        | .ok a => .ok (some a)
        | .error e => .error e

def readEntries (read : Json → Except DecodeError α) :
    List (String × Json) → Except DecodeError (List (String × α))
  | [] => .ok []
  | (key, item) :: rest =>
      match read item with
      | .error e => .error e
      | .ok a =>
          match readEntries read rest with
          | .error e => .error e
          | .ok as => .ok ((key, a) :: as)

/-- A dictionary. Where a key repeats, the last value stays. -/
def dictionary (d : Decoder α) : Decoder (Std.ExtTreeMap String α) where
  shape := .any
  read
    | .obj members =>
        match readEntries d.read members with
        | .ok entries => .ok (Std.ExtTreeMap.ofList entries)
        | .error e => .error e
    | value => mismatch value "a map"

end Decoder

/-- A text read by type, straight from its characters: a key may not repeat in a record, and what no
field asks for need not be readable. -/
def Decoder.ofText? {α : Type} (d : Decoder α) (text : String) : Option α :=
  match Json.parse? text with
  | some value => (d.read value).toOption
  | none => none

end QuestWeb
