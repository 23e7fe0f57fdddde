import QuestWeb.Decoder

/-!
Records. A record is read from an object, whose members may stand in any order and may hold others
besides, or from an array with the fields in their declared order. Of several faulty members the one
written first is reported, and an absent field only when no member is faulty.
-/

namespace QuestWeb

inductive FieldFailure where
  | at (place : Nat) (error : DecodeError)
  | absent (name : String)

/-- Of two failures, the member that stands first; then the field declared first. -/
def FieldFailure.first : FieldFailure → FieldFailure → FieldFailure
  | .at i e, .at j f => if j < i then .at j f else .at i e
  | .absent _, .at j f => .at j f
  | failure, .absent _ => failure

structure Fields (α : Type) where
  declared : List (String × Shape)
  fromMembers : List (String × Json) → Except FieldFailure α
  /-- From the items of an array; gives back the items that are left, and fails with `none` when
  there are too few. -/
  fromItems : List Json → Except (Option DecodeError) (α × List Json)

namespace Fields

variable {α β : Type}

def occurrences (names : List String) : Nat → List (String × Json) → List (Nat × Json)
  | _, [] => []
  | place, (key, item) :: rest =>
      if names.contains key then (place, item) :: occurrences names (place + 1) rest
      else occurrences names (place + 1) rest

def field (name : String) (aliases : List String) (d : Decoder α) (default : Option α) :
    Fields α where
  declared := [(name, d.shape)]
  fromMembers members :=
    match occurrences (name :: aliases) 0 members with
    | [] =>
        match default with
        | some a => .ok a
        | none => .error (.absent name)
    | (place, item) :: later =>
        match d.read item with
        | .error e => .error (.at place e)
        | .ok a =>
            match later with
            | [] => .ok a
            | (again, _) :: _ => .error (.at again (.duplicateField name))
  fromItems
    | [] =>
        match default with
        | some a => .ok (a, [])
        | none => .error none
    | item :: rest =>
        match d.read item with
        | .ok a => .ok (a, rest)
        | .error e => .error (some e)

def required (name : String) (d : Decoder α) : Fields α :=
  field name [] d none

def withDefault (name : String) (d : Decoder α) (default : α) : Fields α :=
  field name [] d (some default)

instance : Applicative Fields where
  pure a :=
    { declared := [], fromMembers := fun _ => .ok a, fromItems := fun items => .ok (a, items) }
  seq f x :=
    { declared := f.declared ++ (x ()).declared
      fromMembers := fun members =>
        match f.fromMembers members, (x ()).fromMembers members with
        | .ok g, .ok a => .ok (g a)
        | .error e, .ok _ => .error e
        | .ok _, .error e => .error e
        | .error e, .error e' => .error (e.first e')
      fromItems := fun items =>
        match f.fromItems items with
        | .error e => .error e
        | .ok (g, rest) =>
            match (x ()).fromItems rest with
            | .error e => .error e
            | .ok (a, rest) => .ok (g a, rest) }

def ofObject? (fields : Fields α) : Json → Option α
  | .obj members => (fields.fromMembers members).toOption
  | _ => none

end Fields

namespace Decoder

variable {α : Type}

def elements (n : Nat) : String :=
  toString n ++ (if n = 1 then " element" else " elements")

def record (type name : String) (fields : Fields α) : Decoder α where
  shape := .record name fields.declared
  read
    | .obj members =>
        match fields.fromMembers members with
        | .ok a => .ok a
        | .error (.at _ e) => .error e
        | .error (.absent name) => .error (.missingField name)
    | .arr items =>
        match fields.fromItems items with
        | .ok (a, []) => .ok a
        | .ok (_, _ :: _) => .error (.invalidLength items.length "fewer elements in array")
        | .error (some e) => .error e
        | .error none =>
            .error (.invalidLength items.length
              ("struct " ++ type ++ " with " ++ elements fields.declared.length))
    | value => mismatch value ("struct " ++ type)

end Decoder

end QuestWeb
