import QuestWeb.Decoder

/-!
RON values, the notation of hand-written settings. Records may carry the name of their type and
options are spelled out, so a value is read by the shape of what is asked for: that turns it into
the JSON tree of the same content.
-/

namespace QuestWeb

inductive Ron where
  | flag (value : Bool)
  | whole (value : Nat)
  | text (value : String)
  | absent
  | present (content : Ron)
  | list (items : List Ron)
  | record (name : Option String) (fields : List (String × Ron))
  /-- What no shape asks for: other numbers, characters, maps, tuples and bare names. -/
  | other
  deriving Inhabited

namespace Ron

mutual

/-- The JSON tree of a value of this shape. Fields that the shape does not have are left out, and
options may be given without `Some` if they are bare. -/
def json? (isBare : Bool) : Shape → Ron → Option Json
  | .flag, .flag value => some (.bool value)
  | .whole, .whole value => some (.num (.int value))
  | .text, .text value => some (.str value)
  | .optional _, .absent => some .null
  | .optional shape, .present content => json? isBare shape content
  | .optional shape, value => if isBare then json? isBare shape value else none
  | .list shape, .list items => (jsonItems? isBare shape items).map .arr
  | .record type shapes, .record name fields =>
      if name.all (· == type) then (jsonFields? isBare shapes fields).map .obj else none
  | _, _ => none

def jsonItems? (isBare : Bool) (shape : Shape) : List Ron → Option (List Json)
  | [] => some []
  | item :: rest =>
      match json? isBare shape item, jsonItems? isBare shape rest with
      | some value, some values => some (value :: values)
      | _, _ => none

def jsonFields? (isBare : Bool) (shapes : List (String × Shape)) :
    List (String × Ron) → Option (List (String × Json))
  | [] => some []
  | (name, value) :: rest =>
      match shapes.lookup name with
      | none => jsonFields? isBare shapes rest
      | some shape =>
          match json? isBare shape value, jsonFields? isBare shapes rest with
          | some value, some values => some ((name, value) :: values)
          | _, _ => none

end

end Ron

structure RonText where
  /-- Options may be given without `Some`. -/
  bareOptions : Bool
  value : Ron

def RonText.json? (shape : Shape) (text : RonText) : Option Json :=
  Ron.json? text.bareOptions shape text.value

end QuestWeb
