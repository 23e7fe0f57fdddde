import QuestWeb.Binary64

/-!
JSON values. A tree keeps the members of an object in the order they were written, duplicates
included; `Json.free?` is its canonical form, in which every key stands once and the keys ascend.

A text can spell values that no reader accepts: a number beyond every double, an unpaired surrogate,
a container nested too deep. Such a place is `unreadable`; it does harm only where it is looked at.
-/

namespace QuestWeb

inductive JsonNumber where
  | int (value : Int)
  | float (value : Binary64)
  deriving DecidableEq, Repr

inductive Json where
  | null
  | bool (value : Bool)
  | num (value : JsonNumber)
  | str (value : String)
  | arr (items : List Json)
  | obj (members : List (String × Json))
  | unreadable
  deriving Repr, Inhabited

namespace Json

mutual

def decEq : (a b : Json) → Decidable (a = b)
  | .null, .null => isTrue rfl
  | .bool a, .bool b => if h : a = b then isTrue (h ▸ rfl) else isFalse (by simpa using h)
  | .num a, .num b => if h : a = b then isTrue (h ▸ rfl) else isFalse (by simpa using h)
  | .str a, .str b => if h : a = b then isTrue (h ▸ rfl) else isFalse (by simpa using h)
  | .arr a, .arr b =>
      match decEqItems a b with
      | isTrue h => isTrue (h ▸ rfl)
      | isFalse h => isFalse (by simpa using h)
  | .obj a, .obj b =>
      match decEqMembers a b with
      | isTrue h => isTrue (h ▸ rfl)
      | isFalse h => isFalse (by simpa using h)
  | .unreadable, .unreadable => isTrue rfl
  | .null, .bool _ | .null, .num _ | .null, .str _ | .null, .arr _ | .null, .obj _
  | .null, .unreadable => isFalse nofun
  | .bool _, .null | .bool _, .num _ | .bool _, .str _ | .bool _, .arr _ | .bool _, .obj _
  | .bool _, .unreadable => isFalse nofun
  | .num _, .null | .num _, .bool _ | .num _, .str _ | .num _, .arr _ | .num _, .obj _
  | .num _, .unreadable => isFalse nofun
  | .str _, .null | .str _, .bool _ | .str _, .num _ | .str _, .arr _ | .str _, .obj _
  | .str _, .unreadable => isFalse nofun
  | .arr _, .null | .arr _, .bool _ | .arr _, .num _ | .arr _, .str _ | .arr _, .obj _
  | .arr _, .unreadable => isFalse nofun
  | .obj _, .null | .obj _, .bool _ | .obj _, .num _ | .obj _, .str _ | .obj _, .arr _
  | .obj _, .unreadable => isFalse nofun
  | .unreadable, .null | .unreadable, .bool _ | .unreadable, .num _ | .unreadable, .str _
  | .unreadable, .arr _ | .unreadable, .obj _ => isFalse nofun

def decEqItems : (a b : List Json) → Decidable (a = b)
  | [], [] => isTrue rfl
  | a :: as, b :: bs =>
      match decEq a b, decEqItems as bs with
      | isTrue h, isTrue t => isTrue (h ▸ t ▸ rfl)
      | isFalse h, _ => isFalse fun e => h (List.cons.inj e).1
      | _, isFalse t => isFalse fun e => t (List.cons.inj e).2
  | [], _ :: _ => isFalse nofun
  | _ :: _, [] => isFalse nofun

def decEqMembers : (a b : List (String × Json)) → Decidable (a = b)
  | [], [] => isTrue rfl
  | (k, a) :: as, (l, b) :: bs =>
      if key : k = l then
        match decEq a b, decEqMembers as bs with
        | isTrue h, isTrue t => isTrue (by rw [key, h, t])
        | isFalse h, _ => isFalse fun e => h (Prod.mk.inj (List.cons.inj e).1).2
        | _, isFalse t => isFalse fun e => t (List.cons.inj e).2
      else isFalse fun e => key (Prod.mk.inj (List.cons.inj e).1).1
  | [], _ :: _ => isFalse nofun
  | _ :: _, [] => isFalse nofun

end

instance : DecidableEq Json := decEq

/-- The value under `key` in a list of members; the first one, where a key repeats. -/
def member? (key : String) (members : List (String × Json)) : Option Json :=
  members.lookup key

def get? (key : String) : Json → Option Json
  | .obj members => member? key members
  | _ => none

def str? : Json → Option String
  | .str text => some text
  | _ => none

/-- Puts a member in its place among members that were written after it. Of two members with one
key the later one stays. -/
def placeMember (member : String × Json) : List (String × Json) → List (String × Json)
  | [] => [member]
  | next :: rest =>
      if member.1 < next.1 then member :: next :: rest
      else if member.1 = next.1 then next :: rest
      else next :: placeMember member rest

mutual

/-- The canonical form: keys ascend and stand once, with the last value written for them. A tree
with an unreadable place has none. -/
def free? : Json → Option Json
  | .arr items => (freeItems? items).map .arr
  | .obj members => (freeMembers? members).map .obj
  | .unreadable => none
  | .null => some .null
  | .bool value => some (.bool value)
  | .num value => some (.num value)
  | .str value => some (.str value)

def freeItems? : List Json → Option (List Json)
  | [] => some []
  | item :: rest =>
      match free? item, freeItems? rest with
      | some value, some values => some (value :: values)
      | _, _ => none

def freeMembers? : List (String × Json) → Option (List (String × Json))
  | [] => some []
  | (key, item) :: rest =>
      match free? item, freeMembers? rest with
      | some value, some values => some (placeMember (key, value) values)
      | _, _ => none

end

mutual

def isReadable : Json → Bool
  | .arr items => areReadable items
  | .obj members => membersReadable members
  | .unreadable => false
  | _ => true

def areReadable : List Json → Bool
  | [] => true
  | item :: rest => item.isReadable && areReadable rest

def membersReadable : List (String × Json) → Bool
  | [] => true
  | (_, item) :: rest => item.isReadable && membersReadable rest

end

def optionalMember (key : String) (value : Option Json) : List (String × Json) :=
  match value with
  | some value => [(key, value)]
  | none => []

end Json

end QuestWeb
