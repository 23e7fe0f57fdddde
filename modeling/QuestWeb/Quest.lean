import QuestWeb.Effect
import QuestWeb.Text.Blank
import QuestWeb.Text.Case

/-!
Quest records.
-/

namespace QuestWeb

inductive AuthorityDomain where
  | unbound
  | story
  | narrative (key : String)
  deriving DecidableEq, Repr

namespace AuthorityDomain

def key : AuthorityDomain → String
  | .unbound => ""
  | .story => "META"
  | .narrative key => key

/-- A domain by name; blanks at the ends and the case of letters do not matter. -/
def ofName (name : String) : AuthorityDomain :=
  let key := Text.upper (Text.trim name)
  if key = "" then .unbound else if key = "META" then .story else .narrative key

end AuthorityDomain

structure QuestMeta where
  kind : String
  estimatedMinutes : UInt32
  uniqueMechanic : String
  narrativePremise : String
  playerMotivation : String
  branchingOutcomes : List String
  failureStates : String
  deriving DecidableEq, Repr

structure Quest where
  id : String
  num : QuestNum
  name : String
  region : String
  location : Option String
  domain : AuthorityDomain
  dependencies : List QuestNum
  availability : List Condition
  outcomes : List Effect
  isTerminal : Bool
  tags : List String
  objectives : List String
  rewards : List String
  notes : Option QuestMeta
  deriving DecidableEq, Repr

def locationKey (location : String) : String :=
  Text.lower (Text.trim location)

def Quest.locationKey? (quest : Quest) : Option String :=
  match quest.location with
  | some location =>
      let key := locationKey location
      if key = "" then none else some key
  | none => none

end QuestWeb
