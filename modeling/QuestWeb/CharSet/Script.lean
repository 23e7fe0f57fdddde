import QuestWeb.CharSet.ScriptExtensionTable
import QuestWeb.CharSet.ScriptTable

/-!
Scripts, and scripts with what they share with others.
-/

namespace QuestWeb.CharSet

def script? (name : String) : Option CharSet :=
  named? scriptTable name

/-- All characters that a script uses. What belongs to certain scripts is not common any more. -/
def scriptExtensions? (name : String) : Option CharSet :=
  match scriptTable.find? (·.names.contains name) with
  | none => none
  | some script =>
      if script.names.contains "common" || script.names.contains "inherited" then
        some (script.set.minus (ofLines scriptShared))
      else
        match scriptGuests.find? fun guests => guests.names.any script.names.contains with
        | some guests => some (script.set.union guests.set)
        | none => some script.set

end QuestWeb.CharSet
