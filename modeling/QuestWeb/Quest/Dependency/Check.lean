import QuestWeb.Quest.Dependency
import QuestWeb.Report

/-!
Checks of a quest list: the quests are numbered by their places, depend only on one another, and
never in a circle. `records` counts the entries of the list, those that could not be read included.
-/

namespace QuestWeb.DependencyGraph

def misplaced (file : String) : Nat → List Quest → List Finding
  | _, [] => []
  | position, quest :: rest =>
      let expected := QuestNum.ofPosition position
      let later := misplaced file (position + 1) rest
      if quest.num = expected then later
      else
        .schema (file ++ " quest " ++ quest.id)
          ("quest_num " ++ toString quest.num ++ " does not match its position (expected " ++
            toString expected ++ ")") :: later

def tally (quests : List Quest) : Std.ExtTreeMap QuestNum Nat :=
  quests.foldl (fun counts quest => counts.insert quest.num ((counts[quest.num]?).getD 0 + 1)) ∅

def numberFindings (file : String) (records : Nat) (num : QuestNum) (count : Nat) : List Finding :=
  (if 1 < count then
    [.referential file
      ("duplicate quest_num " ++ toString num ++ " (" ++ toString count ++ " records)")]
  else []) ++
  (if num.val = 0 ∨ records < num.val.toNat then
    [.schema file ("quest_num " ++ toString num ++ " is outside 1.." ++ toString records)]
  else [])

def missingNumber? (file : String) (counts : Std.ExtTreeMap QuestNum Nat) (position : Nat) :
    Option Finding :=
  let num := QuestNum.ofPosition position
  if counts.contains num then none
  else some (.schema file ("missing quest number " ++ toString num))

def check (quests : List Quest) (records : Nat) (file : String) : List Finding :=
  let counts := tally quests
  let graph := ofQuests quests
  (if records = quests.length then misplaced file 0 quests else []) ++
  (counts.toList.flatMap fun (num, count) => numberFindings file records num count) ++
  (List.range records).filterMap (missingNumber? file counts) ++
  (graph.dangling.map fun (num, other) =>
    .referential (file ++ " quest " ++ graph.label num)
      ("depends on missing quest " ++ toString other)) ++
  graph.circles.map fun circle => .graph (circle.map graph.label)

end QuestWeb.DependencyGraph
