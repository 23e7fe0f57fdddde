import QuestWeb.Catalog.Builtin
import QuestWeb.Engine
import QuestWeb.State.Wire
import QuestWeb.Web

/-!
Playing sessions for a client that talks JSON: texts go in, views come out.
-/

namespace QuestWeb

structure Session where
  engine : Engine DialogTable

namespace Session

def numbered? : List Dialog → Option (List (QuestNum × Dialog))
  | [] => some []
  | dialog :: rest =>
      match dialog.quest, numbered? rest with
      | some num, some others => some ((num, dialog) :: others)
      | _, _ => none

def ofParts? (quests : List Quest) (dialogs : List Dialog) : Option Session :=
  match numbered? dialogs with
  | some numbered => some ⟨.new (.ofQuestDialogs numbered) quests .initial⟩
  | none => none

def builtin? : Option Session :=
  match Catalog.builtin with
  | .error _ => none
  | .ok catalog =>
      match Web.generate catalog with
      | .ok web => ofParts? web.quests web.dialogs
      | .error _ => none

def ofTexts? (quests dialogs : String) : Option Session :=
  match (Decoder.list Quest.decoder).ofText? quests,
      (Decoder.list Dialog.decoder).ofText? dialogs with
  | some quests, some dialogs => ofParts? quests dialogs
  | _, _ => none

def start (session : Session) (key : DialogKey) : Bool × Session :=
  let (started, engine) := session.engine.start key
  (started, ⟨engine⟩)

def addLocationDialog? (session : Session) (location text : String) : Option Session :=
  match Dialog.decoder.ofText? text with
  | some dialog => some ⟨session.engine.insertDialog (.ofLocation location) dialog⟩
  | none => none

def loadState? (session : Session) (text : String) : Option Session :=
  match GameState.decoder.ofText? text with
  | some state => some ⟨{ session.engine with state := state }.endDialog⟩
  | none => none

def reset (session : Session) : Session :=
  ⟨{ session.engine with state := .initial }.endDialog⟩

def choiceView (offered : Nat × Choice) : Json :=
  .obj [("index", .num (.int offered.1)), ("text", .str offered.2.text)]

def current (session : Session) : Json :=
  let engine := session.engine
  match engine.active, engine.currentNode?, engine.renderedText? with
  | some position, some node, some text =>
      .obj [
        ("dialog", .str position.key.display),
        ("node", .str position.node),
        ("speaker", .str node.speaker),
        ("text", .str text),
        ("finished", .bool engine.isFinished),
        ("choices", .arr (engine.offeredChoices.map choiceView))]
  | _, _, _ => .null

def choose? (session : Session) (index : Nat) : Option (Json × Session) :=
  match session.engine.choose index with
  | (.ok _, engine) => some (current ⟨engine⟩, ⟨engine⟩)
  | (.error _, _) => none

def questView (quest : Quest) : Json :=
  .obj [
    ("quest_num", quest.num.json),
    ("quest_id", .str quest.id),
    ("name", .str quest.name),
    ("location", (quest.location.map .str).getD .null)]

def available (session : Session) : Json :=
  .arr ((availableQuests session.engine.quests session.engine.state).map questView)

end Session

end QuestWeb
