import QuestWeb.Dialog
import QuestWeb.Web.Words

/-!
The dialogs of a web. Most lead from `start` over `hinge` and `vow` to `end`; the keystone, the
hearing and the finale are told in their own way. Every first choice starts the quest, and every
choice that leads to the end completes it.
-/

namespace QuestWeb.Web

structure DialogPlan where
  catalog : Catalog
  role : Role
  words : Words

namespace DialogPlan

def num (plan : DialogPlan) : QuestNum :=
  plan.catalog.layout.num plan.role

def domain (plan : DialogPlan) : Catalog.Domain :=
  plan.catalog.flavour plan.role

def fill (plan : DialogPlan) (part : String) (template : Template) : Except Error String :=
  render plan.words ("dialog " ++ plan.num.padded ++ " " ++ part) template

def speaker (plan : DialogPlan) : String :=
  (List.lookup "speaker" plan.words).getD ""

def startEffects (plan : DialogPlan) : List Effect :=
  [.startQuest plan.num]

def completeEffects (plan : DialogPlan) : List Effect :=
  [.setFlag ("Q_READY_" ++ plan.num.padded) (.bool true), .completeQuest plan.num]

def choice (text next : String) (effects : List Effect) (conditions : List Condition) : Choice :=
  ⟨text, next, effects, conditions, none⟩

def line (speaker text : String) (choices : List Choice) : Node :=
  ⟨speaker, text, choices, false⟩

def endNode (plan : DialogPlan) (suffix : String) : Except Error Node := do
  let text ← plan.fill "end" plan.catalog.dialog.closing
  return ⟨plan.catalog.dialog.narrator, text ++ suffix, [], true⟩

def dialog (plan : DialogPlan) (nodes : List (String × Node)) : Dialog :=
  ⟨some plan.num, "start", Std.ExtTreeMap.ofList nodes⟩

def choices (plan : DialogPlan) (part next : String) (effects : List Effect)
    (templates : List Template) : Except Error (List Choice) :=
  templates.mapM fun template => do
    let text ← plan.fill part template
    return choice text next effects []

def proceedChoices (plan : DialogPlan) : Except Error (List Choice) :=
  plan.catalog.dialog.proceed.zipIdx.mapM fun (template, i) => do
    let text ← plan.fill ("proceed " ++ toString i) template
    return choice text "hinge" plan.startEffects []

def clauseChoices (plan : DialogPlan) : Except Error (List Choice) :=
  match plan.role with
  | .invitation _ => do
      let text ← plan.fill "clause" plan.catalog.dialog.clauseChoice
      return [choice text "vow" (plan.startEffects ++ [.setClause plan.domain.clause])
        [.flag FlagName.clause .eq (.text "")]]
  | _ => .ok []

def hingeLines (plan : DialogPlan) : Except Error (List String) :=
  plan.catalog.domains.mapM fun domain =>
    render (("title", domain.title) :: ("verb", domain.verb) :: plan.words) "hinge line"
      plan.catalog.dialog.hingeLine

def hingeText (plan : DialogPlan) : Except Error String := do
  let opening ← plan.fill "hinge" plan.catalog.dialog.hingeOpen
  let lines ← plan.hingeLines
  let closing ← plan.fill "hinge" plan.catalog.dialog.hingeClose
  return opening ++ "\n\n" ++ "\n".intercalate lines ++ "\n\n" ++ closing

def answers (plan : DialogPlan) : Except Error (List Choice) := do
  let text := plan.catalog.dialog
  let answerFor ← plan.fill "answer" text.answerFor
  let answerAgainst ← plan.fill "answer" text.answerAgainst
  let invoke ← plan.fill "answer" text.invokeClause
  return [
    choice answerFor "vow" [.incFlag (FlagName.domainScore plan.domain.key) 1] [],
    choice answerAgainst "vow" [.incFlag FlagName.censureScore 1] [],
    choice invoke "vow" [.incFlag FlagName.censureScore (-1)]
      [.flag FlagName.clause .ne (.text "")]]

def general (plan : DialogPlan) : Except Error Dialog := do
  let text := plan.catalog.dialog
  let proceed ← plan.proceedChoices
  let clause ← plan.clauseChoices
  let hinge ← plan.hingeText
  let answers ← plan.answers
  let close ← plan.choices "close" "end" plan.completeEffects text.close
  let intro ← plan.fill "intro" text.intro
  let vow ← plan.fill "vow" text.vow
  let ending ← plan.endNode ""
  return plan.dialog [
    ("start", line plan.speaker intro (proceed ++ clause)),
    ("hinge", line plan.speaker hinge answers),
    ("vow", line plan.speaker vow close),
    ("end", ending)]

def keystone (plan : DialogPlan) : Except Error Dialog := do
  let text := plan.catalog.dialog.keystone
  let enter ← plan.choices "enter" "vow" plan.startEffects text.enter
  let opening ← plan.fill "open" text.opening
  let measure ← plan.fill "measure" text.measure
  let take ← plan.fill "take" text.take
  let ending ← plan.endNode ""
  return plan.dialog [
    ("start", line text.speaker opening enter),
    ("vow", line text.speaker measure
      [choice take "end" (plan.completeEffects ++ [.computeBossUnlock]) []]),
    ("end", ending)]

def hearing (plan : DialogPlan) : Except Error Dialog := do
  let text := plan.catalog.dialog.hearing
  let opening ← plan.fill "open" text.opening
  let reduce ← plan.fill "reduce" text.reduce
  let defy ← plan.fill "defy" text.defy
  let verdict ← plan.fill "verdict" text.verdict
  let finalize ← plan.fill "finalize" text.finalize
  let ending ← plan.endNode ""
  return plan.dialog [
    ("start", line text.speaker opening [
      choice reduce "vow" (plan.startEffects ++ [.setCensureMode "reduced"]) [],
      choice defy "vow" (plan.startEffects ++ [.setCensureMode "defied"]) []]),
    ("vow", line text.speaker verdict
      [choice finalize "end" (plan.completeEffects ++ [.computeBossUnlock]) []]),
    ("end", ending)]

def endings (plan : DialogPlan) : Except Error (List Choice) :=
  plan.catalog.domains.mapM fun domain => do
    let text ←
      render (("ending", domain.ending) :: ("key", domain.key) :: plan.words) "final ending"
        plan.catalog.dialog.finale.choice
    return choice text "end"
      (plan.startEffects ++ .setFlag FlagName.ending (.text domain.key) :: plan.completeEffects) []

def finale (plan : DialogPlan) : Except Error Dialog := do
  let text := plan.catalog.dialog.finale
  let endings ← plan.endings
  let suffix ← plan.fill "ending" text.endingSuffix
  let opening ← plan.fill "open" text.opening
  let ending ← plan.endNode suffix
  return plan.dialog [("start", line text.speaker opening endings), ("end", ending)]

def build (plan : DialogPlan) : Except Error Dialog :=
  match plan.catalog.layout.overrides[plan.num]? with
  | some .keystone => plan.keystone
  | some .hearing => plan.hearing
  | some .finale => plan.finale
  | none => plan.general

end DialogPlan

end QuestWeb.Web
