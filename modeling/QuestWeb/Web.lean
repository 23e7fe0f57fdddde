import QuestWeb.Web.Dialog
import QuestWeb.Web.Quest

/-!
Quest webs: a list of quests with one dialog for each, made from a catalog.
-/

namespace QuestWeb

structure Web where
  quests : List Quest
  dialogs : List Dialog
  deriving DecidableEq

namespace Web

def chapter (catalog : Catalog) (role : Role) : Except Error (Quest × Dialog) := do
  let words := words catalog role
  let quest ← quest catalog role words
  let dialog ← DialogPlan.build ⟨catalog, role, words⟩
  return (quest, dialog)

/-- The chapter that stands at a place of the web. The number of the place has to be the role's. -/
def chapterAt (catalog : Catalog) (place : Nat) (role : Role) : Except Error (Quest × Dialog) :=
  if catalog.layout.role? (.ofPosition place) = some role then chapter catalog role
  else
    .error (.inconsistent "quest number for role" (place + 1) (catalog.layout.num role).val.toNat)

/-- The web of a catalog. It has to have as many quests as its layout, each under its own number. -/
def generate (catalog : Catalog) : Except Error Web :=
  match catalog.validate with
  | .error defect => .error (.catalog defect)
  | .ok () =>
      let roles := catalog.layout.roles
      if roles.length = catalog.layout.total then do
        let chapters ← roles.zipIdx.mapM fun (role, place) => chapterAt catalog place role
        return ⟨chapters.map (·.1), chapters.map (·.2)⟩
      else .error (.inconsistent "quests" catalog.layout.total roles.length)

end Web

end QuestWeb
