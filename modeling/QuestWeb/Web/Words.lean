import QuestWeb.Catalog
import QuestWeb.Web.Layout

/-!
The words that fill the templates of a web. Words from a bank are picked by the number of the quest,
so one catalog always gives one text.
-/

namespace QuestWeb

namespace Catalog

def layout (catalog : Catalog) : WebLayout :=
  ⟨catalog.domains.length, catalog.arcLength⟩

def Domain.blank : Domain := ⟨"", "", "", "", "", "", "", [], [], []⟩

def Place.blank : Place := ⟨"", ""⟩

/-- The domain at this place; the last one for every place beyond it. -/
def domainAt (catalog : Catalog) (index : Nat) : Domain :=
  (catalog.domains[min index (catalog.domains.length - 1)]?).getD .blank

def regionOf (catalog : Catalog) (num : QuestNum) : Place :=
  (catalog.regions[num.val.toNat % catalog.regions.length]?).getD .blank

def beat? (catalog : Catalog) : Role → Option Beat
  | .prologue => some catalog.prologue
  | .keystone => some catalog.gates.keystone
  | .hearing => some catalog.gates.hearing
  | .price => some catalog.gates.price
  | .finale => some catalog.gates.finale
  | _ => none

def flavour (catalog : Catalog) (role : Role) : Domain :=
  catalog.domainAt ((role.domain? <|> (catalog.beat? role).map (·.flavour)).getD 0)

end Catalog

namespace Web

/-- The word of a bank at `seed`, counted round and round; an empty bank has only the empty word. -/
def pick (bank : List String) (seed : Nat) : String :=
  (bank[seed % bank.length]?).getD ""

def smallNumbers : List String :=
  ["no", "one", "two", "three", "four", "five", "six", "seven", "eight", "nine", "ten"]

def countWord (n : Nat) : String :=
  (smallNumbers[n]?).getD (toString n)

/-- Values for slots; of two values for one slot the first counts. -/
abbrev Words := List (String × String)

def arcStep (catalog : Catalog) : Role → Nat
  | .arc _ step => step
  | .seal _ => catalog.arcLength - 1
  | _ => 0

def words (catalog : Catalog) (role : Role) : Words :=
  let num := catalog.layout.num role
  let q := num.val.toNat
  let step := arcStep catalog role
  let domain := catalog.flavour role
  let region := catalog.regionOf num
  [("region", region.name),
    ("region_id", region.id),
    ("key", domain.key),
    ("clause", domain.clause),
    ("title", domain.title),
    ("title_lower", Text.lower domain.title),
    ("virtue", domain.virtue),
    ("wound", domain.wound),
    ("verb", domain.verb),
    ("ending", domain.ending),
    ("palette_a", pick domain.palette (q + 1)),
    ("palette_b", pick domain.palette (q + 3)),
    ("palette_c", pick domain.palette (q + 5)),
    ("name_noun", pick domain.nouns (q + step)),
    ("name_verb", pick catalog.verbs (q * 7 + step)),
    ("speaker", pick domain.speakers q),
    ("domain_count", countWord catalog.domains.length),
    ("seals", toString catalog.keystoneSeals),
    ("quest_num", num.padded)]

inductive Error where
  | catalog (defect : Catalog.Defect)
  | template (context : String) (slot : Template.UnknownSlot)
  /-- A web that does not come out as its layout has it. -/
  | inconsistent (what : String) (expected actual : Nat)
  deriving DecidableEq, Repr

def Error.message : Error → String
  | .catalog defect => "catalog error: " ++ defect.message
  | .template context slot => "template error in " ++ context ++ ": " ++ slot.message
  | .inconsistent what expected actual =>
      "internal consistency error: expected " ++ toString expected ++ " " ++ what ++ ", got " ++
        toString actual

def render (words : Words) (context : String) (template : Template) : Except Error String :=
  match template.render (List.lookup · words) with
  | .ok text => .ok text
  | .error slot => .error (.template context slot)

end Web

end QuestWeb
