import QuestWeb.QuestNum

/-!
How a quest web is numbered: the prologue, one invitation for each domain, the arcs of the domains
one after the other, each ending with its seal quest, and four gates.
-/

namespace QuestWeb

inductive Role where
  | prologue
  | invitation (domain : Nat)
  | arc (domain step : Nat)
  | seal (domain : Nat)
  | keystone
  | hearing
  | price
  | finale
  deriving DecidableEq, Repr

def Role.domain? : Role → Option Nat
  | .invitation domain | .arc domain _ | .seal domain => some domain
  | _ => none

structure WebLayout where
  domains : Nat
  arcLength : Nat
  deriving DecidableEq, Repr

namespace WebLayout

def arcsStart (layout : WebLayout) : Nat :=
  1 + layout.domains

def gatesStart (layout : WebLayout) : Nat :=
  layout.arcsStart + layout.domains * layout.arcLength

def total (layout : WebLayout) : Nat :=
  layout.gatesStart + 4

def arcPosition (layout : WebLayout) (domain step : Nat) : Nat :=
  layout.arcsStart + domain * layout.arcLength + step

def position (layout : WebLayout) : Role → Nat
  | .prologue => 0
  | .invitation domain => 1 + domain
  | .arc domain step => layout.arcPosition domain step
  | .seal domain => layout.arcPosition domain (layout.arcLength - 1)
  | .keystone => layout.gatesStart
  | .hearing => layout.gatesStart + 1
  | .price => layout.gatesStart + 2
  | .finale => layout.gatesStart + 3

def num (layout : WebLayout) (role : Role) : QuestNum :=
  .ofPosition (layout.position role)

def arcQuest (layout : WebLayout) (domain step : Nat) : QuestNum :=
  .ofPosition (layout.arcPosition domain step)

def arcRole (layout : WebLayout) (domain step : Nat) : Role :=
  if step + 1 = layout.arcLength then .seal domain else .arc domain step

def roleAt? (layout : WebLayout) (position : Nat) : Option Role :=
  if position = 0 then some .prologue
  else if position < layout.arcsStart then some (.invitation (position - 1))
  else if position < layout.gatesStart then
    let offset := position - layout.arcsStart
    some (layout.arcRole (offset / layout.arcLength) (offset % layout.arcLength))
  else
    match position - layout.gatesStart with
    | 0 => some .keystone
    | 1 => some .hearing
    | 2 => some .price
    | 3 => some .finale
    | _ => none

def role? (layout : WebLayout) (num : QuestNum) : Option Role :=
  num.position?.bind layout.roleAt?

def roles (layout : WebLayout) : List Role :=
  .prologue :: (List.range layout.domains).map .invitation ++
  ((List.range layout.domains).flatMap fun domain =>
    (List.range layout.arcLength).map (layout.arcRole domain)) ++
  [.keystone, .hearing, .price, .finale]

/-- The quests that a role depends on. An arc waits for its invitation and then step for step, the
gates for one another; the keystone takes nothing but the prologue. -/
def dependencies (layout : WebLayout) : Role → List QuestNum
  | .prologue => []
  | .invitation _ | .keystone => [layout.num .prologue]
  | .arc domain 0 => [layout.num (.invitation domain)]
  | .arc domain (step + 1) => [layout.arcQuest domain step]
  | .seal domain =>
      if layout.arcLength = 1 then [layout.num (.invitation domain)]
      else [layout.arcQuest domain (layout.arcLength - 2)]
  | .hearing => [layout.num .keystone]
  | .price => [layout.num .hearing]
  | .finale => [layout.num .price]

inductive SpecialDialog where
  | keystone
  | hearing
  | finale
  deriving DecidableEq, Repr

def overrides (layout : WebLayout) : Std.ExtTreeMap QuestNum SpecialDialog :=
  (∅ : Std.ExtTreeMap QuestNum SpecialDialog)
    |>.insert (layout.num .keystone) .keystone
    |>.insert (layout.num .hearing) .hearing
    |>.insert (layout.num .finale) .finale

end WebLayout

end QuestWeb
