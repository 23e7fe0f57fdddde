import QuestWeb.State
import QuestWeb.Template
import QuestWeb.Text.Case

/-!
Catalogs: the narrative domains, the regions and the banks of prose that a quest web is made of.
-/

namespace QuestWeb

namespace Catalog

structure Domain where
  /-- In upper case; names the domain in flags and quest records. -/
  key : String
  clause : String
  title : String
  virtue : String
  wound : String
  verb : String
  ending : String
  palette : List String
  speakers : List String
  nouns : List String
  deriving DecidableEq, Repr

structure Place where
  id : String
  name : String
  deriving DecidableEq, Repr

structure Beat where
  name : String
  mechanic : Template
  /-- The place, in the catalog, of the domain that lends its words. -/
  flavour : Nat
  beat : Option Template
  deriving DecidableEq, Repr

structure Gates where
  keystone : Beat
  hearing : Beat
  price : Beat
  finale : Beat
  deriving DecidableEq, Repr

structure QuestDefaults where
  kind : String
  minutes : UInt32
  arcMinutes : UInt32
  tags : List String
  objectives : List String
  rewards : List String
  mechanic : String
  motivation : String
  branching : List String
  failure : String
  deriving DecidableEq, Repr

structure Prose where
  premise : Template
  defaultBeat : Template
  invitationName : Template
  invitationMechanic : Template
  invitationBeat : Template
  arcName : Template
  arcMechanic : Template
  arcBeat : Template
  sealMechanic : Template
  sealBeat : Template
  deriving DecidableEq, Repr

structure KeystoneText where
  speaker : String
  opening : Template
  enter : List Template
  measure : Template
  take : Template
  deriving DecidableEq, Repr

structure HearingText where
  speaker : String
  opening : Template
  reduce : Template
  defy : Template
  verdict : Template
  finalize : Template
  deriving DecidableEq, Repr

structure FinaleText where
  speaker : String
  opening : Template
  choice : Template
  endingSuffix : Template
  deriving DecidableEq, Repr

structure DialogText where
  intro : Template
  hingeOpen : Template
  hingeLine : Template
  hingeClose : Template
  vow : Template
  closing : Template
  narrator : String
  proceed : List Template
  clauseChoice : Template
  answerFor : Template
  answerAgainst : Template
  invokeClause : Template
  close : List Template
  keystone : KeystoneText
  hearing : HearingText
  finale : FinaleText
  deriving DecidableEq, Repr

end Catalog

structure Catalog where
  /-- The quests in the arc of each domain, the seal quest included. -/
  arcLength : Nat
  /-- The seals that open the keystone. -/
  keystoneSeals : Nat
  regions : List Catalog.Place
  verbs : List String
  domains : List Catalog.Domain
  prologue : Catalog.Beat
  gates : Catalog.Gates
  quest : Catalog.QuestDefaults
  prose : Catalog.Prose
  dialog : Catalog.DialogText
  deriving DecidableEq, Repr

namespace Catalog

def domainIndex? (catalog : Catalog) (key : String) : Option Nat :=
  catalog.domains.findIdx? (·.key == key)

def domain? (catalog : Catalog) (key : String) : Option Domain :=
  catalog.domains.find? (·.key == key)

def Domain.sealFlag (domain : Domain) : String :=
  FlagName.sealOf domain.key

def sealFlags (catalog : Catalog) : List String :=
  catalog.domains.map Domain.sealFlag

def authorityDomains (catalog : Catalog) : List String :=
  "" :: "META" :: catalog.domains.map (·.key)

inductive Defect where
  | noDomains
  | noRegions
  | noVerbs
  | noArc
  | tooManySeals (needed domains : Nat)
  | noDialogLines
  | noEnterLine
  | keyNotUpper (key : String)
  | reservedKey
  | clauseNotPlain (clause : String)
  | duplicateKey (key : String)
  | duplicateClause (clause : String)
  | emptyBank (key bank : String)
  | flavourOutOfRange (beat : String) (flavour : Nat)
  deriving DecidableEq, Repr

namespace Defect

def reason : Defect → String
  | .noDomains => "no domains"
  | .noRegions => "no regions"
  | .noVerbs => "verb bank is empty"
  | .noArc => "arc_length must be at least 1"
  | .tooManySeals needed domains =>
      "keystone needs " ++ toString needed ++ " seals but only " ++ toString domains ++
        " domains exist"
  | .noDialogLines => "dialog needs at least one proceed and one close line"
  | .noEnterLine => "keystone dialog needs at least one enter line"
  | .keyNotUpper key => "domain key '" ++ key ++ "' must be upper-case"
  | .reservedKey => "'META' is reserved"
  | .clauseNotPlain clause => "clause '" ++ clause ++ "' must be a lower-case identifier"
  | .duplicateKey key => "duplicate domain key '" ++ key ++ "'"
  | .duplicateClause clause => "duplicate clause '" ++ clause ++ "'"
  | .emptyBank key bank => "domain '" ++ key ++ "' has an empty " ++ bank ++ " bank"
  | .flavourOutOfRange beat flavour =>
      beat ++ " flavour index " ++ toString flavour ++ " is out of range"

def message (defect : Defect) : String :=
  "invalid domain catalog: " ++ defect.reason

end Defect

def isClauseChar (c : Char) : Bool :=
  ('a' ≤ c && c ≤ 'z') || ('0' ≤ c && c ≤ '9') || c == '_' || c == '-'

def isUpperKey (key : String) : Bool :=
  key != "" && key == Text.upper key

def isPlainClause (clause : String) : Bool :=
  clause != "" && clause.toList.all isClauseChar

def firstDefect? : List (Bool × Defect) → Option Defect
  | [] => none
  | (found, defect) :: rest => if found then some defect else firstDefect? rest

def outlineDefect? (catalog : Catalog) : Option Defect :=
  firstDefect? [
    (catalog.domains.isEmpty, .noDomains),
    (catalog.regions.isEmpty, .noRegions),
    (catalog.verbs.isEmpty, .noVerbs),
    (catalog.arcLength == 0, .noArc),
    (catalog.domains.length < catalog.keystoneSeals,
      .tooManySeals catalog.keystoneSeals catalog.domains.length),
    (catalog.dialog.proceed.isEmpty || catalog.dialog.close.isEmpty, .noDialogLines),
    (catalog.dialog.keystone.enter.isEmpty, .noEnterLine)]

def Domain.defect? (domain : Domain) (keys clauses : List String) : Option Defect :=
  firstDefect? [
    (!isUpperKey domain.key, .keyNotUpper domain.key),
    (domain.key == "META", .reservedKey),
    (!isPlainClause domain.clause, .clauseNotPlain domain.clause),
    (keys.contains domain.key, .duplicateKey domain.key),
    (clauses.contains domain.clause, .duplicateClause domain.clause),
    (domain.palette.isEmpty, .emptyBank domain.key "palette"),
    (domain.speakers.isEmpty, .emptyBank domain.key "speakers"),
    (domain.nouns.isEmpty, .emptyBank domain.key "nouns")]

def domainDefect? (keys clauses : List String) : List Domain → Option Defect
  | [] => none
  | domain :: rest =>
      match domain.defect? keys clauses with
      | some defect => some defect
      | none => domainDefect? (domain.key :: keys) (domain.clause :: clauses) rest

def beats (catalog : Catalog) : List (String × Beat) :=
  [("prologue", catalog.prologue), ("keystone", catalog.gates.keystone),
    ("hearing", catalog.gates.hearing), ("price", catalog.gates.price),
    ("finale", catalog.gates.finale)]

def flavourDefect? (catalog : Catalog) : Option Defect :=
  firstDefect? (catalog.beats.map fun (part, beat) =>
    (catalog.domains.length ≤ beat.flavour, .flavourOutOfRange part beat.flavour))

def defect? (catalog : Catalog) : Option Defect :=
  catalog.outlineDefect? <|> domainDefect? [] [] catalog.domains <|> catalog.flavourDefect?

def validate (catalog : Catalog) : Except Defect Unit :=
  match catalog.defect? with
  | some defect => .error defect
  | none => .ok ()

end Catalog

end QuestWeb
