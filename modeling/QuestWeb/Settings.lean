import QuestWeb.Config
import QuestWeb.FileTree

/-!
Settings kept in files: catalogs and the configurations of validators.
-/

namespace QuestWeb

inductive SettingsError where
  | io (error : ReadError)
  | malformed
  | unfit (defect : Catalog.Defect)
  deriving DecidableEq, Repr

namespace SettingsError

def ofText : Catalog.TextError → SettingsError
  | .malformed => .malformed
  | .unfit defect => .unfit defect

def message : SettingsError → String
  | .io error => "IO error: " ++ error.message
  | .malformed => "RON deserialization error: " ++ Ron.faultText
  | .unfit defect => defect.message

def origin? : SettingsError → Option String
  | .io error => some error.message
  | .malformed => some Ron.faultText
  | .unfit _ => none

end SettingsError

namespace FileTree

def readCatalog (tree : FileTree) (path : String) : Except SettingsError Catalog :=
  match tree.readText path with
  | .error e => .error (.io e)
  | .ok text =>
      match Catalog.ofText text with
      | .ok catalog => .ok catalog
      | .error e => .error (.ofText e)

def readConfig (tree : FileTree) (path : String) : Except SettingsError ValidatorConfig :=
  match tree.readText path with
  | .error e => .error (.io e)
  | .ok text =>
      match ValidatorConfig.decoder.ofRon? text with
      | some config => .ok config
      | none => .error .malformed

end FileTree

def builtinCatalog : Except SettingsError Catalog :=
  match Catalog.builtin with
  | .ok catalog => .ok catalog
  | .error e => .error (.ofText e)

end QuestWeb
