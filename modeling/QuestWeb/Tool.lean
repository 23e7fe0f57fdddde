import QuestWeb.Tool.Audit
import QuestWeb.Tool.Generate
import QuestWeb.Tool.Preview
import QuestWeb.Tool.Validate

/-!
The tools of the command line, as functions on file trees.
-/

namespace QuestWeb

inductive Tool where
  | generate
  | validate
  | audit
  | preview
  deriving DecidableEq, Repr

namespace Tool

def all : List Tool := [.generate, .validate, .audit, .preview]

def interface : Tool → Interface
  | .generate => Generate.interface
  | .validate => Validate.interface
  | .audit => Audit.interface
  | .preview => Preview.interface

def named? (name : String) : Option Tool :=
  all.find? (·.interface.name == name)

def execute (tool : Tool) (given : Given) (forced : Bool) (input : String) (tree : FileTree) :
    Outcome :=
  match tool with
  | .generate => Generate.run given forced tree
  | .validate => Validate.run given tree
  | .audit => Audit.run given tree
  | .preview => Preview.run given input tree

def run (tool : Tool) (arguments : List String) (forced : Bool) (input : String)
    (tree : FileTree) : Outcome :=
  match tool.interface.parse arguments with
  | .ok (.run given) => tool.execute given forced input tree
  | .ok .help => ⟨0, tool.interface.help, "", tree⟩
  | .error e => ⟨2, "", tool.interface.refusal e, tree⟩

end Tool

end QuestWeb
