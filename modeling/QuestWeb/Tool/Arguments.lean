import QuestWeb.Text.Case
import QuestWeb.Text.Lines
import QuestWeb.Text.Numeral

/-!
Arguments of the command line. The tools take options only: `--name value`, `--name=value`, and
switches, some of which have a letter. An option is given once at most.
-/

namespace QuestWeb.Tool

inductive Operand where
  | nothing
  | path
  | text
  | number
  deriving DecidableEq, Repr

def Operand.accepts (value : String) : Operand → Bool
  | .nothing => value == ""
  | .path => value != ""
  | .text => true
  | .number => (Text.integer? value).any fun n => 0 ≤ n && n < (UInt32.size : Int)

structure OptionSpec where
  name : String
  letter : Option Char
  operand : Operand
  about : String
  deriving DecidableEq, Repr

structure Interface where
  name : String
  about : String
  options : List OptionSpec
  exclusive : List (String × String)

abbrev Given := List (String × String)

namespace Given

def value? (given : Given) (name : String) : Option String :=
  List.lookup name given

def has (given : Given) (name : String) : Bool :=
  (given.value? name).isSome

def root (given : Given) : String :=
  (given.value? "root").getD "."

end Given

inductive ArgumentError where
  | unexpected (argument : String)
  | repeated (name : String)
  | missingValue (name : String)
  | surplusValue (name : String)
  | badValue (name value : String)
  | exclusive (first second : String)
  deriving DecidableEq, Repr

def ArgumentError.message : ArgumentError → String
  | .unexpected argument => "unexpected argument '" ++ argument ++ "'"
  | .repeated name => "--" ++ name ++ " is given twice"
  | .missingValue name => "--" ++ name ++ " needs a value"
  | .surplusValue name => "--" ++ name ++ " takes no value"
  | .badValue name value => "'" ++ value ++ "' is no value for --" ++ name
  | .exclusive first second => "--" ++ second ++ " cannot be given together with --" ++ first

inductive Invocation where
  | help
  | run (given : Given)
  deriving DecidableEq, Repr

/-- What one argument leads to; `pending` is an option that waits for its value. -/
inductive Reading where
  | help
  | options (given : Given) (pending : Option OptionSpec)

namespace Interface

def named? (interface : Interface) (name : String) : Option OptionSpec :=
  interface.options.find? (·.name == name)

def lettered? (interface : Interface) (letter : Char) : Option OptionSpec :=
  interface.options.find? (·.letter == some letter)

def isOption (argument : String) : Bool :=
  match argument.toList with
  | '-' :: _ :: _ => true
  | _ => false

def take (given : Given) (spec : OptionSpec) (value : String) : Except ArgumentError Given :=
  if given.has spec.name then .error (.repeated spec.name)
  else if spec.operand.accepts value then .ok (given ++ [(spec.name, value)])
  else .error (.badValue spec.name value)

def nameAndValue (body : List Char) : String × Option String :=
  let name := body.takeWhile (· != '=')
  match body.drop name.length with
  | [] => (String.ofList name, none)
  | _ :: value => (String.ofList name, some (String.ofList value))

def readName (interface : Interface) (given : Given) (body : List Char) :
    Except ArgumentError Reading :=
  match nameAndValue body with
  | ("help", none) => .ok .help
  | (name, value) =>
      match interface.named? name with
      | none => .error (.unexpected ("--" ++ name))
      | some spec =>
          match spec.operand, value with
          | .nothing, none => do return .options (← take given spec "") none
          | .nothing, some _ => .error (.surplusValue name)
          | _, some value => do return .options (← take given spec value) none
          | _, none => .ok (.options given (some spec))

def readLetters (interface : Interface) (given : Given) : List Char → Except ArgumentError Reading
  | [] => .ok (.options given none)
  | 'h' :: _ => .ok .help
  | letter :: rest =>
      match interface.lettered? letter with
      | none => .error (.unexpected (String.ofList ['-', letter]))
      | some spec => do readLetters interface (← take given spec "") rest

def readOption (interface : Interface) (given : Given) (argument : String) :
    Except ArgumentError Reading :=
  match argument.toList with
  | '-' :: '-' :: body => interface.readName given body
  | '-' :: letter :: rest => interface.readLetters given (letter :: rest)
  | _ => .error (.unexpected argument)

def finish (interface : Interface) (given : Given) : Except ArgumentError Invocation :=
  match interface.exclusive.find? fun (a, b) => given.has a && given.has b with
  | some (a, b) => .error (.exclusive a b)
  | none => .ok (.run given)

def parseFrom (interface : Interface) (given : Given) (pending : Option OptionSpec) :
    List String → Except ArgumentError Invocation
  | [] =>
      match pending with
      | some spec => .error (.missingValue spec.name)
      | none => interface.finish given
  | argument :: rest =>
      match pending, isOption argument with
      | some spec, true => .error (.missingValue spec.name)
      | some spec, false => do parseFrom interface (← take given spec argument) none rest
      | none, _ =>
          if argument = "--" then
            match rest with
            | [] => interface.finish given
            | extra :: _ => .error (.unexpected extra)
          else
            match interface.readOption given argument with
            | .error e => .error e
            | .ok .help => .ok .help
            | .ok (.options given pending) => parseFrom interface given pending rest

def parse (interface : Interface) (arguments : List String) : Except ArgumentError Invocation :=
  interface.parseFrom [] none arguments

def usage (interface : Interface) : String :=
  "Usage: " ++ interface.name ++ " [OPTIONS]"

def helpSpec : OptionSpec := ⟨"help", some 'h', .nothing, "Print help"⟩

def label (spec : OptionSpec) : String :=
  (match spec.letter with
  | some letter => "  -" ++ String.ofList [letter] ++ ", "
  | none => "      ") ++
  "--" ++ spec.name ++
  match spec.operand with
  | .nothing => ""
  | _ => " <" ++ Text.upper spec.name ++ ">"

def optionLines (specs : List OptionSpec) : List String :=
  let width := (specs.map fun spec => (label spec).length).foldl max 0
  specs.map fun spec =>
    label spec ++ String.ofList (List.replicate (width - (label spec).length + 2) ' ') ++ spec.about

def help (interface : Interface) : String :=
  Text.ofLines ([interface.about, "", interface.usage, "", "Options:"] ++
    optionLines (interface.options ++ [helpSpec]))

def refusal (interface : Interface) (error : ArgumentError) : String :=
  Text.ofLines ["error: " ++ error.message, "", interface.usage, "",
    "For more information, try '--help'."]

end Interface

end QuestWeb.Tool
