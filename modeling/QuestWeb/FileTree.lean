import Std.Data.ExtTreeMap
import Std.Data.ExtTreeSet

/-!
Trees of files, as values. A file operation answers with the new tree or with the error of the
operating system.
-/

namespace QuestWeb

inductive FileContent where
  | text (value : String)
  | bytes
  deriving DecidableEq, Repr

inductive OsError where
  | notFound
  | alreadyExists
  | notFolder
  | isFolder
  | tooLong
  | zeroByte
  deriving DecidableEq, Repr

def OsError.message : OsError → String
  | .notFound => "No such file or directory (os error 2)"
  | .alreadyExists => "File exists (os error 17)"
  | .notFolder => "Not a directory (os error 20)"
  | .isFolder => "Is a directory (os error 21)"
  | .tooLong => "File name too long (os error 36)"
  | .zeroByte => "file name contained an unexpected NUL byte"

inductive ReadError where
  | os (error : OsError)
  | notText
  deriving DecidableEq, Repr

def ReadError.message : ReadError → String
  | .os error => error.message
  | .notText => "stream did not contain valid UTF-8"

abbrev Path := List String

namespace Path

/-- The parts of a written path between its slashes; `part` holds the one being read, last
character first. -/
def partsFrom (part : List Char) : List Char → List String
  | [] => [String.ofList part.reverse]
  | c :: rest =>
      if c = '/' then String.ofList part.reverse :: partsFrom [] rest
      else partsFrom (c :: part) rest

def leads (part : String) : Bool :=
  part != "" && part != "."

def parts (text : String) : Path :=
  (partsFrom [] text.toList).filter leads

def isAbsolute (text : String) : Bool :=
  text.toList.head? = some '/'

/-- The path without its last part that leads somewhere, and without what follows it. -/
def above (text : String) : String :=
  let before := ((partsFrom [] text.toList).reverse.dropWhile (!leads ·)).drop 1
  match before.dropWhile (!leads ·) with
  | [] => if isAbsolute text then "/" else ""
  | before => "/".intercalate before.reverse

def endsInSlash (text : String) : Bool :=
  match (partsFrom [] text.toList).reverse with
  | "" :: before => (before.dropWhile (· == "")).head?.any leads
  | _ => false

def asksFolder (text : String) : Bool :=
  (partsFrom [] text.toList).getLast?.any (!leads ·)

def longestName : Nat := 255

def longest : Nat := 4095

def check (text : String) : Except OsError Unit :=
  if text.toList.contains '\x00' then .error .zeroByte
  else if longest < text.utf8ByteSize then .error .tooLong
  else .ok ()

def under (folder path : String) : String :=
  if isAbsolute path then path
  else if folder = "" || folder.toList.getLast? = some '/' then folder ++ path
  else folder ++ "/" ++ path

end Path

/-- Every file stands in folders of the tree; the root is always one. -/
structure FileTree where
  files : Std.ExtTreeMap Path FileContent
  folders : Std.ExtTreeSet Path
  /-- The working folder, in which relative paths begin. -/
  here : Path
  deriving DecidableEq

namespace FileTree

def empty : FileTree := ⟨∅, ∅, []⟩

def beginning (tree : FileTree) (path : String) : Path :=
  if Path.isAbsolute path then [] else tree.here

def isFile (tree : FileTree) (path : Path) : Bool :=
  tree.files.contains path

def isFolder (tree : FileTree) (path : Path) : Bool :=
  path.isEmpty || tree.folders.contains path

/-- Walks from the folder `here`; the last name need not exist. -/
def walk (tree : FileTree) (here : Path) : List String → Except OsError Path
  | [] => .ok here
  | name :: rest =>
      if tree.isFile here then .error .notFolder
      else if !tree.isFolder here then .error .notFound
      else if name = ".." then walk tree here.dropLast rest
      else if Path.longestName < name.utf8ByteSize then .error .tooLong
      else walk tree (here ++ [name]) rest

def locate (tree : FileTree) (path : String) : Except OsError Path := do
  Path.check path
  let here ← tree.walk (tree.beginning path) (Path.parts path)
  if Path.asksFolder path && tree.isFile here then throw .notFolder
  else return here

def hasPath (tree : FileTree) (path : String) : Bool :=
  match tree.locate path with
  | .ok here => tree.isFile here || tree.isFolder here
  | .error _ => false

def content (tree : FileTree) (path : String) : Except OsError FileContent :=
  match tree.locate path with
  | .error e => .error e
  | .ok here =>
      match tree.files[here]? with
      | some content => .ok content
      | none => .error (if tree.isFolder here then .isFolder else .notFound)

def readText (tree : FileTree) (path : String) : Except ReadError String :=
  match tree.content path with
  | .ok (.text text) => .ok text
  | .ok .bytes => .error .notText
  | .error e => .error (.os e)

/-- Creates the folders on the way down from `here` that do not exist. A file in the way is told by
the walk to the last folder, unless one above it is new: then each is created on its own. -/
def createFolders (tree : FileTree) (isNew : Bool) (here : Path) :
    List String → Except OsError FileTree
  | [] => .ok tree
  | ".." :: rest => createFolders tree isNew here.dropLast rest
  | name :: rest =>
      let next := here ++ [name]
      if Path.longestName < name.utf8ByteSize then .error .tooLong
      else if tree.isFile next then
        .error (if rest.isEmpty || isNew then .alreadyExists else .notFolder)
      else if tree.isFolder next then createFolders tree isNew next rest
      else createFolders { tree with folders := tree.folders.insert next } true next rest

def createFolder (tree : FileTree) (path : String) : Except OsError FileTree := do
  Path.check path
  tree.createFolders false (tree.beginning path) (Path.parts path)

/-- Writes a file in a folder that exists. No file is created under a name with a slash behind
it. -/
def writeAt (tree : FileTree) (path : String) (content : FileContent) :
    Except OsError FileTree := do
  if Path.endsInSlash path then
    Path.check path
    throw .isFolder
  let here ← tree.locate path
  if tree.isFolder here then throw .isFolder
  else if !Path.asksFolder path && tree.isFolder here.dropLast then
    return { tree with files := tree.files.insert here content }
  else throw .notFound

def write (tree : FileTree) (path : String) (content : FileContent) : Except OsError FileTree := do
  let tree ← tree.createFolder (Path.above path)
  tree.writeAt path content

def remove (tree : FileTree) (path : String) : FileTree :=
  match tree.locate path with
  | .ok here => { tree with files := tree.files.erase here }
  | .error _ => tree

def isJsonName (name : String) : Bool :=
  match name.toList.reverse.map Char.toLower with
  | 'n' :: 'o' :: 's' :: 'j' :: '.' :: stem => !stem.isEmpty
  | _ => false

def jsonNames (tree : FileTree) (folder : String) : List String :=
  match tree.locate folder with
  | .error _ => []
  | .ok here =>
      tree.files.keys.filterMap fun path =>
        if path.dropLast = here then path.getLast?.filter isJsonName else none

end FileTree

end QuestWeb
