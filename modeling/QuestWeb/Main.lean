import QuestWeb.Tool

/-!
The command line: the name of a tool and its arguments. The files that the tool can need are read
first, and the files that it leaves changed are written last, so the tool itself is a function.
-/

namespace QuestWeb.CommandLine

def folderEntry (folder : String) : IO.FS.DirEntry := ⟨folder, "."⟩

def contentOf (data : ByteArray) : FileContent :=
  match String.fromUTF8? data with
  | some text => .text text
  | none => .bytes

def place (tree : FileTree) (path : String) (content : FileContent) : FileTree :=
  (tree.write path content).toOption.getD tree

/-- Adds all files of a folder. -/
partial def addFolder (tree : FileTree) (folder : String) : IO FileTree := do
  let mut tree := (tree.createFolder folder).toOption.getD tree
  for entry in ← (folderEntry folder).path.readDir do
    let path := Path.under folder entry.fileName
    if ← entry.path.isDir then
      tree ← addFolder tree path
    else
      tree := place tree path (contentOf (← IO.FS.readBinFile path))
  return tree

def addPath (tree : FileTree) (path : String) : IO FileTree := do
  if ← (folderEntry path).path.isDir then
    addFolder tree path
  else
    let file := Path.under (Path.above path) ((Path.parts path).getLast?.getD "")
    try return place tree file (contentOf (← IO.FS.readBinFile file))
    catch _ => return tree

def workingTree : IO FileTree := do
  let folder := (← IO.currentDir).toString
  let tree := { FileTree.empty with here := Path.parts folder }
  return (tree.createFolder folder).toOption.getD tree

def readTree (given : Tool.Given) : IO FileTree := do
  let settings := ["catalog", "config"].filterMap given.value?
  (given.root :: settings).foldlM addPath (← workingTree)

def writeChanges (before after : FileTree) : IO Unit := do
  for (path, content) in after.files.toList do
    if before.files[path]? != some content then
      if let .text text := content then
        IO.FS.createDirAll ("/" ++ "/".intercalate path.dropLast)
        IO.FS.writeFile ("/" ++ "/".intercalate path) text

def report (outcome : Tool.Outcome) : IO UInt32 := do
  IO.print outcome.stdout
  IO.eprint outcome.stderr
  return outcome.exit

partial def converse (preview : Tool.Preview) (input output : IO.FS.Stream) : IO Unit := do
  output.putStr Tool.Preview.prompt
  output.flush
  let line ← input.getLine
  if line.isEmpty then return
  let (lines, next) := preview.command line
  output.putStr (Text.ofLines lines)
  if let some next := next then converse next input output

def runPreview (given : Tool.Given) (tree : FileTree) : IO UInt32 :=
  match Tool.Preview.opening given tree with
  | .error failure => do
      IO.eprint (Text.ofLines failure.report)
      return 1
  | .ok opening => do
      IO.eprint (Text.ofLines opening.warnings)
      IO.print (Text.ofLines opening.lines)
      converse opening.preview (← IO.getStdin) (← IO.getStdout)
      return 0

def forceVariable : String := "FORCE_GENERATE_AUTHORITY_WEB"

def runTool (tool : Tool) (given : Tool.Given) : IO UInt32 := do
  let tree ← readTree given
  match tool with
  | .preview => runPreview given tree
  | _ =>
      let forced := (← IO.getEnv forceVariable) == some "1"
      let outcome := tool.execute given forced "" tree
      writeChanges tree outcome.tree
      report outcome

def usage : String :=
  Text.ofLines ("Tools:" :: Tool.all.map fun tool => "  " ++ tool.interface.name)

def run : List String → IO UInt32
  | [] => do
      IO.eprint usage
      return 2
  | name :: arguments =>
      match Tool.named? name with
      | none => do
          IO.eprint usage
          return 2
      | some tool =>
          match tool.interface.parse arguments with
          | .ok (.run given) => runTool tool given
          | _ => report (tool.run arguments false "" .empty)

end QuestWeb.CommandLine

def main (arguments : List String) : IO UInt32 :=
  QuestWeb.CommandLine.run arguments
