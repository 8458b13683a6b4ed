import BehaviorTree.CommandLine.Run
import BehaviorTree.SlotFile
import BehaviorTree.Text.EmojiNames

/-!
# The program

Reads the files that a command asks for, runs the command on them, writes what it has changed, and
prints its answer. No command saves a document, so the time at hand does not matter.
-/

namespace BehaviorTree.CommandLine

/-- The home directories of the users of the machine. -/
def readHomes : IO (List (String × String)) := do
  try
    let lines ← IO.FS.lines "/etc/passwd"
    return lines.toList.filterMap fun line =>
      match line.splitOn ":" with
      | [name, _, _, _, _, home, _] => some (name, home)
      | _ => none
  catch _ => return []

/-- The home directories and the variables of the program. -/
def readEnvironment : IO Environment := do
  let home := (← IO.getEnv "HOME").getD "/"
  let mut values := []
  for name in Settings.names do
    if let some value ← IO.getEnv (Settings.variableName name) then
      values := values ++ [(name, value)]
  return { homes := ⟨home, ← readHomes⟩, values }

/-- A workspace with the directory at a path, if there is one. -/
def addDirectory (w : Workspace) (path : String) : IO Workspace := do
  try
    if ← (← IO.FS.realPath path).isDir then
      return { w with directories := path :: w.directories }
    else return w
  catch _ => return w

/-- A workspace with the file at a path, if there is one. -/
def addFile (w : Workspace) (path : String) : IO Workspace := do
  try
    let bytes ← IO.FS.readBinFile path
    return { w with files := (path, bytes.toList) :: w.files }
  catch _ => return w

/-- A workspace with the slot database at a path. A file that is no slot file stays a file. -/
def addDatabase (w : Workspace) (path : String) : IO Workspace := do
  let w ← addFile w path
  match (w.file? path).bind fun bytes => String.fromUTF8? (ByteArray.mk bytes.toArray) with
  | none => return w
  | some text =>
    match Slots.decode? w.now text with
    | none => return w
    | some slots => return { w with files := [], databases := [(path, slots)] }

/-- The part of the world that a command touches. -/
def readWorkspace (env : Environment) (command : Command) : IO Workspace := do
  let mut w : Workspace := { now := ⟨0, some 0⟩ }
  for path in command.sources do
    w ← addFile w (Settings.plainPath path)
  if let some path := command.target? then
    w ← addDirectory w (Settings.plainPath path)
    w ← addDirectory w (Workspace.parentOf path)
  if let some given := command.database? then
    if let .ok path := databasePath env given then
      w ← addDirectory w path
      w ← addDatabase w path
  return w

/-- Writes the files and databases that a command has changed. -/
def writeChanges (old new : Workspace) : IO Unit := do
  for (path, bytes) in new.files do
    if old.file? path ≠ some bytes then
      IO.FS.writeBinFile path (ByteArray.mk bytes.toArray)
  for (path, slots) in new.databases do
    let before := old.databases.find? fun database => database.1 = path
    if before.map (fun database => database.2.encode) ≠ some slots.encode then
      IO.FS.createDirAll (Workspace.parentOf path)
      IO.FS.writeFile path slots.encode

/-- Runs the program. -/
def runProgram (args : List String) : IO UInt32 := do
  let env ← readEnvironment
  match Command.read? args with
  | none =>
    IO.eprint Command.usage
    return 2
  | some command =>
    let w ← readWorkspace env command
    let (answer, changed) := run env w args
    writeChanges w changed
    IO.print (answer.output.render Text.Emoji.standard?)
    return answer.exit.toUInt32

end BehaviorTree.CommandLine

def main (args : List String) : IO UInt32 := BehaviorTree.CommandLine.runProgram args
