import BehaviorTree.CommandLine.Command
import BehaviorTree.CommandLine.Listing
import BehaviorTree.Keyed
import BehaviorTree.Lua.Interpreter
import BehaviorTree.Lua.Script
import BehaviorTree.Settings
import BehaviorTree.Slots
import BehaviorTree.Validation.Report

/-!
# Running commands

A command runs on a `Workspace`: the files and slot databases around it. It answers an exit code and
an output, and leaves another workspace. Nothing here touches a disk.

The exit code is zero for success, one where a document has errors, a slot is missing or a call
fails with a fault, and two where the arguments are wrong or a document cannot be read or exported.
-/

namespace BehaviorTree.CommandLine

/-! ### Workspaces -/

/-- The files and slot databases around a command, by their plain paths. -/
structure Workspace where
  files : List (String × List UInt8) := []
  directories : List String := []
  databases : List (String × Slots) := []
  /-- The time at hand. -/
  now : Timestamp

/-- What is around a command: the home directories, the variables without the prefix of the program,
and the interpreter of scripts. -/
structure Environment where
  homes : Settings.Homes
  values : List (String × String)
  lua : Lua.Interpreter := .standard

namespace Workspace

/-- The bytes of a file. -/
def file? (w : Workspace) (path : String) : Option (List UInt8) :=
  Keyed.value? path w.files

/-- The directory of a path. -/
def parentOf (path : String) : String :=
  let parts := Settings.components path.toList
  Settings.plainPath (Settings.rootOf path.toList ++ "/".intercalate parts.dropLast)

/-- Whether a file can be written at a path. -/
def isWritable (w : Workspace) (path : String) : Bool :=
  let parent := parentOf path
  (parent = "." || parent = "/" || w.directories.contains parent)
    && !w.directories.contains path && path ≠ "."

/-- Writes a file. -/
def write (w : Workspace) (path : String) (bytes : List UInt8) : Workspace :=
  { w with files := Keyed.put Prod.fst (path, bytes) w.files }

/-- The database at a path, made where there is nothing; none where something else is. -/
def database? (w : Workspace) (path : String) : Option Slots :=
  if (w.file? path).isSome || w.directories.contains path || path = "." then none
  else some ((Keyed.value? path w.databases).getD { kind := .database, now := w.now })

/-- Keeps a database. -/
def keep (w : Workspace) (path : String) (slots : Slots) : Workspace :=
  { w with databases := Keyed.put Prod.fst (path, slots) w.databases }

end Workspace

/-! ### Answers -/

/-- What a command prints: a text as it is, a line of markup, or a listing. -/
inductive Output where
  | text (s : String)
  | line (markup : String)
  | listing (l : Listing)
  deriving DecidableEq, Repr

/-- The exit code of a command and what it prints. -/
structure Answer where
  exit : Nat
  output : Output := .text ""
  deriving DecidableEq, Repr

/-- The text of an output. `named` finds emoji by their names. -/
def Output.render (named : String → Option String) : Output → String
  | text s => s
  | line markup => Markup.plain named markup ++ "\n"
  | listing l => l.render named

/-- An answer of one line of markup. -/
def line (exit : Nat) (markup : String) : Answer := ⟨exit, .line markup⟩

/-- An answer about an object: what is said of it, and the error that was found. -/
def errorLine (exit : Nat) (markup : String) (e : EditorError) : Answer :=
  line exit (markup ++ ": " ++ Markup.escape e.text)

/-- The answer to wrong arguments. -/
def usageError : Answer := ⟨2, .text ""⟩

/-- The answer to a fault that no command explains. -/
def crash : Answer := ⟨1, .text ""⟩

/-! ### Commands -/

/-- The graph of a document file, or the answer that explains why there is none. -/
def loadGraph (w : Workspace) (path : String) : Except Answer Graph :=
  match w.file? path with
  | none => .error usageError
  | some bytes =>
    match Document.parseBytes bytes with
    | .ok d => d.toGraph.mapError fun _ => crash
    | .error (.importing failure) =>
      .error (errorLine 2 ("Cannot import " ++ Markup.escape path) failure.error)
    | .error _ => .error crash

/-- The settings of an environment. -/
def settingsOf (env : Environment) : Except Answer Settings :=
  (Settings.read env.homes [] env.values).mapError fun _ => crash

/-- The script of a graph, or the answer that explains why there is none. -/
def scriptOf (g : Graph) (modulePath indent : String) : Except Answer String :=
  match Lua.scriptText g modulePath indent with
  | .ok text => .ok text
  | .error (.exporting failure) => .error (errorLine 2 "Nothing to export" failure.error)
  | .error _ => .error crash

/-- Compiles a document. -/
def compile (env : Environment) (w : Workspace) (document : String)
    (output modulePath : Option String) (check : Bool) : Except Answer (Answer × Workspace) := do
  if (w.file? document).isNone then throw usageError
  let settings ← settingsOf env
  let g ← loadGraph w document
  let text ← scriptOf g (modulePath.getD settings.functionPrefix) settings.indent
  if check then
    if let .error e := env.lua.check text then
      throw (errorLine 1 "Generated Lua does not compile" e.error)
  match output with
  | none => return (⟨0, .text (text ++ "\n")⟩, w)
  | some output =>
    let path := Settings.plainPath output
    if w.isWritable path then
      return (line 0 ("Wrote " ++ Markup.escape path), w.write path (text ++ "\n").toUTF8.toList)
    else throw crash

/-- The last component of a path. -/
def fileName (path : String) : String := (Settings.components path.toList).getLast?.getD ""

/-- The row of an issue. -/
def issueRow (g : Graph) (issue : Issue) : List String :=
  [issue.code, Text.ofInt issue.node, Markup.escape (((g.find? issue.node).map (·.name)).getD ""),
   Markup.escape issue.message]

/-- Lists the issues of a document. -/
def validate (w : Workspace) (document : String) : Except Answer Answer := do
  let g ← loadGraph w document
  let report ← (g.validate true).mapError fun _ => crash
  let issues := report.issues ++ report.warnings
  if issues.isEmpty then return line 0 "No issues found"
  else return {
    exit := if report.isClean then 0 else 1
    output := .listing ⟨"Validation: " ++ fileName document,
      [⟨"Code", false⟩, ⟨"Node", true⟩, ⟨"Name", false⟩, ⟨"Message", false⟩],
      issues.map (issueRow g)⟩ }

/-- Checks a script file. -/
def check (env : Environment) (w : Workspace) (source : String) : Except Answer Answer := do
  let some bytes := w.file? source | throw usageError
  let some text := String.fromUTF8? (ByteArray.mk bytes.toArray) | throw crash
  match env.lua.check text with
  | .ok _ => return line 0 ("OK " ++ Markup.escape source)
  | .error e => return errorLine 1 (Markup.escape source) e.error

/-- The path of the slot database: the given one, or that of the settings. -/
def databasePath (env : Environment) (given : Option String) : Except Answer String :=
  match given with
  | some path => .ok (Settings.plainPath path)
  | none => do return (← settingsOf env).databasePath

/-- Opens the slot database. -/
def openDatabase (env : Environment) (w : Workspace) (given : Option String) :
    Except Answer (String × Slots) := do
  let path ← databasePath env given
  let some slots := w.database? path | throw crash
  return (path, slots)

/-- The row of a slot; the one used last is marked. -/
def slotRow (slots : Slots) (slot : Slot) : List String :=
  [Markup.escape slot.name ++ (if slots.lastUsed = some slot.name then " *" else ""),
   Text.ofNat slot.nodeCount, (slot.modified.map Timestamp.listing).getD "-"]

/-- Lists the slots. -/
def listSlots (slots : Slots) : Except Answer Answer := do
  let listed ← slots.listed.mapError fun _ => crash
  if listed.isEmpty then return line 0 "No saved documents"
  else return ⟨0, .listing ⟨"Saved documents",
    [⟨"Name", false⟩, ⟨"Nodes", true⟩, ⟨"Last modified", false⟩], listed.map (slotRow slots)⟩⟩

/-- The answer where a slot is missing. -/
def noSlot (name : String) : Answer := line 1 ("No slot named '" ++ Markup.escape name ++ "'")

/-- Prints the document of a slot. -/
def showSlot (slots : Slots) (name : String) : Answer :=
  match slots.load name with
  | .ok (some d) =>
    match (Library.standard Json.privateHalf).render d (some Document.indentWidth) with
    | .ok text => ⟨0, .text (text ++ "\n")⟩
    | .error _ => crash
  | .ok none => noSlot name
  | .error (.importing failure) =>
    errorLine 2 ("Slot '" ++ Markup.escape name ++ "' is corrupt") failure.error
  | .error _ => crash

/-- Carries a command out. -/
def execute (env : Environment) (w : Workspace) : Command → Except Answer (Answer × Workspace)
  | .compile document output modulePath check =>
    compile env w (Settings.plainPath document) output modulePath check
  | .validate document => do return (← validate w (Settings.plainPath document), w)
  | .check source => do return (← check env w (Settings.plainPath source), w)
  | .listSlots database => do
    let (path, slots) ← openDatabase env w database
    return (← listSlots slots, w.keep path slots)
  | .showSlot name database => do
    let (path, slots) ← openDatabase env w database
    return (showSlot slots name, w.keep path slots)
  | .deleteSlot name database => do
    let (path, slots) ← openDatabase env w database
    let (found, slots) := slots.delete name
    let answer := if found then line 0 ("Deleted '" ++ Markup.escape name ++ "'") else noSlot name
    return (answer, w.keep path slots)
  | .help => .ok (⟨0, .text Command.usage⟩, w)

/-- Runs the program with some arguments. -/
def run (env : Environment) (w : Workspace) (args : List String) : Answer × Workspace :=
  match Command.read? args with
  | none => (usageError, w)
  | some command =>
    match execute env w command with
    | .ok result => result
    | .error answer => (answer, w)

end BehaviorTree.CommandLine
