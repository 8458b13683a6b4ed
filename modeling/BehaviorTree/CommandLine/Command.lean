import BehaviorTree.CommandLine.Arguments

/-!
# Commands

What the program is asked to do.

* `Command.read?`: the command of a list of arguments; none where the arguments are not those of a
  command.
-/

namespace BehaviorTree.CommandLine

/-- What the program is asked to do. -/
inductive Command where
  /-- Writes the script of a document, to a file or to the output. -/
  | compile (document : String) (output modulePath : Option String) (check : Bool)
  /-- Lists the issues of a document. -/
  | validate (document : String)
  /-- Checks a script file. -/
  | check (source : String)
  | listSlots (database : Option String)
  | showSlot (name : String) (database : Option String)
  | deleteSlot (name : String) (database : Option String)
  | help
  deriving DecidableEq, Repr

namespace Command

/-- The option that asks for help. -/
def helpForm : OptionForm := { key := "help", long := "--help" }

/-- The options before the command. -/
def globalForms : List OptionForm :=
  [helpForm, { key := "verbose", long := "--verbose", short := some 'v' }]

/-- The options of the compile command. -/
def compileForms : List OptionForm :=
  [helpForm, { key := "output", long := "--output", short := some 'o', takesValue := true },
   { key := "module", long := "--prefix", takesValue := true },
   { key := "check", long := "--check" }]

/-- The options of the commands on slots. -/
def slotForms : List OptionForm :=
  [helpForm, { key := "database", long := "--db", takesValue := true }]

/-- Reads the arguments of a command, which may ask for help instead. -/
def readWith? (forms : List OptionForm) (args : List String)
    (command? : Arguments → Option Command) : Option Command := do
  let a ← Arguments.read? forms true args
  if a.has "help" then some .help else command? a

/-- Makes a command of the one operand that it takes. -/
def withOperand? (make : Arguments → String → Command) (a : Arguments) : Option Command :=
  match a.operands with
  | [operand] => some (make a operand)
  | _ => none

/-- Reads a command on slots. -/
def readSlots? : List String → Option Command
  | "list" :: args => readWith? slotForms args fun a =>
    if a.operands.isEmpty then some (.listSlots (a.value? "database")) else none
  | "show" :: args =>
    readWith? slotForms args (withOperand? fun a name => .showSlot name (a.value? "database"))
  | "delete" :: args =>
    readWith? slotForms args (withOperand? fun a name => .deleteSlot name (a.value? "database"))
  | _ => none

/-- Reads a command. -/
def readCommand? : List String → Option Command
  | "compile" :: args => readWith? compileForms args (withOperand? fun a document =>
    .compile document (a.value? "output") (a.value? "module") (a.has "check"))
  | "validate" :: args =>
    readWith? [helpForm] args (withOperand? fun _ document => .validate document)
  | "check" :: args => readWith? [helpForm] args (withOperand? fun _ source => .check source)
  | "slots" :: args => do
    let a ← Arguments.read? [helpForm] false args
    if a.has "help" then some .help else readSlots? a.operands
  | _ => none

/-- Reads the arguments of the program. -/
def read? (args : List String) : Option Command := do
  let a ← Arguments.read? globalForms false args
  if a.has "help" then some .help else readCommand? a.operands

/-! ### Files -/

/-- The files that a command reads. -/
def sources : Command → List String
  | compile document .. => [document]
  | validate document => [document]
  | check source => [source]
  | _ => []

/-- The file that a command writes. -/
def target? : Command → Option String
  | compile _ output .. => output
  | _ => none

/-- The database of a command on slots, as far as it was given; none for other commands. -/
def database? : Command → Option (Option String)
  | listSlots database => some database
  | showSlot _ database => some database
  | deleteSlot _ database => some database
  | _ => none

/-- What the commands are. -/
def usage : String :=
  "Usage: [--verbose] COMMAND\n\n"
    ++ "  compile DOCUMENT [--output FILE] [--prefix PATH] [--check]\n"
    ++ "  validate DOCUMENT\n"
    ++ "  check SCRIPT\n"
    ++ "  slots list [--db FILE]\n"
    ++ "  slots show NAME [--db FILE]\n"
    ++ "  slots delete NAME [--db FILE]\n"

/-! ### Checks -/

example : read? ["-v", "compile", "a.json", "-ob.lua", "--prefix="]
    = some (.compile "a.json" (some "b.lua") (some "") false) := by decide
example : read? ["slots", "show"] = none := by decide
example : read? ["compile", "a.json", "-o"] = none := by decide

end Command
end BehaviorTree.CommandLine
