import BehaviorTree.Document.Coercion
import BehaviorTree.Fault
import BehaviorTree.Json.Value

/-!
# Settings

The settings of an editor come from given values and from environment variables; a given value wins,
and of several names that differ in case only the last counts. Each setting is read by itself, and
all settings that are refused are reported, in the order in which they are listed here. Only the
home directory of an unknown user makes the whole reading fail.

* `Settings.read`: the settings, or the problems by the names of the settings.
* `Settings.normalPath`: the plain form of a path.
-/

namespace BehaviorTree

open BehaviorTree.Text

/-- How connections are drawn. -/
inductive ConnectionStyle where
  | curved
  | polyline
  deriving DecidableEq, Repr, Inhabited

namespace ConnectionStyle

/-- The text of a style. -/
def text : ConnectionStyle → String
  | curved => "curved"
  | polyline => "polyline"

/-- The style of a text. -/
def ofText? (s : String) : Option ConnectionStyle :=
  [curved, polyline].find? fun style => style.text = s

end ConnectionStyle

/-- The settings of an editor. -/
structure Settings where
  /-- The module path in front of function names in scripts. -/
  functionPrefix : String
  connectionStyle : ConnectionStyle
  /-- How many history entries a session keeps. -/
  historyCapacity : Int
  /-- The quiet period before an edit becomes a history entry, in seconds. -/
  historyDebounce : Float
  /-- The file of the slot database. -/
  databasePath : String
  /-- The unit of indentation in scripts. -/
  indent : String
  deriving DecidableEq, Repr

namespace Settings

/-- The name of the program, in its variables and in its directory. -/
def programName : String := "btforge"

/-- The names of the settings. -/
def names : List String :=
  ["function_prefix", "connection_style", "history_capacity", "history_debounce_seconds",
   "database_path", "indent"]

/-- The environment variable of a setting. -/
def variableName (name : String) : String := (programName ++ "_" ++ name).toUpper

/-! ### Paths -/

/-- What stands between the slashes of a path. -/
def parts : List Char → List (List Char)
  | [] => [[]]
  | c :: cs =>
    match parts cs with
    | part :: rest => if c = '/' then [] :: part :: rest else (c :: part) :: rest
    | [] => [[c]]

/-- The components of a path. Empty ones do not count, nor those for the directory itself. -/
def components (path : List Char) : List String :=
  ((parts path).filter fun part => !part.isEmpty && part ≠ ['.']).map String.ofList

/-- The slashes that a path starts with: two stay two, and more count as one. -/
def rootOf : List Char → String
  | '/' :: '/' :: '/' :: _ => "/"
  | '/' :: '/' :: _ => "//"
  | '/' :: _ => "/"
  | _ => ""

/-- The path with a root and components. -/
def joined (root : String) (components : List String) : String :=
  let written := root ++ "/".intercalate components
  if written.isEmpty then "." else written

/-- A path written with single slashes and without what does not count. -/
def plainPath (path : String) : String := joined (rootOf path.toList) (components path.toList)

/-- The home directories of the user and, by their names, of other users. -/
structure Homes where
  own : String
  others : List (String × String) := []
  deriving Repr

/-- The home directory of a user; the empty name is the user's own. -/
def Homes.find? (homes : Homes) (user : String) : Option String :=
  if user.isEmpty then some homes.own else Keyed.value? user homes.others

/-- The name behind a tilde. -/
def userOf? (component : String) : Option String :=
  match component.toList with
  | '~' :: user => some (String.ofList user)
  | _ => none

/-- The plain form of a path. A tilde with the name of a user as the first component stands for the
home directory of that user. -/
def normalPath (homes : Homes) (path : String) : Except Fault String :=
  match rootOf path.toList, components path.toList with
  | "", first :: rest =>
    match userOf? first with
    | none => .ok (joined "" (first :: rest))
    | some user =>
      match homes.find? user with
      | some home => .ok (joined (rootOf home.toList) (components home.toList ++ rest))
      | none => .error .unknownHome
  | root, written => .ok (joined root written)

/-! ### Reading -/

/-- The last entry with a name, in any case. -/
def named? {α : Type} (name : String) (entries : List (String × α)) : Option α :=
  (entries.reverse.find? fun entry => entry.1.toLower = name).map (·.2)

/-- A given value, or a variable of the environment as a text. -/
def find? (values : List (String × Json)) (environment : List (String × String)) (name : String) :
    Option Json :=
  (named? name values).or ((named? name environment).map .text)

/-- The reading of one setting. -/
abbrev Read (α : Type) := Except ValueProblem α

/-- Refuses integers outside a range. -/
def bounded (low high : Nat) (n : Int) : Read Int :=
  if n < low then .error (.below low) else if (high : Int) < n then .error (.above high) else .ok n

/-- Refuses what is not zero or greater. -/
def notNegative (x : Float) : Read Float := if 0.0 ≤ x then .ok x else .error (.below 0)

/-- Reads the path of a file. -/
def path (homes : Homes) : Json → Except Fault (Read String)
  | .text s => (normalPath homes s).map .ok
  | _ => .ok (.error .notPath)

/-- Why settings are not read. -/
inductive Refusal where
  | fault (f : Fault)
  /-- Settings that are refused, by their names. -/
  | problems (entries : List (String × ValueProblem))

/-- The problem of a setting that is refused. -/
def problem {α : Type} (name : String) : Read α → List (String × ValueProblem)
  | .ok _ => []
  | .error p => [(name, p)]

/-- Reads the settings. The names of the variables come without the prefix of the program. -/
def read (homes : Homes) (values : List (String × Json)) (environment : List (String × String)) :
    Except Refusal Settings := do
  let setting {α : Type} (name : String) (absent : α) (reader : Json → Read α) : Read α :=
    match find? values environment name with
    | some value => reader value
    | none => .ok absent
  let functionPrefix := setting "function_prefix" "" fun value => trim <$> Coercion.exactText value
  let connectionStyle := setting "connection_style" .curved
    (Coercion.oneOf ConnectionStyle.ofText? .notConnectionStyle)
  let historyCapacity := setting "history_capacity" 50
    fun value => Coercion.integer value >>= bounded 1 1000
  let historyDebounce := setting "history_debounce_seconds" 1.0
    fun value => Coercion.double value >>= notNegative
  let file := (find? values environment "database_path").getD
    (.text ("~/." ++ programName ++ "/slots.db"))
  let databasePath ← (path homes file).mapError .fault
  let indent := setting "indent" "    " Coercion.exactText
  match functionPrefix, connectionStyle, historyCapacity, historyDebounce, databasePath, indent with
  | .ok functionPrefix, .ok connectionStyle, .ok historyCapacity, .ok historyDebounce,
    .ok databasePath, .ok indent =>
    .ok ⟨functionPrefix, connectionStyle, historyCapacity, historyDebounce, databasePath, indent⟩
  | _, _, _, _, _, _ =>
    .error (.problems (problem "function_prefix" functionPrefix
      ++ problem "connection_style" connectionStyle
      ++ problem "history_capacity" historyCapacity
      ++ problem "history_debounce_seconds" historyDebounce
      ++ problem "database_path" databasePath ++ problem "indent" indent))

/-! ### Checks -/

example : normalPath ⟨"/home/a", []⟩ "~/y//z/./s.db" = .ok "/home/a/y/z/s.db" := by
  decide
example : normalPath ⟨"/", []⟩ "./~/y" = .ok "/y" := by decide
example : normalPath ⟨"/home/a", []⟩ "a/~b/" = .ok "a/~b" := by decide
example : normalPath ⟨"/home/a", []⟩ "~b/y" = .error .unknownHome := by decide
example : normalPath ⟨"/home/a", []⟩ "" = .ok "." := by decide

end Settings
end BehaviorTree
