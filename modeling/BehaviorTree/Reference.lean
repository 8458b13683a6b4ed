import BehaviorTree.Graph.Basic
import BehaviorTree.Keyed

/-!
# Attribute values and blackboard references

An attribute text stands for itself unless it starts with a mark.

* `@key` is read from the blackboard field `key` when the tree runs.
* `\@text` stands for the text `@text`.
* `?path` is a full module path; only function attributes know this mark.

A `Resolver` knows the blackboard fields of a graph and gives a reference its default value. Keys
are compared after trimming, and the first field with a key counts.
-/

namespace BehaviorTree

open BehaviorTree.Text

/-- What an attribute text stands for. -/
inductive AttributeValue where
  | literal (text : String)
  | reference (key : String)
  | rawPath (path : String)
  deriving DecidableEq, Repr

/-- The form of a reference: an at sign, then at least one character, and neither a blank nor an at
sign among them. -/
def isReferenceForm : List Char → Bool
  | '@' :: key => !key.isEmpty && key.all fun c => c ≠ '@' && !isBlank c
  | _ => false

/-- Whether a text is a blackboard reference. A line feed may end it. -/
def isReference (s : String) : Bool := matchesLine isReferenceForm s.toList

/-- A text without its first character. -/
def dropFirst (s : String) : String := String.ofList (s.toList.drop 1)

/-- Reads an attribute text. `paths` says whether the mark of a full path is known. -/
def parseValue (s : String) (paths : Bool) : AttributeValue :=
  if isReference s then .reference (dropFirst s)
  else match s.toList with
    | '\\' :: '@' :: _ => .literal (dropFirst s)
    | '?' :: _ => if paths then .rawPath (dropFirst s) else .literal s
    | _ => .literal s

/-- A literal, or a reference with its default value; a key that no blackboard defines has none. -/
inductive Resolved where
  | literal (text : String)
  | reference (key : String) (default : Option String)
  deriving DecidableEq, Repr

/-- The trimmed keys of the blackboard fields with their values, each key once. -/
structure Resolver where
  defaults : List (String × String) := []
  deriving DecidableEq, Repr, Inhabited

namespace Resolver

/-- The value of a key, if it is defined. -/
def default? (r : Resolver) (key : String) : Option String :=
  Keyed.value? key r.defaults

/-- Whether a key is defined. -/
def isKnown (r : Resolver) (key : String) : Bool := (r.default? key).isSome

/-- Adds a field. A field without a key, or with a known one, adds nothing. -/
def add (r : Resolver) (field : Field) : Resolver :=
  let key := trim field.key
  if key.isEmpty || r.isKnown key then r else ⟨r.defaults ++ [(key, field.value)]⟩

/-- The resolver of some fields. -/
def ofFields (fields : List Field) : Resolver := fields.foldl add {}

/-- The resolver of a graph. -/
def ofGraph (g : Graph) : Resolver := ofFields g.blackboardFields

/-- The keys that are defined, in the order of the fields. -/
def keys (r : Resolver) : List String := r.defaults.map (·.1)

/-- Reads an attribute text and looks a reference up. -/
def resolve (r : Resolver) (s : String) : Resolved :=
  match parseValue s false with
  | .reference key => .reference key (r.default? key)
  | .literal text => .literal text
  | .rawPath path => .literal path

end Resolver

/-! ### Small lemmas -/

theorem parseValue_of_isReference {s : String} (h : isReference s = true) (paths : Bool) :
    parseValue s paths = .reference (dropFirst s) := by
  simp [parseValue, h]

/-! ### Checks -/

example : parseValue "@hp" false = .reference "hp" := by decide
example : parseValue "@hp\n" false = .reference "hp\n" := by decide
example : parseValue "\\@hp" false = .literal "@hp" := by decide
example : parseValue "?ai.patrol" true = .rawPath "ai.patrol" := by decide

end BehaviorTree
