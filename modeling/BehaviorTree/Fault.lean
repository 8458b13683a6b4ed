import BehaviorTree.Document.Problem
import BehaviorTree.Json.Reader

/-!
# Errors

The causes of failure, each with its wording.

* `EditorError`: an error as it is shown to the designer, with its code and category.
* `ImportFailure`, `ExportFailure`: why a document is not loaded, and why a graph has no script.
* `Fault`: why a call fails. A call that is merely refused by the graph is no fault; see
  `Rejection`.
-/

namespace BehaviorTree

open BehaviorTree.Text

/-! ### Errors with a code -/

/-- The components that report errors, by the first digit of their codes. -/
inductive Category where
  | structural
  | validation
  | importing
  | exporting
  | script
  deriving DecidableEq, Repr, Inhabited

namespace Category

/-- All categories. -/
def all : List Category := [structural, validation, importing, exporting, script]

/-- The text of a category. -/
def text : Category → String
  | structural => "structure"
  | validation => "validation"
  | importing => "import"
  | exporting => "export"
  | script => "script"

/-- The category of a text. -/
def ofText? (s : String) : Option Category := all.find? fun category => category.text = s

end Category

/-- An error as it is shown to the designer. -/
structure EditorError where
  code : String
  category : Category
  message : String
  nodeId : Option Int := none
  deriving DecidableEq, Repr, Inhabited

/-- The form of a code: a letter for errors or warnings, the digit of a component, three digits. -/
def isCode : List Char → Bool
  | [letter, component, a, b, c] =>
    (letter = 'E' || letter = 'W') && ('1' ≤ component && component ≤ '5')
      && [a, b, c].all fun digit => '0' ≤ digit && digit ≤ '9'
  | _ => false

/-- The error with its code in brackets. -/
def EditorError.text (e : EditorError) : String := "[" ++ e.code ++ "] " ++ e.message

/-! ### Documents and scripts -/

/-- Why a document is not loaded. -/
inductive ImportFailure where
  /-- The text is no document value. -/
  | notJson (problem : Json.Problem) (line column offset : Nat)
  /-- The document is a value other than an object. -/
  | notObject
  /-- A raw graph is a value other than an object. -/
  | graphNotObject
  /-- The value at a place is refused by the schema. -/
  | schema (place : List String) (problem : ValueProblem)
  /-- A raw graph has a value that cannot be converted. -/
  | malformedGraph
  | duplicateNode (id : Int)
  | danglingConnection (source target : Int)
  | duplicateConnection (source target : Int)
  deriving DecidableEq, Repr

namespace ImportFailure

/-- The code of an import failure. -/
def code : ImportFailure → String
  | notJson .. => "E3001"
  | notObject | graphNotObject | schema .. | malformedGraph => "E3002"
  | duplicateNode _ => "E3003"
  | danglingConnection .. => "E3004"
  | duplicateConnection .. => "E3005"

/-- The wording of an import failure. -/
def message : ImportFailure → String
  | notJson problem line column offset =>
    "Document is not valid JSON: " ++ problem.message ++ ": line " ++ ofNat line ++ " column "
      ++ ofNat column ++ " (char " ++ ofNat offset ++ ")"
  | notObject => "Document must be a JSON object"
  | graphNotObject => "Graph document must be an object"
  | schema place problem =>
    "Document does not match the schema at '" ++ ".".intercalate place ++ "': " ++ problem.message
  | malformedGraph => "Malformed graph document"
  | duplicateNode id => "Duplicate node id " ++ ofInt id
  | danglingConnection source target =>
    "Connection " ++ ofInt source ++ " -> " ++ ofInt target ++ " references a missing node"
  | duplicateConnection source target =>
    "Duplicate connection " ++ ofInt source ++ " -> " ++ ofInt target

/-- The ids that the wording of an import failure names. -/
def ids : ImportFailure → List Int
  | duplicateNode id => [id]
  | danglingConnection source target | duplicateConnection source target => [source, target]
  | _ => []

/-- The failure as an error with a code. -/
def error (failure : ImportFailure) : EditorError where
  code := failure.code
  category := .importing
  message := failure.message

end ImportFailure

/-- Why a graph has no script. -/
inductive ExportFailure where
  /-- No node is a root. -/
  | noRoot
  /-- The roots are blackboards that lead to nothing. -/
  | noUsableRoot
  deriving DecidableEq, Repr

namespace ExportFailure

/-- The code of an export failure. -/
def code : ExportFailure → String
  | noRoot => "E4001"
  | noUsableRoot => "E4002"

/-- The wording of an export failure. -/
def message : ExportFailure → String
  | noRoot => "Graph has no root node to export"
  | noUsableRoot => "Graph has no valid root node to export"

/-- The failure as an error with a code. -/
def error (failure : ExportFailure) : EditorError where
  code := failure.code
  category := .exporting
  message := failure.message

end ExportFailure

/-! ### Faults -/

/-- Why a call fails. -/
inductive Fault where
  | unknownNode (id : Int)
  | unknownNodeKind (text : String)
  | unknownDecoratorKind (text : String)
  | notEditable (label : String)
  | decoratorOnly (label : String) (kind : NodeKind)
  | notDecorator (id : Int) (kind : NodeKind)
  | notBlackboard (id : Int) (kind : NodeKind)
  | takesNoParams (id : Int) (effectiveType : String)
  | noParam (index : Int)
  | noField (index : Int)
  /-- A text with too many digits was to be read as an integer. -/
  | numeralTooLong (digits : Nat)
  /-- An integer with too many digits was to be written out. -/
  | integerTooLong
  /-- An integer beyond the range of doubles was to become a double, or an infinite double an
  integer. -/
  | outOfRange
  /-- A text has the form of a number and cannot be converted into one. -/
  | unreadableNumber
  | undecodableBytes
  /-- A text holds half a surrogate pair, which no encoding has. -/
  | unencodableText
  | badCapacity (capacity : Int)
  | noHistoryEntry (index : Int)
  | emptySlotName
  | badSlotName (name : String)
  | unknownSlot (name : String)
  | slotTaken (name : String)
  | slotOpen (name : String)
  | noSlotStore
  | badErrorCode (code : String)
  | notIdentifier (name : String)
  | nestedTooDeep
  | functionValue
  /-- A path starts with the home directory of a user who has none. -/
  | unknownHome
  /-- A point in time was to be counted that is too close to the year zero. -/
  | tooEarly
  /-- The value of a rejected call was asked for. -/
  | rejected (error : EditorError)
  | importing (failure : ImportFailure)
  | exporting (failure : ExportFailure)
  deriving DecidableEq, Repr, Inhabited

namespace Fault

/-- The wording of a fault. -/
def message : Fault → String
  | unknownNode id => "Node " ++ ofInt id ++ " does not exist"
  | unknownNodeKind text => "'" ++ text ++ "' is not a valid NodeKind"
  | unknownDecoratorKind text => "'" ++ text ++ "' is not a valid DecoratorKind"
  | notEditable label => "Attribute '" ++ label ++ "' is not editable"
  | decoratorOnly label kind =>
    "Attribute '" ++ label ++ "' only applies to DECORATOR nodes, not " ++ kind.text
  | notDecorator id kind => "Node " ++ ofInt id ++ " is " ++ kind.text ++ ", not DECORATOR"
  | notBlackboard id kind => "Node " ++ ofInt id ++ " is " ++ kind.text ++ ", not BLACKBOARD"
  | takesNoParams id effectiveType =>
    "Node " ++ ofInt id ++ " (" ++ effectiveType ++ ") does not take params"
  | noParam index => "No param at index " ++ ofInt index
  | noField index => "No field at index " ++ ofInt index
  | numeralTooLong digits =>
    "Exceeds the limit (" ++ ofNat numeralLimit
      ++ " digits) for integer string conversion: value has " ++ ofNat digits
      ++ " digits; use sys.set_int_max_str_digits() to increase the limit"
  | integerTooLong =>
    "Exceeds the limit (" ++ ofNat numeralLimit
      ++ " digits) for integer string conversion; use sys.set_int_max_str_digits()"
      ++ " to increase the limit"
  | outOfRange => "number out of range"
  | unreadableNumber => "could not convert string to float"
  | undecodableBytes => "undecodable bytes"
  | unencodableText => "surrogates not allowed"
  | badCapacity capacity => "History capacity must be >= 1, got " ++ ofInt capacity
  | noHistoryEntry index => "No history entry at index " ++ ofInt index
  | emptySlotName => "Slot name must not be empty"
  | badSlotName name => "Slot name '" ++ name ++ "' contains one of <>:\"/\\|?*"
  | unknownSlot name => "Slot '" ++ name ++ "' does not exist"
  | slotTaken name => "Slot '" ++ name ++ "' already exists"
  | slotOpen name => "Slot '" ++ name ++ "' is open and cannot be deleted"
  | noSlotStore => "Session has no slot store"
  | badErrorCode code =>
    "Invalid error code '" ++ code ++ "': must match pattern E[1-5]xxx (e.g., E1001)"
  | notIdentifier name => "'" ++ name ++ "' is not a Lua identifier"
  | nestedTooDeep => "Lua table nesting too deep (>64)"
  | functionValue => "Lua functions cannot be converted"
  | unknownHome => "Could not determine home directory."
  | tooEarly => "year 0 is out of range"
  | rejected error => error.text
  | importing failure => failure.message
  | exporting failure => failure.message

/-- The numbers that the wording of a fault names. -/
def numbers : Fault → List Int
  | unknownNode id | notDecorator id _ | notBlackboard id _ | takesNoParams id _ => [id]
  | noParam index | noField index | noHistoryEntry index => [index]
  | badCapacity capacity => [capacity]
  | importing failure => failure.ids
  | _ => []

/-- The fault as it is raised. Where its wording names a number with too many digits, there is a
fault of its own before the wording is complete. -/
def raised (fault : Fault) : Fault :=
  if fault.numbers.all isWritable then fault else integerTooLong

theorem raised_of_writable {fault : Fault} (h : ∀ n ∈ fault.numbers, isWritable n = true) :
    fault.raised = fault :=
  if_pos (List.all_eq_true.2 h)

theorem raised_of_mem {fault : Fault} {n : Int} (hn : n ∈ fault.numbers)
    (h : isWritable n = false) : fault.raised = integerTooLong :=
  if_neg fun hall => by simp [List.all_eq_true.1 hall n hn] at h

theorem raised_cases (fault : Fault) : fault.raised = fault ∨
    fault.raised = integerTooLong ∧ ∃ n ∈ fault.numbers, isWritable n = false := by
  unfold raised
  split
  · exact Or.inl rfl
  · rename_i hlong
    exact Or.inr ⟨rfl, by simpa using hlong⟩

end Fault

/-- A log entry with some numbers. It fails if one of them has too many digits to be written. -/
def logEntry (numbers : List Int) : Except Fault Unit :=
  if numbers.all isWritable then .ok () else .error .integerTooLong

/-- Makes an error with a given code; the code has to have the form of one. -/
def EditorError.make (code : String) (category : Category) (message : String)
    (nodeId : Option Int) : Except Fault EditorError :=
  if matchesLine isCode code.toList then .ok ⟨code, category, message, nodeId⟩
  else .error (.badErrorCode code)

/-- The outcome of a call that the graph may refuse without its being a fault. -/
inductive Verdict (α : Type) where
  | accepted (value : α)
  | rejected (error : EditorError)
  deriving Repr

/-- The value of an accepted call. -/
def Verdict.unwrap {α : Type} : Verdict α → Except Fault α
  | .accepted value => .ok value
  | .rejected error => .error (.rejected error)

end BehaviorTree
