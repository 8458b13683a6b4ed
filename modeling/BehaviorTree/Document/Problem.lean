import BehaviorTree.Timestamp
import BehaviorTree.Graph.Node

/-!
# What can be wrong with a document value

The schema of documents and settings asks for a kind of value at each place. A `ValueProblem` says
why the value that stands there is refused.
-/

namespace BehaviorTree

/-- Outcomes are compared by what they hold. -/
instance decidableEqExcept {ε α : Type} [DecidableEq ε] [DecidableEq α] :
    DecidableEq (Except ε α)
  | .ok a, .ok b =>
    if h : a = b then isTrue (congrArg Except.ok h) else isFalse fun e => h (Except.ok.inj e)
  | .error a, .error b =>
    if h : a = b then isTrue (congrArg Except.error h) else isFalse fun e => h (Except.error.inj e)
  | .ok _, .error _ => isFalse nofun
  | .error _, .ok _ => isFalse nofun

/-- Why a value is refused where the schema asks for a kind of value. -/
inductive ValueProblem where
  | missing
  | notInteger
  | fractionalPart
  | unreadableInteger
  | notFinite
  | integerTooLong
  | notNumber
  | unreadableNumber
  | notText
  | notNodeKind
  | notDecoratorKind
  | notConnectionStyle
  | notList
  | notObject (what : String)
  | notPath
  | notTimestamp
  /-- A number or text is no timestamp; the flag says that a date alone was tried last. -/
  | unreadableTimestamp (problem : Timestamp.Problem) (dateOnly : Bool)
  | below (bound : Nat)
  | above (bound : Nat)
  deriving DecidableEq, Repr

namespace ValueProblem

/-- A list of alternatives, the last after "or". -/
def alternatives : List String → String
  | [] => ""
  | [last] => last
  | [next, last] => next ++ " or " ++ last
  | next :: rest => next ++ ", " ++ alternatives rest

/-- A text in single quotes. -/
def inQuotes (s : String) : String := "'" ++ s ++ "'"

/-- The wording of a problem. -/
def message : ValueProblem → String
  | missing => "Field required"
  | notInteger => "Input should be a valid integer"
  | fractionalPart => "Input should be a valid integer, got a number with a fractional part"
  | unreadableInteger => "Input should be a valid integer, unable to parse string as an integer"
  | notFinite => "Input should be a finite number"
  | integerTooLong => "Unable to parse input string as an integer, exceeded maximum size"
  | notNumber => "Input should be a valid number"
  | unreadableNumber => "Input should be a valid number, unable to parse string as a number"
  | notText => "Input should be a valid string"
  | notNodeKind =>
    "Input should be " ++ alternatives (NodeKind.all.map fun kind => inQuotes kind.text)
  | notDecoratorKind =>
    "Input should be " ++ alternatives (DecoratorKind.all.map fun kind => inQuotes kind.text)
  | notConnectionStyle => "Input should be 'curved' or 'polyline'"
  | notList => "Input should be a valid list"
  | notObject what => "Input should be a valid dictionary or instance of " ++ what
  | notPath => "Input is not a valid path for <class 'pathlib.Path'>"
  | notTimestamp => "Input should be a valid datetime"
  | unreadableTimestamp problem dateOnly =>
    "Input should be a valid datetime" ++ (if dateOnly then " or date" else "") ++ ", "
      ++ problem.message
  | below bound => "Input should be greater than or equal to " ++ Text.ofNat bound
  | above bound => "Input should be less than or equal to " ++ Text.ofNat bound

end ValueProblem
end BehaviorTree
