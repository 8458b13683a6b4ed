import BehaviorTree.Reference

/-!
# Issues

What a validation can find at a node. An issue keeps its cause; its code, its severity, its wording
and the place that it points to are read off the cause.
-/

namespace BehaviorTree

open BehaviorTree.Text

/-- How grave an issue is: an error flags its node, a warning does not. -/
inductive Severity where
  | error
  | warning
  deriving DecidableEq, Repr

/-- The text of a severity. -/
def Severity.text : Severity → String
  | error => "error"
  | warning => "warning"

/-- What an issue points to at its node: an attribute, or an item of one of its lists. -/
inductive Place where
  | text (which : Attribute)
  | param (index : Nat)
  | field (index : Nat)
  deriving DecidableEq, Repr

namespace Place

/-- The name of the attribute that holds a place. -/
def label : Place → String
  | text which => which.label
  | param _ => "params"
  | field _ => "fields"

/-- The position of an item in its list. -/
def index? : Place → Option Nat
  | text _ => none
  | param index => some index
  | field index => some index

end Place

/-- Why a node has an issue. `label` is what the node is called. -/
inductive Cause where
  | missingFunction (label : String)
  | missingPolicy (label : String)
  | missingSubtreeReference (label : String)
  | missingWaitDuration (label : String)
  /-- A node without children; `single` says that it takes one child only. -/
  | noChildren (label : String) (single : Bool)
  | duplicateSubtreeName (name : String) (count : Nat)
  | duplicateBlackboardKey (key : String) (count : Nat) (index : Nat)
  | malformedNumber (detail : Detail) (text : String)
  | unknownBlackboardKey (key : String) (place : Place)
  | unknownSubtree (name : String)
  deriving DecidableEq, Repr

namespace Cause

/-- The code of a cause. -/
def code : Cause → String
  | missingFunction _ => "E2001"
  | missingPolicy _ => "E2002"
  | missingSubtreeReference _ => "E2003"
  | missingWaitDuration _ => "E2004"
  | noChildren .. => "E2005"
  | duplicateSubtreeName .. => "E2006"
  | duplicateBlackboardKey .. => "E2007"
  | malformedNumber .. => "W2101"
  | unknownBlackboardKey .. => "W2102"
  | unknownSubtree _ => "W2103"

/-- The severity of a cause. -/
def severity : Cause → Severity
  | malformedNumber .. | unknownBlackboardKey .. | unknownSubtree _ => .warning
  | _ => .error

/-- The place that a cause points to. -/
def place? : Cause → Option Place
  | missingFunction _ => some (.text .func)
  | missingPolicy _ => some (.text .policy)
  | missingSubtreeReference _ => some (.text (.detail .subtree))
  | missingWaitDuration _ => some (.text (.detail .waitDuration))
  | noChildren .. => none
  | duplicateSubtreeName .. => some (.text .name)
  | duplicateBlackboardKey _ _ index => some (.field index)
  | malformedNumber detail _ => some (.text (.detail detail))
  | unknownBlackboardKey _ place => some place
  | unknownSubtree _ => some (.text (.detail .subtree))

/-- What the number of a detail has to be. -/
def requirement : Detail → String
  | .repeaterCount => "Repeat count must be an integer >= -1 (-1 repeats forever)"
  | .timeoutDuration => "Timeout must be a number > 0"
  | .retryCount => "Retry count must be an integer >= 1"
  | .cooldownDuration => "Cooldown must be a number >= 0"
  | .waitDuration => "Wait duration must be a number >= 0"
  | .subtree => ""

/-- The wording of a cause. -/
def message : Cause → String
  | missingFunction label => label ++ " needs a function name"
  | missingPolicy label => label ++ " needs a parallel policy"
  | missingSubtreeReference label => label ++ " must name the subtree it references"
  | missingWaitDuration label => label ++ " needs a wait duration"
  | noChildren label single =>
    label ++ (if single then " node needs a child" else " node needs at least one child")
  | duplicateSubtreeName name count =>
    "Subtree name '" ++ name ++ "' is used by " ++ ofNat count ++ " subtree nodes"
  | duplicateBlackboardKey key count _ =>
    "Blackboard key '" ++ key ++ "' is defined " ++ ofNat count ++ " times"
  | malformedNumber detail text => requirement detail ++ " (got '" ++ text ++ "')"
  | unknownBlackboardKey key _ => "Blackboard key '" ++ key ++ "' is not defined"
  | unknownSubtree name => "No subtree named '" ++ name ++ "' exists"

end Cause

/-- An issue of a node. -/
structure Issue where
  node : Int
  cause : Cause
  deriving DecidableEq, Repr

namespace Issue

/-- The code of an issue. -/
def code (issue : Issue) : String := issue.cause.code

/-- The wording of an issue. -/
def message (issue : Issue) : String := issue.cause.message

/-- An issue with its code in brackets. -/
def text (issue : Issue) : String := "[" ++ issue.code ++ "] " ++ issue.message

end Issue
end BehaviorTree
