import BehaviorTree.Validation.Issue
import BehaviorTree.Decimal.Reader

/-!
# Validation

A validation looks at a graph and changes nothing. Errors flag nodes that cannot run as they are;
warnings point to attributes that will not do what they seem to say.

* Conditions and actions need a function, parallels a policy.
* A decorator needs a child, but for one that refers to a subtree, which needs the name of the
  subtree, and one that waits, which needs a duration. Composites and subtree holders need a child.
* Names of subtree holders, and keys of all blackboards together, are unique after trimming.
* Numeric details of decorators are numbers in their range, references name a blackboard key, and
  decorators that refer to a subtree name one that exists.

`Graph.validate` yields the `Report`.
-/

namespace BehaviorTree

open BehaviorTree.Text BehaviorTree.Decimal

/-- What a validation has found. The two lists of duplicates hold every occurrence, by the first
occurrence of the name or key. -/
structure Report where
  issues : List Issue := []
  warnings : List Issue := []
  duplicateNames : List (String × List Int) := []
  duplicateKeys : List (String × List (Int × Nat)) := []
  deriving DecidableEq, Repr, Inhabited

namespace Report

/-- Whether no node has an error. -/
def isClean (r : Report) : Bool := r.issues.isEmpty

/-- Whether a node has an error. -/
def hasError (r : Report) (id : Int) : Bool := r.issues.any fun issue => issue.node = id

/-- The ids of the nodes with an error, ascending, each once. -/
def erroredIds (r : Report) : List Int :=
  ((r.issues.map (·.node)).mergeSort fun a b => a ≤ b).eraseDups

/-- The errors and then the warnings of a node. -/
def issuesFor (r : Report) (id : Int) : List Issue :=
  (r.issues ++ r.warnings).filter fun issue => issue.node = id

/-- Whether a node shares its name with another subtree holder. -/
def isDuplicateSubtree (r : Report) (id : Int) : Bool :=
  r.duplicateNames.any fun group => group.2.contains id

end Report

namespace Validation

/-- Whether a text holds nothing but blanks. -/
def isBlankText (s : String) : Bool := (trim s).isEmpty

/-! ### Errors of a node -/

/-- What a node is called in the wording of an issue: its name, or its kind when it has none. -/
def callName (node : Node) : String := if node.name.isEmpty then node.kind.text else node.name

/-- The issue of a node without children. -/
def childIssue (node : Node) (hasChild : Bool) (single : Bool) : List Cause :=
  if hasChild then [] else [.noChildren (callName node) single]

/-- The error of a decorator. -/
def decoratorCauses (node : Node) (hasChild : Bool) : List Cause :=
  match node.decorator with
  | some .subtreeRef =>
    if isBlankText (node.detailText .subtree) then [.missingSubtreeReference (callName node)]
    else []
  | some .wait =>
    if isBlankText (node.detailText .waitDuration) then [.missingWaitDuration (callName node)]
    else []
  | _ => childIssue node hasChild true

/-- The errors of a node by itself. -/
def nodeCauses (node : Node) (hasChild : Bool) : List Cause :=
  (if node.kind.isLeaf && node.func.isEmpty then [.missingFunction (callName node)] else [])
    ++ (if node.kind = .parallel && node.policy.isEmpty then [.missingPolicy (callName node)]
      else [])
    ++ (if node.kind = .decorator then decoratorCauses node hasChild
      else if node.kind.requiresChildren then childIssue node hasChild false
      else [])

/-- Causes as issues of a node. -/
def issuesOf (node : Node) (causes : List Cause) : List Issue :=
  causes.map fun cause => ⟨node.id, cause⟩

/-! ### Duplicates -/

/-- Values gathered by their keys, by the first occurrence of the key. -/
def gatherByKey {α : Type} (pairs : List (String × α)) : List (String × List α) :=
  (pairs.map (·.1)).eraseDups.map fun key =>
    (key, (pairs.filter fun pair => pair.1 = key).map (·.2))

/-- The keys that occur more than once, with all occurrences. -/
def duplicates {α : Type} (pairs : List (String × α)) : List (String × List α) :=
  (gatherByKey pairs).filter fun group => 2 ≤ group.2.length

/-- The subtree holders by their trimmed names; empty names do not count. -/
def subtreeNames (g : Graph) : List (String × Int) :=
  ((g.ofKind .subtree).map fun node => (trim node.name, node.id)).filter fun pair => !pair.1.isEmpty

/-- The blackboard fields by their trimmed keys, each as its node and its place there; empty keys do
not count. -/
def blackboardKeys (g : Graph) : List (String × (Int × Nat)) :=
  ((g.ofKind .blackboard).flatMap fun node =>
    (node.fields.getD []).zipIdx.map fun (field, index) =>
      (trim field.key, (node.id, index))).filter fun pair => !pair.1.isEmpty

/-- The issues of a name that several subtree holders have. -/
def nameIssues (group : String × List Int) : List Issue :=
  group.2.map fun id => ⟨id, .duplicateSubtreeName group.1 group.2.length⟩

/-- The issues of a key that several blackboard fields have. -/
def keyIssues (group : String × List (Int × Nat)) : List Issue :=
  group.2.map fun (id, index) => ⟨id, .duplicateBlackboardKey group.1 group.2.length index⟩

/-! ### Numbers -/

/-- The integer of some digits. -/
def digitsInteger (digits : List Nat) : Except Fault Nat :=
  match natOfDigits digits with
  | .ok n => .ok n
  | .error (.tooLong count) => .error (.numeralTooLong count)
  | .error .malformed => .ok 0

/-- Reads a text that holds one digit or more and nothing else. -/
def digitsOnly? (cs : List Char) : Option (List Nat) :=
  if cs.isEmpty then none else allDigits? digit? cs

/-- Reads digits with an optional fraction, which starts with a point and is not empty. -/
def plainNumber? (cs : List Char) : Option Float :=
  match spanDigits digit? cs with
  | ([], _) => none
  | (whole, []) => some (Written.toFloat ⟨whole, 0, 0⟩)
  | (whole, '.' :: rest) =>
    (digitsOnly? rest).map fun fraction => Written.toFloat ⟨whole ++ fraction, fraction.length, 0⟩
  | _ => none

/-- Whether a text is an integer from minus one on. -/
def isRepeatCount (cs : List Char) : Except Fault Bool :=
  match cs with
  | '-' :: body =>
    match digitsOnly? body with
    | some digits => do return (← digitsInteger digits) ≤ 1
    | none => .ok false
  | _ =>
    match digitsOnly? cs with
    | some digits => do
      let _ ← digitsInteger digits
      return true
    | none => .ok false

/-- Whether a text is an integer from one on. -/
def isRetryCount (cs : List Char) : Except Fault Bool :=
  match digitsOnly? cs with
  | some digits => do return 1 ≤ (← digitsInteger digits)
  | none => .ok false

/-- Whether the text of a detail is a number in its range. -/
def isInRange : Detail → List Char → Except Fault Bool
  | .repeaterCount, cs => isRepeatCount cs
  | .retryCount, cs => isRetryCount cs
  | .timeoutDuration, cs => .ok ((plainNumber? cs).any fun x => 0.0 < x)
  | .cooldownDuration, cs | .waitDuration, cs => .ok (plainNumber? cs).isSome
  | .subtree, _ => .ok true

/-! ### Warnings -/

/-- The attributes that may hold a reference, in the order in which they are looked at. -/
def referenceAttributes : List Attribute :=
  [.func, .policy, .detail .timeoutDuration, .detail .cooldownDuration, .detail .waitDuration,
   .detail .repeaterCount, .detail .retryCount, .detail .subtree]

/-- The details that hold numbers, in the order in which they are looked at. -/
def numericDetails : List Detail :=
  [.repeaterCount, .timeoutDuration, .retryCount, .cooldownDuration, .waitDuration]

/-- The warning of a reference to a key that no blackboard defines. -/
def referenceCauses (r : Resolver) (place : Place) (text : String) : List Cause :=
  if isReference text && !r.isKnown (dropFirst text) then
    [.unknownBlackboardKey (dropFirst text) place]
  else []

/-- The warnings of the arguments of a node. -/
def paramCauses (r : Resolver) (node : Node) : List Cause :=
  (node.params.getD []).zipIdx.flatMap fun (param, index) =>
    referenceCauses r (.param index) param.value

/-- The warning of a numeric detail: what is neither empty nor a reference has to be in range. -/
def numberCauses (node : Node) (detail : Detail) : Except Fault (List Cause) := do
  let text := trim (node.detailText detail)
  if text.isEmpty || isReference text then return []
  else if ← isInRange detail text.toList then return []
  else return [.malformedNumber detail text]

/-- The warning of a decorator that refers to a subtree by a name that no holder has. -/
def subtreeCauses (names : List String) (node : Node) : List Cause :=
  let name := trim (node.detailText .subtree)
  if node.decorator = some .subtreeRef && !name.isEmpty && !isReference name && !names.contains name
  then [.unknownSubtree name]
  else []

/-- The warnings of a node. -/
def warningCauses (r : Resolver) (names : List String) (node : Node) :
    Except Fault (List Cause) := do
  let numbers ← numericDetails.mapM (numberCauses node)
  return referenceAttributes.flatMap (fun which => referenceCauses r (.text which) (which.get node))
    ++ paramCauses r node ++ numbers.flatten ++ subtreeCauses names node

/-- The warnings of a graph, node by node. -/
def warnings (g : Graph) : Except Fault (List Issue) := do
  let r := Resolver.ofGraph g
  let names := (g.ofKind .subtree).map fun node => trim node.name
  let found ← g.nodes.mapM fun node => do return issuesOf node (← warningCauses r names node)
  return found.flatten

end Validation

/-- The errors of a graph: node by node, then the duplicate names, then the duplicate keys. -/
def Graph.errors (g : Graph) : List Issue :=
  (g.nodes.flatMap fun node =>
      Validation.issuesOf node (Validation.nodeCauses node (g.hasChild node.id)))
    ++ (Validation.duplicates (Validation.subtreeNames g)).flatMap Validation.nameIssues
    ++ (Validation.duplicates (Validation.blackboardKeys g)).flatMap Validation.keyIssues

/-- Validates a graph; warnings are only looked for when they are asked for. -/
def Graph.validate (g : Graph) (warnings : Bool) : Except Fault Report := do
  let found ← if warnings then Validation.warnings g else pure []
  return {
    issues := g.errors
    warnings := found
    duplicateNames := Validation.duplicates (Validation.subtreeNames g)
    duplicateKeys := Validation.duplicates (Validation.blackboardKeys g) }

end BehaviorTree
