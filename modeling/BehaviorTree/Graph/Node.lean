/-!
# Nodes

A node of a behavior tree as a designer edits it: a kind, a position on the canvas, free-text
attributes, and what only some kinds use. What a kind does not use stays unset (`none`), which is
not the same as empty: only what is set is saved.

* `NodeKind`, `DecoratorKind`: the closed vocabularies, with their texts.
* `Node`: the node.
* `Attribute`: the attributes that a designer edits as text.
* `clampPosition`: keeps a node inside the world.
-/

namespace BehaviorTree

/-! ### Kinds -/

/-- The kinds of node on the canvas. -/
inductive NodeKind where
  | sequence
  | fallback
  | parallel
  | condition
  | action
  | decorator
  | subtree
  | blackboard
  | wait
  deriving DecidableEq, Repr, Inhabited

namespace NodeKind

/-- All kinds, in the order in which they are offered. -/
def all : List NodeKind :=
  [sequence, fallback, parallel, condition, action, decorator, subtree, blackboard, wait]

/-- The text that stands for a kind in documents and scripts. -/
def text : NodeKind → String
  | sequence => "SEQUENCE"
  | fallback => "FALLBACK"
  | parallel => "PARALLEL"
  | condition => "CONDITION"
  | action => "ACTION"
  | decorator => "DECORATOR"
  | subtree => "SUBTREE"
  | blackboard => "BLACKBOARD"
  | wait => "WAIT"

/-- The kind that a text stands for. -/
def ofText? (s : String) : Option NodeKind := all.find? fun kind => kind.text = s

/-- The name of a node that was given none. -/
def defaultName : NodeKind → String
  | sequence => "Sequence"
  | fallback => "Fallback"
  | parallel => "Parallel"
  | condition => "Condition"
  | action => "Action"
  | decorator => "Decorator"
  | subtree => "Subtree"
  | blackboard => "Blackboard"
  | wait => "Wait"

/-- A kind that runs its children in order. -/
def isComposite : NodeKind → Bool
  | sequence | fallback | parallel => true
  | _ => false

/-- A kind that never has children. -/
def isLeaf : NodeKind → Bool
  | condition | action => true
  | _ => false

/-- A kind with at most one child. -/
def isSingleChild : NodeKind → Bool
  | decorator | subtree => true
  | _ => false

/-- A kind for which it is an error to have no children. -/
def requiresChildren : NodeKind → Bool
  | sequence | fallback | parallel | subtree => true
  | _ => false

theorem ofText?_text (kind : NodeKind) : ofText? kind.text = some kind := by
  cases kind <;> decide

end NodeKind

/-- The behaviors of a decorator node. -/
inductive DecoratorKind where
  | inverter
  | repeater
  | timeout
  | retry
  | cooldown
  | wait
  | once
  | alwaysSuccess
  | alwaysFailure
  | untilSuccess
  | untilFailure
  | subtreeRef
  | conditionInterrupt
  deriving DecidableEq, Repr, Inhabited

/-- The attributes that only decorators have. -/
inductive Detail where
  | repeaterCount
  | timeoutDuration
  | retryCount
  | cooldownDuration
  | waitDuration
  | subtree
  deriving DecidableEq, Repr

namespace Detail

/-- All details, in the order in which they are saved. -/
def all : List Detail :=
  [repeaterCount, timeoutDuration, retryCount, cooldownDuration, waitDuration, subtree]

/-- The name under which a detail is edited. -/
def name : Detail → String
  | repeaterCount => "repeater_count"
  | timeoutDuration => "timeout_duration"
  | retryCount => "retry_count"
  | cooldownDuration => "cooldown_duration"
  | waitDuration => "wait_duration"
  | subtree => "subtree"

/-- The key under which a detail is saved. -/
def key : Detail → String
  | repeaterCount => "repeaterCount"
  | timeoutDuration => "timeoutDuration"
  | retryCount => "retryCount"
  | cooldownDuration => "cooldownDuration"
  | waitDuration => "waitDuration"
  | subtree => "subtree"

end Detail

namespace DecoratorKind

/-- All behaviors, in the order in which they are offered. -/
def all : List DecoratorKind :=
  [inverter, repeater, timeout, retry, cooldown, wait, once, alwaysSuccess, alwaysFailure,
   untilSuccess, untilFailure, subtreeRef, conditionInterrupt]

/-- The text that stands for a behavior in documents and scripts. -/
def text : DecoratorKind → String
  | inverter => "INVERTER"
  | repeater => "REPEATER"
  | timeout => "TIMEOUT"
  | retry => "RETRY"
  | cooldown => "COOLDOWN"
  | wait => "WAIT"
  | once => "ONCE"
  | alwaysSuccess => "ALWAYS_SUCCESS"
  | alwaysFailure => "ALWAYS_FAILURE"
  | untilSuccess => "UNTIL_SUCCESS"
  | untilFailure => "UNTIL_FAILURE"
  | subtreeRef => "SUBTREE_REF"
  | conditionInterrupt => "CONDITION_INTERRUPT"

/-- The behavior that a text stands for. -/
def ofText? (s : String) : Option DecoratorKind := all.find? fun kind => kind.text = s

/-- The detail that a behavior needs, if it needs one. -/
def detail? : DecoratorKind → Option Detail
  | repeater => some .repeaterCount
  | timeout => some .timeoutDuration
  | retry => some .retryCount
  | cooldown => some .cooldownDuration
  | wait => some .waitDuration
  | subtreeRef => some .subtree
  | _ => none

theorem ofText?_text (kind : DecoratorKind) : ofText? kind.text = some kind := by
  cases kind <;> decide

end DecoratorKind

/-! ### Nodes -/

/-- A named argument of a node's function. Names may repeat. -/
structure Param where
  name : String := ""
  value : String := ""
  deriving DecidableEq, Repr, Inhabited

/-- An entry of a blackboard. -/
structure Field where
  key : String := ""
  value : String := ""
  comment : String := ""
  deriving DecidableEq, Repr, Inhabited

/-- A node on the canvas. -/
structure Node where
  id : Int
  kind : NodeKind
  name : String := ""
  x : Float := 0.0
  y : Float := 0.0
  func : String := ""
  policy : String := ""
  comment : String := ""
  params : Option (List Param) := none
  decorator : Option DecoratorKind := none
  repeaterCount : Option String := none
  timeoutDuration : Option String := none
  retryCount : Option String := none
  cooldownDuration : Option String := none
  waitDuration : Option String := none
  subtree : Option String := none
  fields : Option (List Field) := none
  deriving DecidableEq, Repr, Inhabited

namespace Node

/-- The text of a node's type in scripts: its decorator behavior when it has one. -/
def effectiveType (node : Node) : String :=
  match node.decorator with
  | some kind => kind.text
  | none => node.kind.text

/-- Whether a node takes a list of arguments. -/
def acceptsParams (node : Node) : Bool :=
  node.kind.isLeaf || (node.kind = .decorator && node.decorator = some .conditionInterrupt)

/-- The value of a detail. -/
def detail (node : Node) : Detail → Option String
  | .repeaterCount => node.repeaterCount
  | .timeoutDuration => node.timeoutDuration
  | .retryCount => node.retryCount
  | .cooldownDuration => node.cooldownDuration
  | .waitDuration => node.waitDuration
  | .subtree => node.subtree

/-- The text of a detail, empty when it is unset. -/
def detailText (node : Node) (detail : Detail) : String := (node.detail detail).getD ""

/-- Sets a detail. -/
def setDetail (node : Node) (value : String) : Detail → Node
  | .repeaterCount => { node with repeaterCount := some value }
  | .timeoutDuration => { node with timeoutDuration := some value }
  | .retryCount => { node with retryCount := some value }
  | .cooldownDuration => { node with cooldownDuration := some value }
  | .waitDuration => { node with waitDuration := some value }
  | .subtree => { node with subtree := some value }

end Node

/-! ### Attributes -/

/-- The attributes that are edited as text. -/
inductive Attribute where
  | name
  | func
  | policy
  | comment
  | detail (d : Detail)
  deriving DecidableEq, Repr

namespace Attribute

/-- All attributes. -/
def all : List Attribute := [name, func, policy, comment] ++ Detail.all.map detail

/-- The name under which an attribute is edited. -/
def label : Attribute → String
  | name => "name"
  | func => "func"
  | policy => "policy"
  | comment => "comment"
  | detail d => d.name

/-- The attribute of a name. -/
def ofLabel? (s : String) : Option Attribute := all.find? fun candidate => candidate.label = s

/-- The text of an attribute, empty when it is unset. -/
def get (node : Node) : Attribute → String
  | name => node.name
  | func => node.func
  | policy => node.policy
  | comment => node.comment
  | detail d => node.detailText d

/-- Sets an attribute. -/
def set (node : Node) (value : String) : Attribute → Node
  | name => { node with name := value }
  | func => { node with func := value }
  | policy => { node with policy := value }
  | comment => { node with comment := value }
  | detail d => node.setDetail value d

theorem get_set (node : Node) (value : String) (which : Attribute) :
    which.get (which.set node value) = value := by
  cases which with
  | detail d => cases d <;> rfl
  | _ => rfl

theorem id_set (node : Node) (value : String) (which : Attribute) :
    (which.set node value).id = node.id := by
  cases which with
  | detail d => cases d <;> rfl
  | _ => rfl

end Attribute

/-! ### The world -/

/-- The least coordinate of the world. -/
def worldMin : Float := -2000.0

/-- The greatest coordinate of the world. -/
def worldMax : Float := 2000.0

/-- The width of a node. -/
def nodeWidth : Float := 180.0

/-- The height of a node. -/
def nodeHeight : Float := 80.0

/-- The number nearest to `x` between two bounds; an undefined number becomes the upper one. -/
def clamp (low high x : Float) : Float :=
  let capped := if x < high then x else high
  if low < capped then capped else low

/-- The position nearest to the given one at which a node lies inside the world. -/
def clampPosition (x y : Float) : Float × Float :=
  (clamp worldMin (worldMax - nodeWidth) x, clamp worldMin (worldMax - nodeHeight) y)

end BehaviorTree
