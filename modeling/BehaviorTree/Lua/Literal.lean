import BehaviorTree.Decimal.Layout
import BehaviorTree.Decimal.Reader
import BehaviorTree.Decimal.Whole
import BehaviorTree.Reference

/-!
# Lua literals

Designer text becomes a Lua scalar: a number where the text is one, a truth value, and a quoted text
otherwise. A reference becomes a descriptor, which the game looks up when the tree runs.

* `quote`: the quoted form of a text.
* `Scalar`: a text, a number or a truth value; `Scalar.ofText` reads designer text.
* `Leaf`: the values of a script that are no tables of their own.
-/

namespace BehaviorTree.Lua

open BehaviorTree.Text BehaviorTree.Decimal

/-! ### Texts -/

/-- The three decimal digits of a character code. -/
def codeDigits (code : Nat) : List Char :=
  [Nat.digitChar (code / 100 % 10), Nat.digitChar (code / 10 % 10), Nat.digitChar (code % 10)]

/-- The written form of a character inside quotes. Control characters are written with three digits,
so that a digit behind them is no part of the escape. -/
def escape (c : Char) : List Char :=
  if c = '\\' then ['\\', '\\']
  else if c = '"' then ['\\', '"']
  else if c = '\n' then ['\\', 'n']
  else if c = '\r' then ['\\', 'r']
  else if c = '\t' then ['\\', 't']
  else if c.toNat < 32 ∨ c.toNat = 127 then '\\' :: codeDigits c.toNat
  else [c]

/-- The quoted form of a list of characters. -/
def quoteChars (cs : List Char) : List Char := '"' :: (cs.flatMap escape ++ ['"'])

/-- The quoted form of a text. -/
def quote (s : String) : String := String.ofList (quoteChars s.toList)

/-! ### Identifiers -/

/-- A letter of the ASCII range, or the underscore. -/
def isNameStart (c : Char) : Bool := c.isAlpha || c = '_'

/-- A letter or digit of the ASCII range, or the underscore. -/
def isNameChar (c : Char) : Bool := c.isAlphanum || c = '_'

/-- The form of an identifier. -/
def isIdentifierForm : List Char → Bool
  | c :: rest => isNameStart c && rest.all isNameChar
  | [] => false

/-- Whether a text is an identifier. A line feed may end it. -/
def isIdentifier (s : String) : Bool := matchesLine isIdentifierForm s.toList

/-! ### Scalars -/

/-- A Lua value without parts. -/
inductive Scalar where
  | text (s : String)
  | number (x : Float)
  | boolean (b : Bool)
  deriving DecidableEq, Repr

/-- The numeral of a double: a whole number below 10^21 is written without a point. -/
def numeral (x : Float) : List Char :=
  match truncate? x with
  | some n =>
    if isWhole x ∧ n.natAbs < 1000000000000000000000 then (ofInt n).toList
    else Layout.script.chars x
  | none => Layout.script.chars x

/-- The number that a text stands for, if it has the form of one and is finite. The form allows all
blanks around a number, but no number is read where information separators are among them; such a
text is a fault. -/
def number? (s : String) : Except Fault (Option Float) :=
  let cs := s.toList
  let (negative, body) := takeSign (trimChars isBlank cs)
  match readUnsigned? digit? body with
  | none => .ok none
  | some written =>
    if trimChars isSpace cs ≠ trimChars isBlank cs then .error .unreadableNumber
    else
      let x := signed negative written.toFloat
      .ok (if x.isInf then none else some x)

/-- The truth value of a text, in any case. -/
def boolean? (s : String) : Option Bool :=
  let lower := s.toLower
  if lower = "true" then some true else if lower = "false" then some false else none

/-- The scalar that designer text stands for. -/
def Scalar.ofText (s : String) : Except Fault Scalar := do
  match ← number? s with
  | some x => return .number x
  | none => return match boolean? s with
    | some b => .boolean b
    | none => .text s

/-- The written form of a scalar. -/
def Scalar.write : Scalar → List Char
  | .text s => quoteChars s.toList
  | .number x => numeral x
  | .boolean b => if b then "true".toList else "false".toList

/-! ### Leaves -/

/-- The name groups of the game's table `BT`. -/
inductive Group where
  | nodeType
  | parallelPolicy
  | messageType
  deriving DecidableEq, Repr

/-- The name of a group in a script. -/
def Group.name : Group → String
  | nodeType => "NodeType"
  | parallelPolicy => "ParallelPolicy"
  | messageType => "MessageType"

/-- A value of a script that is no table of its own. -/
inductive Leaf where
  | nil
  | scalar (s : Scalar)
  /-- A name of a group, written behind a point. -/
  | member (group : Group) (name : String)
  /-- A name of a group, written in brackets. -/
  | indexed (group : Group) (name : String)
  /-- A module of the game, by its path. -/
  | module (path : String)
  /-- A blackboard key that is looked up when the tree runs, and its default if there is one. -/
  | descriptor (key : String) (default : Option Scalar)
  deriving DecidableEq, Repr

namespace Leaf

/-- The leaf of a resolved attribute. An empty default is left out. -/
def ofResolved : Resolved → Except Fault Leaf
  | .literal text => do return .scalar (← Scalar.ofText text)
  | .reference key none => .ok (.descriptor key none)
  | .reference key (some default) =>
    if default.isEmpty then .ok (.descriptor key none)
    else do return .descriptor key (some (← Scalar.ofText default))

/-- The written form of a group. -/
def writeGroup (group : Group) : List Char := ("BT." ++ group.name).toList

/-- The written form of a leaf. -/
def write : Leaf → List Char
  | nil => "nil".toList
  | scalar s => s.write
  | member group name => writeGroup group ++ '.' :: name.toList
  | indexed group name => writeGroup group ++ '[' :: (quoteChars name.toList ++ [']'])
  | module path => "require ".toList ++ quoteChars path.toList
  | descriptor key default =>
    '\x7b' :: (writeGroup .messageType ++ ".BLACKBOARD, ".toList ++ quoteChars key.toList
      ++ (match default with
        | some s => ", ".toList ++ s.write
        | none => [])
      ++ ['\x7d'])

end Leaf

/-! ### Checks -/

example : quote "a\"b\\\n\x019" = "\"a\\\"b\\\\\\n\\0019\"" := by decide
example : (number? " 1.50 ").toOption = some (some 1.5) := by decide +kernel
example : String.ofList (numeral 1e21) = "1e+21" := by decide
example : String.ofList (numeral (-0.0)) = "0" := by decide +kernel

end BehaviorTree.Lua
