import BehaviorTree.Json.Value
import BehaviorTree.Decimal.Layout
import BehaviorTree.Text.Printable

/-!
# Writing a document text

Two forms: compact, without blanks, and indented, with one item or field a line. Only the quote, the
backslash and the control characters of a text are escaped. A number that is not finite has no
written form and becomes null.

* `Json.write`: the characters of a value at a level of nesting.
* `Json.render`: the text of a whole value.
-/

namespace BehaviorTree.Json

open BehaviorTree.Text BehaviorTree.Decimal

/-- The written form of a character inside a text. -/
def escapeChar (c : Char) : List Char :=
  if c = '"' then ['\\', '"']
  else if c = '\\' then ['\\', '\\']
  else if c = '\x08' then ['\\', 'b']
  else if c = '\t' then ['\\', 't']
  else if c = '\n' then ['\\', 'n']
  else if c = '\x0c' then ['\\', 'f']
  else if c = '\r' then ['\\', 'r']
  else if c.toNat < 0x20 then '\\' :: 'u' :: hex 4 c.toNat
  else [c]

/-- The written form of a text. -/
def writeText (s : String) : List Char := '"' :: (s.toList.flatMap escapeChar ++ ['"'])

/-- The written form of a number. -/
def writeNumber : Number → List Char
  | .int n => (ofInt n).toList
  | .float x => if x.isFinite then Layout.document.chars x else "null".toList

/-- The line break before an item at a level; the compact form has none. -/
def lineBreak (indent : Option Nat) (level : Nat) : List Char :=
  match indent with
  | none => []
  | some width => '\n' :: List.replicate (width * level) ' '

/-- What stands between a key and its value. -/
def keyEnd (indent : Option Nat) : List Char :=
  match indent with
  | none => [':']
  | some _ => [':', ' ']

mutual

/-- The characters of a value at a level of nesting. -/
def write (indent : Option Nat) (level : Nat) : Json → List Char
  | .null => "null".toList
  | .bool b => if b then "true".toList else "false".toList
  | .number n => writeNumber n
  | .text s => writeText s
  | .array [] => ['[', ']']
  | .array (item :: rest) =>
    '[' :: (lineBreak indent (level + 1) ++ write indent (level + 1) item
      ++ writeItems indent (level + 1) rest ++ lineBreak indent level ++ [']'])
  | .object [] => ['\x7b', '\x7d']
  | .object ((key, value) :: rest) =>
    '\x7b' :: (lineBreak indent (level + 1) ++ writeText key ++ keyEnd indent
      ++ write indent (level + 1) value ++ writeFields indent (level + 1) rest
      ++ lineBreak indent level ++ ['\x7d'])

/-- The items of a list behind the first, each with the comma before it. -/
def writeItems (indent : Option Nat) (level : Nat) : List Json → List Char
  | [] => []
  | item :: rest =>
    ',' :: (lineBreak indent level ++ write indent level item ++ writeItems indent level rest)

/-- The fields of an object behind the first, each with the comma before it. -/
def writeFields (indent : Option Nat) (level : Nat) : List (String × Json) → List Char
  | [] => []
  | (key, value) :: rest =>
    ',' :: (lineBreak indent level ++ writeText key ++ keyEnd indent
      ++ write indent level value ++ writeFields indent level rest)

end

/-- The text of a value, compact or with the given width of indentation. -/
def render (indent : Option Nat) (value : Json) : String := String.ofList (write indent 0 value)

end BehaviorTree.Json
