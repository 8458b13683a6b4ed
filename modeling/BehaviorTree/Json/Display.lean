import BehaviorTree.Json.Value
import BehaviorTree.Decimal.Layout
import BehaviorTree.Text.Printable

/-!
# The text of a value

A raw graph may hold any value where a text belongs, and an attribute may be set to a number or a
truth value. Such a value is turned into its display text: a text stands for itself, a number is
written out, and a list or an object is shown in brackets with its texts quoted. A value that holds
an integer too long to be written out has no text.
-/

namespace BehaviorTree

open BehaviorTree.Text BehaviorTree.Decimal

/-- The text of a number. -/
def Number.display : Number → String
  | .int n => ofInt n
  | .float x => Layout.script.text x

namespace Json

/-- A character inside quotes: the quote, the backslash and what has no glyph are escaped. -/
def quoteChar (quote c : Char) : List Char :=
  if c = quote ∨ c = '\\' then ['\\', c]
  else if c = '\n' then ['\\', 'n']
  else if c = '\r' then ['\\', 'r']
  else if c = '\t' then ['\\', 't']
  else if isPrintable c then [c]
  else if c.toNat < 0x100 then '\\' :: 'x' :: hex 2 c.toNat
  else if c.toNat < 0x10000 then '\\' :: 'u' :: hex 4 c.toNat
  else '\\' :: 'U' :: hex 8 c.toNat

/-- A text in single quotes, or in double quotes when it holds single quotes and no double ones. -/
def quoted (s : String) : String :=
  let cs := s.toList
  let quote := if cs.contains '\'' && !cs.contains '"' then '"' else '\''
  String.ofList (quote :: (cs.flatMap (quoteChar quote) ++ [quote]))

mutual

/-- The display of a value inside a list or an object. -/
def nested : Json → String
  | .null => "None"
  | .bool b => if b then "True" else "False"
  | .number n => n.display
  | .text s => quoted s
  | .array items => "[" ++ ", ".intercalate (nestedItems items) ++ "]"
  | .object fields => "\x7b" ++ ", ".intercalate (nestedFields fields) ++ "\x7d"

/-- The displays of the items of a list. -/
def nestedItems : List Json → List String
  | [] => []
  | item :: rest => nested item :: nestedItems rest

/-- The displays of the fields of an object. -/
def nestedFields : List (String × Json) → List String
  | [] => []
  | (key, value) :: rest => (quoted key ++ ": " ++ nested value) :: nestedFields rest

end

mutual

/-- Whether all integers in a value may be written out. -/
def hasText : Json → Bool
  | .number (.int n) => isWritable n
  | .array items => itemsHaveText items
  | .object fields => fieldsHaveText fields
  | _ => true

/-- Whether all integers in the items of a list may be written out. -/
def itemsHaveText : List Json → Bool
  | [] => true
  | item :: rest => item.hasText && itemsHaveText rest

/-- Whether all integers in the fields of an object may be written out. -/
def fieldsHaveText : List (String × Json) → Bool
  | [] => true
  | (_, value) :: rest => value.hasText && fieldsHaveText rest

end

/-- The display of a value: a text stands for itself. -/
def display : Json → String
  | .text s => s
  | value => nested value

/-- The text that a value stands for where a text belongs; null stands for the empty text. -/
def asText : Json → String
  | .null => ""
  | value => value.display

end Json
end BehaviorTree
