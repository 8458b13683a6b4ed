import BehaviorTree.Text.CellWidth
import BehaviorTree.Text.Emoji

/-!
# Markup

What the program prints is markup: a tag in brackets such as `[red]` styles the text behind it, and
a code between colons stands for an emoji, which `named` finds by its name. A backslash before a tag
makes it plain text, and doubled backslashes before it are backslashes. Foreign text is escaped
before it is put into markup.

* `Markup.escape`: the markup of a plain text.
* `Markup.plain`: what markup looks like without its styles.
-/

namespace BehaviorTree.CommandLine.Markup

open BehaviorTree.Text

/-! ### Tags -/

/-- The characters that a tag may start with. -/
def isTagStart (c : Char) : Bool := c.isLower || c = '#' || c = '/' || c = '@'

/-- Whether the text behind an opening bracket makes a tag of it: the bracket is closed before
another one is opened. -/
def startsTag : List Char → Bool
  | [] => false
  | c :: cs => isTagStart c && (cs.find? fun d => d = '[' || d = ']') = some ']'

/-- Backslashes. -/
def slashes (count : Nat) : List Char := List.replicate count '\\'

/-! ### Escaping -/

/-- Escapes a text behind some backslashes. One before a tag is doubled, as is a single one at the
end of the text. -/
def escapeFrom (count : Nat) : List Char → List Char
  | [] => slashes (if count = 1 then 2 else count)
  | c :: cs =>
    if c = '\\' then escapeFrom (count + 1) cs
    else if c = '[' ∧ startsTag cs then slashes (2 * count + 1) ++ c :: escapeFrom 0 cs
    else slashes count ++ c :: escapeFrom 0 cs

/-- The markup of a plain text. -/
def escape (s : String) : String := String.ofList (escapeFrom 0 s.toList)

/-! ### Segments -/

/-- Puts characters in front of the first of some segments. -/
def extend (front : List Char) : List (List Char) → List (List Char)
  | [] => [front]
  | segment :: rest => (front ++ segment) :: rest

/-- The plain segments between the tags of a markup, behind some backslashes. A bracket that is
escaped without being a tag loses its last backslash. `skip` characters belong to a tag that has
been read. -/
def segmentsFrom (count : Nat) : (skip : Nat) → List Char → List (List Char)
  | _, [] => [slashes count]
  | skip + 1, _ :: cs => segmentsFrom count skip cs
  | 0, c :: cs =>
    if c = '\\' then segmentsFrom (count + 1) 0 cs
    else if c = '[' ∧ startsTag cs then
      let name := cs.takeWhile (· ≠ ']')
      let rest := segmentsFrom 0 (name.length + 1) cs
      let escaped := if count % 2 = 1 then [c :: name ++ [']']] else []
      [] :: slashes (count / 2) :: (escaped ++ rest)
    else if c = '[' then extend (slashes (count - 1) ++ [c]) (segmentsFrom 0 0 cs)
    else extend (slashes count ++ [c]) (segmentsFrom 0 0 cs)

/-! ### Text -/

/-- The control characters that are not printed: bell, backspace, vertical tab, form feed and
carriage return. -/
def isSilent (c : Char) : Bool := [0x07, 0x08, 0x0B, 0x0C, 0x0D].contains c.toNat

/-- What markup looks like without its styles. -/
def plainChars (named : String → Option String) (cs : List Char) : List Char :=
  ((segmentsFrom 0 0 cs).flatMap (Emoji.replaceCodes named)).filter fun c => !isSilent c

/-- The distance of tab stops. -/
def tabWidth : Nat := 8

/-- A text with its tabs filled up to the next stop. `column` is the cell that it starts at. -/
def expandTabs (column : Nat) : List Char → List Char
  | [] => []
  | c :: cs =>
    if c = '\t' then
      let count := tabWidth - column % tabWidth
      List.replicate count ' ' ++ expandTabs (column + count) cs
    else if c = '\n' then c :: expandTabs 0 cs
    else c :: expandTabs (column + cellWidth c) cs

/-- The text that is printed for a markup. -/
def plain (named : String → Option String) (s : String) : String :=
  String.ofList (expandTabs 0 (plainChars named s.toList))

/-! ### Checks -/

example : escape "a\\[b]" = "a\\\\\\[b]" := by decide
example : plain (fun _ => none) (escape "a\\[b]") = "a\\[b]" := by decide
example : plain (fun _ => none) "[red]No[/red] \\[" = "No [" := by decide
example : plain (fun _ => some "x") ":bug: a:" = "x a:" := by decide

end BehaviorTree.CommandLine.Markup
