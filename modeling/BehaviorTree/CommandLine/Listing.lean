import BehaviorTree.CommandLine.Markup

/-!
# Listings

A listing is a table inside a frame, with a title above it. Each column is as wide as its widest
cell, and the title is broken into lines as wide as the frame. A line feed in a cell makes the row
take several lines. A cell may turn out wider than it was measured, since a tab is measured without
the blanks that it is filled up to; such a cell is broken between words, and a word that is still
too wide is cut.

* `Listing.titleLines`, `Listing.headLines`, `Listing.bodyLines`: the lines of a listing by cells.
* `Listing.render`: the text of a listing.
-/

namespace BehaviorTree.CommandLine

open BehaviorTree.Text

/-! ### Lines of a cell -/

/-- Splits a text at the characters of a class. -/
def splitAtChars (p : Char → Bool) : List Char → List (List Char)
  | [] => [[]]
  | c :: cs =>
    if p c then [] :: splitAtChars p cs
    else Markup.extend [c] (splitAtChars p cs)

/-- The characters that end a line where the width of a text is measured. -/
def isLineEnd (c : Char) : Bool :=
  c = '\n' || (0x1C ≤ c.toNat && c.toNat ≤ 0x1E) || [0x85, 0x2028, 0x2029].contains c.toNat

/-- The width of the widest line of a text. -/
def measure (cs : List Char) : Nat :=
  ((splitAtChars isLineEnd cs).map width).foldl max 0

/-- A text without the blanks at its end. -/
def trimEnd (cs : List Char) : List Char := (cs.reverse.dropWhile isBlank).reverse

/-- Splits a text behind its blanks. -/
def groups : List Char → List (List Char)
  | [] => []
  | c :: cs =>
    match groups cs with
    | [] => [[c]]
    | group :: rest =>
      if isBlank c && !(group.head?.any isBlank) then [c] :: group :: rest
      else (c :: group) :: rest

/-- The words of a text, each with the blanks behind it, and the first with those before it. -/
def words (cs : List Char) : List (List Char) :=
  match groups cs with
  | first :: second :: rest =>
    if first.all isBlank then (first ++ second) :: rest else first :: second :: rest
  | few => few

/-! ### Breaking lines -/

/-- A text that is being broken into lines: the complete ones, last first, and the current one with
its width. -/
structure Broken where
  complete : List (List Char) := []
  current : List Char := []
  used : Nat := 0
  deriving Repr

namespace Broken

/-- Starts a line with a text. -/
def start (b : Broken) (cs : List Char) : Broken :=
  if b.current.isEmpty then { b with current := cs, used := width cs }
  else ⟨b.current :: b.complete, cs, width cs⟩

/-- The pieces of a word, each as long as fits. -/
def pieces (limit : Nat) : (used : Nat) → (piece : List Char) → List Char → List (List Char)
  | _, piece, [] => [piece]
  | used, piece, c :: cs =>
    if limit < used + cellWidth c then piece :: pieces limit (cellWidth c) [c] cs
    else pieces limit (used + cellWidth c) (piece ++ [c]) cs

/-- Adds a word: to the current line if it fits, otherwise to a new one. Where `split` is set a word
wider than a line is split. -/
def add (split : Bool) (limit : Nat) (b : Broken) (word : List Char) : Broken :=
  let size := width (trimEnd word)
  if b.used + size ≤ limit then
    { b with current := b.current ++ word, used := b.used + width word }
  else if split ∧ limit < size then (pieces limit 0 [] word).foldl start b
  else b.start word

/-- All lines. -/
def lines (b : Broken) : List (List Char) := (b.current :: b.complete).reverse

end Broken

/-- A line broken into lines of a width. -/
def breakLine (split : Bool) (limit : Nat) (cs : List Char) : List (List Char) :=
  ((words cs).foldl (Broken.add split limit) {}).lines

/-- As many characters as fit, and blanks where half of a wide one would. -/
def crop : (room : Nat) → List Char → List Char
  | _, [] => []
  | room, c :: cs =>
    if cellWidth c ≤ room then c :: crop (room - cellWidth c) cs else List.replicate room ' '

/-- A line that has at most a width: blanks at its end are left out as far as it is longer, and an
ellipsis stands for what is cut. -/
def fitLine (limit : Nat) (cs : List Char) : List Char :=
  let blanks := cs.length - (trimEnd cs).length
  let cs := cs.take (cs.length - min blanks (cs.length - limit))
  if limit < width cs then crop (limit - 1) cs ++ ['…'] else cs

/-- The lines of a cell of a width. -/
def cellLines (limit : Nat) (cell : List Char) : List (List Char) :=
  ((splitAtChars (· = '\n') (Markup.expandTabs 0 cell)).flatMap (breakLine false limit)).map
    (fitLine limit)

/-! ### Listings -/

/-- A column of a listing. -/
structure Column where
  head : String
  /-- Whether the cells stand at the right. -/
  right : Bool := false
  deriving DecidableEq, Repr

/-- A table with a title. Title and cells are markup. -/
structure Listing where
  title : String
  columns : List Column
  rows : List (List String)
  deriving DecidableEq, Repr

namespace Listing

section lines

variable (named : String → Option String)

/-- The cells of the columns from a row of markup. -/
def cellsOf (row : List String) : List (List Char) :=
  row.map fun cell => Markup.plainChars named cell.toList

/-- The heads of the columns. -/
def heads (l : Listing) : List String := l.columns.map (·.head)

/-- The widths of the columns. -/
def widths (l : Listing) : List Nat :=
  (l.heads :: l.rows).foldl (fun ws row => ws.zipWith (fun w cell => max w (measure cell))
    (cellsOf named row)) (l.columns.map fun _ => 0)

/-- The width of the frame: each cell has a blank at either side, and the columns have lines around
them. -/
def frameWidth (l : Listing) : Nat :=
  (l.widths named).foldl (fun total w => total + w + 3) 1

/-- The lines of the title. -/
def titleLines (l : Listing) : List (List Char) :=
  let title := Markup.expandTabs 0 (Markup.plainChars named l.title.toList)
  ((splitAtChars (· = '\n') title).flatMap (breakLine true (l.frameWidth named))).map trimEnd

/-- The lines of a row by cells, in columns of some widths. -/
def rowLines (ws : List Nat) (row : List String) : List (List (List Char)) :=
  let cells := (cellsOf named row).zipWith (fun cell w => cellLines w cell) ws
  let height := (cells.map List.length).foldl max 0
  (List.range height).map fun i => cells.map fun lines => lines.getD i []

/-- The lines of the head. -/
def headLines (l : Listing) : List (List (List Char)) :=
  rowLines named (l.widths named) l.heads

/-- The lines of the rows. -/
def bodyLines (l : Listing) : List (List (List Char)) :=
  let ws := l.widths named
  l.rows.flatMap (rowLines named ws)

end lines

/-! ### The frame -/

/-- A cell filled up to the width of its column. -/
def fill (column : Column) (limit : Nat) (cell : List Char) : List Char :=
  if column.right then
    let cell := trimEnd cell
    List.replicate (limit - width cell) ' ' ++ cell
  else cell ++ List.replicate (limit - width cell) ' '

/-- A line of cells between bars, in columns with their widths. -/
def cellLine (bar : Char) (columns : List (Column × Nat)) (cells : List (List Char)) : List Char :=
  bar :: (columns.zip cells).flatMap fun ((column, limit), cell) =>
    ' ' :: (fill column limit cell ++ [' ', bar])

/-- A line of the frame. -/
def rule (left dash cross right : Char) (ws : List Nat) : List Char :=
  left :: ([cross].intercalate (ws.map fun w => List.replicate (w + 2) dash) ++ [right])

/-- A line in the middle of a width. -/
def centred (limit : Nat) (cs : List Char) : List Char :=
  let room := limit - width cs
  List.replicate (room / 2) ' ' ++ cs ++ List.replicate (room - room / 2) ' '

/-- The text of a listing. -/
def render (named : String → Option String) (l : Listing) : String :=
  let ws := l.widths named
  let columns := l.columns.zip ws
  let lines := (l.titleLines named).map (centred (l.frameWidth named))
    ++ rule '┏' '━' '┳' '┓' ws :: (l.headLines named).map (cellLine '┃' columns)
    ++ rule '┡' '━' '╇' '┩' ws :: (l.bodyLines named).map (cellLine '│' columns)
    ++ [rule '└' '─' '┴' '┘' ws]
  String.join (lines.map fun line => String.ofList line ++ "\n")

end Listing

/-! ### Checks -/

example : words "  a b  c".toList = ["  a ", "b  ", "c"].map String.toList := by decide
example : breakLine true 4 "ab cd efghij k".toList
    = ["ab ", "cd ", "efgh", "ij k"].map String.toList := by decide
example : fitLine 4 "abcdef".toList = "abc…".toList := by decide

end BehaviorTree.CommandLine
