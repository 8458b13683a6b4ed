import BehaviorTree.Lua.ChunkText
import BehaviorTree.Lua.Literal

/-!
# The lexemes of a chunk

A chunk is cut into names, numerals, texts and symbols. Which lexeme starts at a character depends
on the text from there on only, so a scanner is a function from the remaining text to a lexeme and
its length.

* `scan`: the lexeme at the start of a text.
* `lex`: all lexemes of a text, or nothing if one is faulty.
-/

namespace BehaviorTree.Lua

open BehaviorTree.Text BehaviorTree.Decimal

/-- The lexemes of a chunk. -/
inductive Lexeme where
  | name (s : String)
  | numeral (n : Number)
  | text (s : ChunkText)
  | symbol (c : Char)
  deriving DecidableEq, Repr

/-- The symbols of chunks. -/
def symbols : List Char := ['\x7b', '\x7d', '[', ']', '(', ')', '=', ',', ';', '.', '-']

/-! ### Texts -/

/-- The piece of a decimal code: codes beyond the ASCII range stand for bytes. -/
def pieceOfCode? (code : Nat) : Option Piece :=
  if code < 128 then some (.char (Char.ofNat code))
  else if code < 256 then some (.byte (UInt8.ofNat code))
  else none

/-- The piece that an escape stands for, and the length of the escape behind its backslash. A
decimal code has up to three digits. -/
def readEscape? : List Char → Option (Piece × Nat)
  | 'n' :: _ => some (.char '\n', 1)
  | 'r' :: _ => some (.char '\r', 1)
  | 't' :: _ => some (.char '\t', 1)
  | '\\' :: _ => some (.char '\\', 1)
  | '"' :: _ => some (.char '"', 1)
  | cs =>
    let digits := (spanDigits asciiDigit? (cs.take 3)).1
    if digits.isEmpty then none
    else (pieceOfCode? (ofDigits digits)).map fun piece => (piece, digits.length)

/-- The pieces up to the closing quote, and the length of their written form with that quote.
`skip` characters belong to an escape that has been read. -/
def readText? : (skip : Nat) → List Char → Option (List Piece × Nat)
  | _, [] => none
  | skip + 1, _ :: cs => (readText? skip cs).map fun (text, length) => (text, length + 1)
  | 0, c :: cs =>
    if c = '"' then some ([], 1)
    else if c = '\\' then do
      let (piece, skip) ← readEscape? cs
      let (text, length) ← readText? skip cs
      some (piece :: text, length + 1)
    else if c = '\n' ∨ c = '\r' then none
    else (readText? 0 cs).map fun (text, length) => (.char c :: text, length + 1)

/-! ### Numerals -/

/-- The characters that belong to a numeral once it has started: digits, letters and points, and a
sign behind an exponent mark. -/
def numeralChars (afterMark : Bool) : List Char → List Char
  | [] => []
  | c :: cs =>
    if isNameChar c || c = '.' then c :: numeralChars (c = 'e' || c = 'E') cs
    else if afterMark && (c = '+' || c = '-') then c :: numeralChars false cs
    else []

/-- The number of a numeral: an integer where it has neither point nor exponent and fits into 64
bits, otherwise a double. -/
def numberOf? (cs : List Char) : Option Number := do
  let written ← readUnsigned? asciiDigit? cs
  let n := ofDigits written.digits
  if cs.all Char.isDigit ∧ isWord n then some (.int n) else some (.float written.toFloat)

/-! ### Scanning -/

/-- A blank between lexemes: tab to carriage return, and space. -/
def isChunkBlank (c : Char) : Bool := (0x09 ≤ c.toNat && c.toNat ≤ 0x0D) || c.toNat == 0x20

/-- Whether a numeral starts at a text. -/
def startsNumeral : List Char → Bool
  | '.' :: c :: _ => c.isDigit
  | c :: _ => c.isDigit
  | [] => false

/-- The lexeme at the start of a text, if it is no blank or comment, and its length. Comments that
may go on over several lines are not read. -/
def scan (cs : List Char) : Option (Option Lexeme × Nat) :=
  match cs with
  | [] => none
  | c :: rest =>
    if isChunkBlank c then some (none, 1)
    else if c = '-' ∧ rest.head? = some '-' then
      if rest.tail.head? = some '[' then none
      else some (none, (cs.takeWhile fun d => d ≠ '\n' ∧ d ≠ '\r').length)
    else if isNameStart c then
      let name := cs.takeWhile isNameChar
      some (some (.name (String.ofList name)), name.length)
    else if startsNumeral cs then
      let numeral := numeralChars false cs
      (numberOf? numeral).map fun n => (some (.numeral n), numeral.length)
    else if c = '"' then
      (readText? 0 rest).map fun (text, length) =>
        (some (.text (.ofPieces text)), length + 1)
    else if c ∈ symbols then some (some (.symbol c), 1)
    else none

/-- The lexemes of a text; none if something in it starts no lexeme. `skip` characters belong to the
lexeme before. -/
def lex : (skip : Nat) → List Char → Option (List Lexeme)
  | _, [] => some []
  | skip + 1, _ :: cs => lex skip cs
  | 0, c :: cs => do
    let (lexeme, length) ← scan (c :: cs)
    let rest ← lex (length - 1) cs
    some (lexeme.toList ++ rest)

end BehaviorTree.Lua
