import BehaviorTree.Json.Value
import BehaviorTree.Decimal.Reader

/-!
# The lexemes of a document

A document text is cut into lexemes before it is read. Which lexeme starts at a character depends on
the text from there on and on nothing before it, so a scanner is a function from the remaining text
to a token and its length.

A text with a fault inside is a token too (`Token.faulty`): the fault only counts if a text was
wanted there. The first character that starts no token, and the first fault, end the list.

A text may hold half a surrogate pair on its own, which is no character. The scanner puts a character
`half` in its place; what is read with more than one choice of it is read of characters only.
-/

namespace BehaviorTree.Json

open BehaviorTree.Text BehaviorTree.Decimal

/-- What can be wrong with a document text. -/
inductive Problem where
  | expectingValue
  | expectingKey
  | expectingColon
  | expectingComma
  | extraData
  | unterminatedText
  | controlCharacter
  | badEscape
  | badUnicodeEscape
  | byteOrderMark
  deriving DecidableEq, Repr

/-- The wording of a problem. -/
def Problem.message : Problem → String
  | .expectingValue => "Expecting value"
  | .expectingKey => "Expecting property name enclosed in double quotes"
  | .expectingColon => "Expecting ':' delimiter"
  | .expectingComma => "Expecting ',' delimiter"
  | .extraData => "Extra data"
  | .unterminatedText => "Unterminated string starting at"
  | .controlCharacter => "Invalid control character at"
  | .badEscape => "Invalid \\escape"
  | .badUnicodeEscape => "Invalid \\uXXXX escape"
  | .byteOrderMark => "Unexpected UTF-8 BOM (decode using utf-8-sig)"

/-- The tokens of a document. -/
inductive Token where
  | openObject
  | closeObject
  | openArray
  | closeArray
  | colon
  | comma
  /-- Null, a truth value or a number. -/
  | scalar (value : Json)
  | text (s : String)
  /-- An integer with more digits than the limit. -/
  | longNumeral (digits : Nat)
  /-- A text with a fault so many characters after its start. -/
  | faulty (problem : Problem) (within : Nat)
  /-- A character that starts no token. -/
  | unknown
  deriving Repr, BEq, Inhabited

/-- A token and the place where it starts. -/
structure Lexeme where
  token : Token
  offset : Nat
  deriving Repr, BEq, Inhabited

/-- The blanks between lexemes. -/
def isGap (c : Char) : Bool := c = ' ' || c = '\t' || c = '\n' || c = '\r'

/-! ### Texts -/

/-- The character of a one-letter escape. -/
def unescape? : Char → Option Char
  | '"' => some '"'
  | '\\' => some '\\'
  | '/' => some '/'
  | 'b' => some '\x08'
  | 'f' => some '\x0c'
  | 'n' => some '\n'
  | 'r' => some '\r'
  | 't' => some '\t'
  | _ => none

/-- The number of four hexadecimal digits. -/
def hex4? (a b c d : Char) : Option Nat := do
  let a ← hexDigit? a
  let b ← hexDigit? b
  let c ← hexDigit? c
  let d ← hexDigit? d
  return ((a * 16 + b) * 16 + c) * 16 + d

/-- The first half of a surrogate pair. -/
def isHighSurrogate (n : Nat) : Bool := 0xD800 ≤ n && n ≤ 0xDBFF

/-- The second half of a surrogate pair. -/
def isLowSurrogate (n : Nat) : Bool := 0xDC00 ≤ n && n ≤ 0xDFFF

/-- The character of a surrogate pair. -/
def joinSurrogates (high low : Nat) : Char :=
  Char.ofNat (0x10000 + (high - 0xD800) * 0x400 + (low - 0xDC00))

/-- A private character that stands for half a surrogate pair. -/
def privateHalf : Char := Char.ofNat 0x10D800

section

variable (half : Char)

/-- The character of a code; half a surrogate pair on its own is no character. -/
def charOfCode (n : Nat) : Char :=
  if n.isValidChar then Char.ofNat n else half

/-- A text token from its characters, last first, and its length. -/
def endText (reversed : List Char) (length : Nat) : Token × Nat :=
  (.text (String.ofList reversed.reverse), length)

/-- The code of a hexadecimal escape that a text goes on with; the inner option is none when its
digits are not hexadecimal. The closing quote has to follow somewhere. -/
def codeEscape? : List Char → Option (Option Nat)
  | '\\' :: 'u' :: a :: b :: c :: d :: _ :: _ => some (hex4? a b c d)
  | _ => none

/-- Reads a text from behind its opening quote on. `length` counts the characters since that quote,
`reversed` holds the characters read. -/
def scanText (length : Nat) (reversed : List Char) : List Char → Token × Nat
  | [] => (.faulty .unterminatedText 0, length)
  | c :: rest =>
    if c = '"' then endText reversed (length + 1)
    else if c ≠ '\\' then
      if c.toNat < 0x20 then (.faulty .controlCharacter length, length)
      else scanText (length + 1) (c :: reversed) rest
    else match rest with
      | [] => (.faulty .unterminatedText 0, length)
      | letter :: more =>
        if letter ≠ 'u' then
          match unescape? letter with
          | none => (.faulty .badEscape length, length)
          | some plain => scanText (length + 2) (plain :: reversed) more
        else match codeEscape? (c :: rest) with
          | none | some none => (.faulty .badUnicodeEscape (length + 1), length)
          | some (some code) =>
            if !isHighSurrogate code then
              scanText (length + 6) (charOfCode half code :: reversed) (more.drop 4)
            else match codeEscape? (more.drop 4) with
              | some none => (.faulty .badUnicodeEscape (length + 7), length)
              | some (some low) =>
                if isLowSurrogate low then
                  scanText (length + 12) (joinSurrogates code low :: reversed) (more.drop 10)
                else scanText (length + 6) (charOfCode half code :: reversed) (more.drop 4)
              | none => scanText (length + 6) (charOfCode half code :: reversed) (more.drop 4)
termination_by cs => cs.length

/-! ### Numbers and words -/

/-- The digits behind a point, if there is at least one. -/
def fraction? : List Char → Option (List Nat × List Char)
  | '.' :: rest =>
    match spanDigits asciiDigit? rest with
    | ([], _) => none
    | found => some found
  | _ => none

/-- A written exponent with its value and length, if there is one. -/
def exponent? : List Char → Option (Int × Nat)
  | c :: rest =>
    if c = 'e' ∨ c = 'E' then
      let (negative, body) := takeSign rest
      match spanDigits asciiDigit? body with
      | ([], _) => none
      | (digits, _) =>
        let value : Int := ofDigits digits
        some (if negative then -value else value, 1 + (rest.length - body.length) + digits.length)
    else none
  | [] => none

/-- The digits before the point: a zero alone, or digits that start with none. -/
def wholeDigits (cs : List Char) : List Nat × List Char :=
  match cs with
  | '0' :: rest => ([0], rest)
  | _ => spanDigits asciiDigit? cs

/-- An integer token, or what stands for it beyond the limit. -/
def integerToken (negative : Bool) (digits : List Nat) : Token :=
  match natOfDigits digits with
  | .ok n => .scalar (.number (.int (if negative then -(n : Int) else n)))
  | .error _ => .longNumeral digits.length

/-- Reads a number without its sign. -/
def scanUnsigned? (negative : Bool) (cs : List Char) : Option (Token × Nat) :=
  match wholeDigits cs with
  | ([], _) => none
  | (whole, afterWhole) =>
    let (fraction, afterFraction) := (fraction? afterWhole).getD ([], afterWhole)
    let fractionLength := if fraction.isEmpty then 0 else fraction.length + 1
    match exponent? afterFraction with
    | none =>
      if fraction.isEmpty then some (integerToken negative whole, whole.length)
      else
        let written : Written := ⟨whole ++ fraction, fraction.length, 0⟩
        some (.scalar (.number (.float (signed negative written.toFloat))),
          whole.length + fractionLength)
    | some (exponent, exponentLength) =>
      let written : Written := ⟨whole ++ fraction, fraction.length, exponent⟩
      some (.scalar (.number (.float (signed negative written.toFloat))),
        whole.length + fractionLength + exponentLength)

/-- The words that are values. -/
def words : List (List Char × Json) :=
  [("null".toList, .null), ("true".toList, .bool true), ("false".toList, .bool false),
   ("NaN".toList, .number (.float (0.0 / 0.0))), ("Infinity".toList, .number (.float (1.0 / 0.0))),
   ("-Infinity".toList, .number (.float (-1.0 / 0.0)))]

/-- Reads a word that is a value. -/
def scanWord? (cs : List Char) : Option (Token × Nat) :=
  (words.find? fun word => word.1.isPrefixOf cs).map fun word => (.scalar word.2, word.1.length)

/-- Reads a number. -/
def scanNumber? (cs : List Char) : Option (Token × Nat) :=
  match cs with
  | '-' :: rest => (scanUnsigned? true rest).map fun found => (found.1, found.2 + 1)
  | _ => scanUnsigned? false cs

/-! ### Cutting a text into lexemes -/

/-- The token at the start of a text that starts with no blank, and its length. -/
def scan (cs : List Char) : Token × Nat :=
  match cs with
  | '\x7b' :: _ => (.openObject, 1)
  | '\x7d' :: _ => (.closeObject, 1)
  | '[' :: _ => (.openArray, 1)
  | ']' :: _ => (.closeArray, 1)
  | ':' :: _ => (.colon, 1)
  | ',' :: _ => (.comma, 1)
  | '"' :: rest => scanText half 1 [] rest
  | _ => ((scanNumber? cs).or (scanWord? cs)).getD (.unknown, 1)

/-- A token after which no more are looked for. -/
def Token.endsText : Token → Bool
  | .faulty .. => true
  | .unknown => true
  | _ => false

/-- Cuts a text into lexemes. `skip` characters still belong to the last token. -/
def lex (skip offset : Nat) : List Char → List Lexeme
  | [] => []
  | c :: cs =>
    match skip with
    | skip + 1 => lex skip (offset + 1) cs
    | 0 =>
      if isGap c then lex 0 (offset + 1) cs
      else
        let (token, length) := scan half (c :: cs)
        ⟨token, offset⟩ :: if token.endsText then [] else lex (length - 1) (offset + 1) cs

/-! ### Skipping -/

theorem lex_drop (skip offset : Nat) (cs : List Char) :
    lex half skip offset cs = lex half 0 (offset + skip) (cs.drop skip) := by
  induction cs generalizing skip offset with
  | nil => simp [lex]
  | cons c cs ih =>
    cases skip with
    | zero => simp
    | succ skip =>
      rw [lex, ih, List.drop_succ_cons]
      congr 1
      omega

end

end BehaviorTree.Json
