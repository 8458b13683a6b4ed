import BehaviorTree.Text.Blank

/-!
# Emoji

A text may name an emoji by its short code: a name between colons, in any case, as in `:bug:`. A
name that ends with `-emoji` or `-text` asks for the coloured or the plain variant. Codes of no
emoji stay as they are. Which names there are is up to the library that prints, so it is a
parameter.

* `replaceCodes`: a text with its codes replaced.
-/

namespace BehaviorTree.Text.Emoji

/-! ### Codes -/

/-- The small letter of a letter, as far as the names of emoji are written with it. -/
def lowered (c : Char) : Char :=
  if c = '\u212A' then 'k'
  else if c = '\u212B' then '\u00E5'
  else if 0xC0 ≤ c.toNat ∧ c.toNat ≤ 0xDE ∧ c.toNat ≠ 0xD7 then Char.ofNat (c.toNat + 0x20)
  else c.toLower

/-- A name without an ending. -/
def stripEnding? (ending name : List Char) : Option (List Char) :=
  if ending.isSuffixOf name then some (name.take (name.length - ending.length)) else none

/-- The name in a code, and the mark of the variant that is asked for. -/
def splitVariant (code : List Char) : List Char × List Char :=
  match stripEnding? "-emoji".toList code, stripEnding? "-text".toList code with
  | some name, _ => (name, ['\uFE0F'])
  | none, some name => (name, ['\uFE0E'])
  | none, none => (code, [])

/-- The emoji that a code stands for. `named` finds the emoji of a name in small letters. -/
def ofCode? (named : String → Option String) (code : List Char) : Option (List Char) :=
  let (name, mark) := splitVariant code
  (named (String.ofList (name.map lowered))).map fun emoji => emoji.toList ++ mark

/-- What stands between a colon and the next one, if no blank is between them. -/
def code? (cs : List Char) : Option (List Char) :=
  let code := cs.takeWhile fun c => c ≠ ':' && !isBlank c
  if (cs.drop code.length).head? = some ':' then some code else none

/-- A text with its codes replaced by their emoji. A code of no emoji stays, with both colons.
`skip` characters belong to a code that has been read. -/
def replaceFrom (named : String → Option String) : (skip : Nat) → List Char → List Char
  | _, [] => []
  | skip + 1, _ :: cs => replaceFrom named skip cs
  | 0, c :: cs =>
    if c = ':' then
      match code? cs with
      | some code => (ofCode? named code).getD (':' :: code ++ [':'])
          ++ replaceFrom named (code.length + 1) cs
      | none => c :: replaceFrom named 0 cs
    else c :: replaceFrom named 0 cs

/-- A text with its codes replaced by their emoji. -/
def replaceCodes (named : String → Option String) (cs : List Char) : List Char :=
  replaceFrom named 0 cs

/-! ### Checks -/

example : code? "bug:x".toList = some "bug".toList := by decide
example : code? "a b:".toList = none := by decide
example : splitVariant "bug-text".toList = ("bug".toList, ['\uFE0E']) := by decide

end BehaviorTree.Text.Emoji
