/-!
# White space

Designer text is trimmed before it is compared or looked up, so what counts as blank decides which
blackboard keys and subtree names are the same. Two classes of character matter.

* `isSpace`: the Unicode property White_Space. It may surround a number.
* `isBlank`: the same and the four information separators U+001C to U+001F. Names, keys and
  references are trimmed with this class.
-/

namespace BehaviorTree.Text

/-- Whether a code point lies in one of a list of closed ranges. -/
def inRanges (ranges : List (Nat × Nat)) (code : Nat) : Bool :=
  ranges.any fun range => range.1 ≤ code && code ≤ range.2

/-- The Unicode property White_Space as closed ranges of code points. -/
def spaceRanges : List (Nat × Nat) :=
  [(0x09, 0x0D), (0x20, 0x20), (0x85, 0x85), (0xA0, 0xA0), (0x1680, 0x1680), (0x2000, 0x200A),
   (0x2028, 0x2029), (0x202F, 0x202F), (0x205F, 0x205F), (0x3000, 0x3000)]

/-- A character with the Unicode property White_Space. -/
def isSpace (c : Char) : Bool := inRanges spaceRanges c.toNat

/-- An information separator, U+001C to U+001F. -/
def isSeparator (c : Char) : Bool := 0x1C ≤ c.toNat && c.toNat ≤ 0x1F

/-- A blank character: white space or an information separator. -/
def isBlank (c : Char) : Bool := isSpace c || isSeparator c

/-! ### Trimming -/

/-- A list of characters without the blank ones at either end. -/
def trimChars (blank : Char → Bool) (cs : List Char) : List Char :=
  ((cs.dropWhile blank).reverse.dropWhile blank).reverse

/-- A text without the blank characters at either end. -/
def trim (s : String) : String := String.ofList (trimChars isBlank s.toList)

/-- What stands before the last character, when that is a line feed; otherwise the whole text. -/
def dropFinalNewline (cs : List Char) : List Char :=
  if cs.getLast? = some '\n' then cs.dropLast else cs

/-- A pattern that describes a line also accepts the line with its line feed. -/
def matchesLine (p : List Char → Bool) (cs : List Char) : Bool :=
  p cs || p (dropFinalNewline cs)

/-! ### Small lemmas -/

theorem isBlank_of_isWhitespace (c : Char) (h : c.isWhitespace = true) : isBlank c = true := by
  simp [Char.isWhitespace] at h
  rcases h with ((h | h) | h) | h <;> subst h <;> decide

theorem trimChars_nil (blank : Char → Bool) : trimChars blank [] = [] := rfl

end BehaviorTree.Text
