/-!
# Texts of a chunk

A text of a chunk is a list of bytes, since an escape may name any byte. Where the bytes are those
of a string the text is that string, so two texts are equal exactly when their bytes are.

* `Piece`: a character or an escaped byte inside quotes.
* `ChunkText`: texts; `ChunkText.ofPieces` is the text that is quoted by a list of pieces.
-/

namespace BehaviorTree.Lua

/-- What stands for one character or one byte inside quotes. -/
inductive Piece where
  | char (c : Char)
  /-- A byte beyond the ASCII range. -/
  | byte (b : UInt8)
  deriving DecidableEq, Repr

namespace Piece

/-- The character of a piece that is one. -/
def char? : Piece → Option Char
  | char c => some c
  | byte _ => none

/-- The bytes of a piece. -/
def bytes : Piece → List UInt8
  | char c => c.toString.toUTF8.data.toList
  | byte b => [b]

end Piece

/-- A text of a chunk. -/
inductive ChunkText where
  /-- The bytes of a string. -/
  | plain (s : String)
  /-- Bytes that are those of no string. -/
  | raw (bytes : List UInt8)
  deriving DecidableEq, Repr

namespace ChunkText

instance : Inhabited ChunkText := ⟨plain ""⟩

/-- The text that some bytes are. -/
def ofBytes (bytes : List UInt8) : ChunkText :=
  match String.fromUTF8? (ByteArray.mk bytes.toArray) with
  | some s => plain s
  | none => raw bytes

/-- The text that is quoted by pieces. -/
def ofPieces (pieces : List Piece) : ChunkText :=
  match pieces.mapM Piece.char? with
  | some cs => plain (String.ofList cs)
  | none => ofBytes (pieces.flatMap Piece.bytes)

/-- The string that a text is, if it is one. -/
def string? : ChunkText → Option String
  | plain s => some s
  | raw _ => none

/-- The number of bytes of a text. -/
def size : ChunkText → Nat
  | plain s => s.utf8ByteSize
  | raw bytes => bytes.length

/-! ### The text of a string -/

theorem fromUTF8?_toUTF8 (s : String) : String.fromUTF8? s.toUTF8 = some s := by
  simp only [String.fromUTF8?, String.toUTF8_eq_toByteArray, dif_pos s.isValidUTF8]
  rfl

theorem ofBytes_toUTF8 (s : String) : ofBytes s.toUTF8.data.toList = plain s := by
  rw [ofBytes, Array.toArray_toList, show ByteArray.mk s.toUTF8.data = s.toUTF8 from rfl,
    fromUTF8?_toUTF8]

theorem mapM_char?_map_char (cs : List Char) :
    (cs.map Piece.char).mapM Piece.char? = some cs := by
  induction cs with
  | nil => rfl
  | cons c cs ih => simp [List.mapM_cons, Piece.char?, ih]

theorem ofPieces_map_char (cs : List Char) :
    ofPieces (cs.map Piece.char) = plain (String.ofList cs) := by
  rw [ofPieces, mapM_char?_map_char]

/-! ### Checks -/

example : ofPieces [.byte 0xC3, .byte 0xA9, .char 'x'] = plain "éx" := by decide
example : ofPieces [.char 'x', .byte 0xC8] = raw [0x78, 0xC8] := by decide

end ChunkText
end BehaviorTree.Lua
