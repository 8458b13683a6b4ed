import BehaviorTree.Decimal.Whole
import BehaviorTree.Lua.Chunk

/-!
# The registers of the standard interpreter

The language sets no limit to the size of an expression, but an interpreter has to put its parts
somewhere. The one that is at hand has 255 registers: evaluating an expression takes one for each open
table, one for each list item that waits to be stored, and some for what an instruction works on. The
fewer registers are left when a table is opened, the fewer of its items wait. An instruction names
texts and numbers by their places among the constants of the chunk, of which it can reach the first
256. Other interpreters have other limits.

* `Expr.allocate?`: the constants after an expression, unless registers run out.
* `Expr.fits`, `Chunk.fits`: whether the registers suffice.
-/

namespace BehaviorTree.Lua

open BehaviorTree.Decimal

/-! ### Constants -/

/-- A value that an instruction names by its place. -/
inductive Constant where
  | nil
  | boolean (b : Bool)
  | number (n : Number)
  | text (s : ChunkText)
  deriving DecidableEq, Repr

/-- The constants within reach of an instruction, each once. -/
abbrev Constants := List Constant

/-- The number of constants within reach of an instruction. -/
def reach : Nat := 256

/-- Adds a constant, unless it is there or there are as many as an instruction reaches. -/
def Constants.insert (constants : Constants) (c : Constant) : Constants :=
  if c ∈ constants ∨ reach ≤ constants.length then constants else c :: constants

/-- The most bytes of a text that an instruction may use as a key. -/
def shortTextLimit : Nat := 40

/-- Whether an instruction may use a text as a key. -/
def Constants.hasKey (constants : Constants) (key : ChunkText) : Bool :=
  key.size ≤ shortTextLimit && decide (Constant.text key ∈ constants)

/-- Whether a number is part of the instruction that loads it: whole numbers of 17 bits. -/
def isImmediate : Number → Bool
  | .int n => -65535 ≤ n && n ≤ 65536
  | .float x => match truncate? x with
    | some n => isWhole x && -65535 ≤ n && n ≤ 65536
    | none => false

/-- The constant that an expression is. A negative zero is computed and no constant. -/
def Expr.constant? : Expr → Option Constant
  | .nil => some .nil
  | .boolean b => some (.boolean b)
  | .number n => if n = .float (-0.0) then none else some (.number n)
  | .text s => some (.text s)
  | _ => none

/-! ### Registers -/

/-- The number of registers. -/
def registerCount : Nat := 255

/-- Takes registers up to a number, if there are as many. -/
def take? (top : Nat) (constants : Constants) : Option Constants :=
  if top ≤ registerCount then some constants else none

/-- How many items of a table wait to be stored at most, by the number of registers left. -/
def batchSize (left : Nat) : Nat :=
  if 160 ≤ left then left / 5 else if 80 ≤ left then 10 else 1

/-- The registers that a path takes on its way: a second one where a key is out of reach. -/
def Constants.pathWidth (constants : Constants) (keys : List ChunkText) : Nat :=
  if keys.all constants.hasKey then 1 else 2

/-- The constants with the keys of a path. -/
def Constants.insertKeys (constants : Constants) (keys : List ChunkText) : Constants :=
  keys.foldl (fun constants key => constants.insert (.text key)) constants

mutual

/-- Puts the value of an expression into the register behind the `used` ones. -/
def Expr.allocate? (used : Nat) (constants : Constants) : Expr → Option Constants
  | .nil | .boolean _ => take? (used + 1) constants
  | .number n =>
    take? (used + 1)
      (if isImmediate n then constants else constants.insert (.number n))
  | .text s => take? (used + 1) (constants.insert (.text s))
  | .path root keys =>
    let constants := constants.insertKeys (.plain root :: keys)
    take? (used + constants.pathWidth (.plain root :: keys)) constants
  | .call root keys argument =>
    take? (used + 2) ((constants.insertKeys (.plain root :: keys)).insert (.text argument))
  | .table entries => do
    let constants ← take? (used + 1) constants
    allocateEntries? (used + 1) (batchSize (registerCount - (used + 1))) 0 constants entries

/-- Puts entries into a table behind which no register is used but for the items that wait. -/
def allocateEntries? (used batch waiting : Nat) (constants : Constants) :
    List (EntryKey × Expr) → Option Constants
  | [] => some constants
  | (none, e) :: rest => do
    let constants ← e.allocate? (used + waiting) constants
    let waiting := if batch ≤ waiting + 1 then 0 else waiting + 1
    allocateEntries? used batch waiting constants rest
  | (some key, e) :: rest => do
    let constants := constants.insert (.text key)
    let width := if constants.hasKey key then 0 else 1
    let held ← take? (used + waiting + width) constants
    let constants ← match e.constant? with
      | some c =>
        let constants := held.insert c
        if c ∈ constants then some constants
        else e.allocate? (used + waiting + width) constants
      | none => e.allocate? (used + waiting + width) held
    allocateEntries? used batch waiting constants rest

end

/-- Whether the registers suffice for an expression. -/
def Expr.fits (e : Expr) : Bool := (e.allocate? 0 []).isSome

/-- Whether the registers suffice for a chunk. -/
def Chunk.fits : Chunk → Bool
  | .call .. => true
  | .result e => e.fits

/-! ### Checks -/

/-- Tables in tables, each behind a number. -/
private def nestedBehindOne : Nat → Expr
  | 0 => .table []
  | depth + 1 => .table [(none, .number (.int 1)), (none, nestedBehindOne depth)]

example : (nestedBehindOne 166).fits = true := by decide +kernel
example : (nestedBehindOne 167).fits = false := by decide +kernel

end BehaviorTree.Lua
