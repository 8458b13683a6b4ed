import BehaviorTree.Lua.Evaluation
import BehaviorTree.Lua.Registers

/-!
# Interpreters

Scripts are checked and evaluated by an interpreter of the language that is made elsewhere. All that
is known of it is which sources it compiles and what they yield when they are run; what may be
relied on is what its manual says (`Interpreter.FollowsManual`).

* `Interpreter.check`: compiles a source and runs nothing.
* `Interpreter.evaluate`: the document value that a source yields.
* `Interpreter.standard`: an interpreter that reads sources as `Chunk.read?` does.
-/

namespace BehaviorTree.Lua

/-- An interpreter. -/
structure Interpreter where
  /-- Whether a source is compiled. -/
  compiles (source : String) : Bool
  /-- What a compiled source yields after the stand-ins are defined; none where it stops. -/
  run (source : String) : Option Value

namespace Interpreter

/-- Compiles a source. -/
def check (lua : Interpreter) (source : String) : Except ChunkError Unit :=
  if lua.compiles source then .ok () else .error .malformed

/-- Compiles and runs a source. A value that is no document value is a fault. -/
def evaluate (lua : Interpreter) (source : String) : Except Fault (Except ChunkError Json) :=
  if lua.compiles source then
    match lua.run source with
    | none => .ok (.error .stopped)
    | some value => value.toJson.map .ok
  else .ok (.error .malformed)

/-- The reference manual, for the part of the language that scripts are written in: the sources that
are chunks if any word may stand as a name. `names` are the words that the interpreter takes for
names, and `room` holds of the sources that stay within its limits, such as the number of registers;
the manual sets none. -/
structure FollowsManual (lua : Interpreter) (names : String → Bool) (room : String → Prop) :
    Prop where
  /-- Reserved words are no names. -/
  reserved (word : String) (h : word ∈ Lua.reserved) : names word = false
  /-- All others are, but for the one that only some versions reserve. -/
  common (word : String) (h : isCommonName word = true) : names word = true
  /-- A chunk is compiled if there is room for it, and nothing else is. -/
  compiles_iff {source : String} {chunk : Chunk}
    (h : Chunk.read? (fun _ => true) source = some chunk) :
    lua.compiles source = true ↔ (∃ chunk, Chunk.read? names source = some chunk) ∧ room source
  /-- A chunk that reads nothing but the stand-ins yields the value of its expression. -/
  run_eq {source : String} {e : Expr} (h : Chunk.read? names source = some (.result e))
    (hstandIns : e.usesStandIns = true) : lua.run source = e.evaluate?.bind yielded?

/-! ### The standard interpreter -/

/-- The most levels of tables that the standard interpreter goes down. -/
def levelLimit : Nat := 198

/-- Whether the lexemes behind some open tables stay within the levels. What stands in brackets or
behind a minus is one level further down, but for the key of an entry. `first` says that an entry may
start here. -/
def isWithinLevels (level : Nat) (first : Bool) : List Lexeme → Bool
  | [] => true
  | .symbol c :: rest =>
    match c with
    | '\x7b' => level < levelLimit && isWithinLevels (level + 1) true rest
    | '\x7d' => isWithinLevels (level - 1) false rest
    | '(' | '-' => level + 1 < levelLimit && isWithinLevels level false rest
    | '[' => (first || level + 1 < levelLimit) && isWithinLevels level false rest
    | ',' | ';' => isWithinLevels level true rest
    | _ => isWithinLevels level false rest
  | _ :: rest => level < levelLimit && isWithinLevels level false rest

/-- Whether the standard interpreter has room for a source: levels and registers. -/
def hasRoom (source : String) : Bool :=
  (lex 0 source.toList).any (isWithinLevels 0 false) && (Chunk.read? isName source).any Chunk.fits

/-- The interpreter that takes all words for names but those that all versions reserve. -/
def standard : Interpreter where
  compiles source := (Chunk.read? isName source).isSome && hasRoom source
  run source := (Chunk.read? isName source).bind Chunk.evaluate?

/-! ### Checks -/

example : standard.check "return \x7b\x7d\x7d" = .error .malformed := by decide
example : standard.check "error(\"boom\")" = .ok () := by decide

end Interpreter
end BehaviorTree.Lua
