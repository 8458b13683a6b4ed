import BehaviorTree.Json.Lexeme

/-!
# Reading a document text

A pushdown machine over the lexemes of a text. Its state says what is expected next and which lists
and objects are open; a complete value goes into the innermost open one. A fault is reported where
the machine stands, so of two faults the first in the text is the one that is named.

* `Json.parse`: the value of a text.
* `Json.position`: the line and the column of an offset.
-/

namespace BehaviorTree.Json

/-- Why a text is not a document value. -/
inductive ReadError where
  /-- The text breaks the grammar at an offset in characters. -/
  | malformed (problem : Problem) (offset : Nat)
  /-- The text holds an integer with more digits than the limit. -/
  | longNumeral (digits : Nat)
  deriving DecidableEq, Repr

/-- A list or an object that is still open. -/
inductive Frame where
  /-- A list with its items so far, last first. -/
  | array (reversed : List Json)
  /-- An object with its fields so far and the key whose value is awaited. -/
  | object (fields : List (String × Json)) (key : String)
  deriving Repr, BEq

/-- What the machine expects next, and the lists and objects that are open. -/
inductive State where
  /-- A value. -/
  | awaitValue (stack : List Frame)
  /-- The first item of a list, or its end. -/
  | arrayStart (stack : List Frame)
  /-- A comma or the end of a list. -/
  | arrayNext (reversed : List Json) (stack : List Frame)
  /-- The first key of an object, or its end. -/
  | objectStart (stack : List Frame)
  /-- A key. -/
  | awaitKey (fields : List (String × Json)) (stack : List Frame)
  /-- The colon behind a key. -/
  | awaitColon (fields : List (String × Json)) (key : String) (stack : List Frame)
  /-- A comma or the end of an object. -/
  | objectNext (fields : List (String × Json)) (stack : List Frame)
  /-- Nothing more. -/
  | done (value : Json)
  deriving Repr, BEq

/-- The state after a complete value. -/
def State.complete (value : Json) : List Frame → State
  | [] => .done value
  | .array reversed :: stack => .arrayNext (value :: reversed) stack
  | .object fields key :: stack => .objectNext (setField key value fields) stack

/-- A fault at the start of a lexeme. -/
def Lexeme.refuse (lexeme : Lexeme) (problem : Problem) : ReadError :=
  .malformed problem lexeme.offset

/-- The step on a lexeme that has to start a value. -/
def State.begin (lexeme : Lexeme) (stack : List Frame) : Except ReadError State :=
  match lexeme.token with
  | .scalar value => .ok (.complete value stack)
  | .text s => .ok (.complete (.text s) stack)
  | .openArray => .ok (.arrayStart stack)
  | .openObject => .ok (.objectStart stack)
  | .longNumeral digits => .error (.longNumeral digits)
  | .faulty problem within => .error (.malformed problem (lexeme.offset + within))
  | _ => .error (lexeme.refuse .expectingValue)

/-- The step on a lexeme that has to be a key. -/
def State.beginKey (lexeme : Lexeme) (fields : List (String × Json)) (stack : List Frame) :
    Except ReadError State :=
  match lexeme.token with
  | .text key => .ok (.awaitColon fields key stack)
  | .faulty problem within => .error (.malformed problem (lexeme.offset + within))
  | _ => .error (lexeme.refuse .expectingKey)

/-- One step of the machine. -/
def State.step (state : State) (lexeme : Lexeme) : Except ReadError State :=
  match state, lexeme.token with
  | .awaitValue stack, _ => State.begin lexeme stack
  | .arrayStart stack, .closeArray => .ok (.complete (.array []) stack)
  | .arrayStart stack, _ => State.begin lexeme (.array [] :: stack)
  | .arrayNext reversed stack, .comma => .ok (.awaitValue (.array reversed :: stack))
  | .arrayNext reversed stack, .closeArray => .ok (.complete (.array reversed.reverse) stack)
  | .arrayNext .., _ => .error (lexeme.refuse .expectingComma)
  | .objectStart stack, .closeObject => .ok (.complete (.object []) stack)
  | .objectStart stack, _ => State.beginKey lexeme [] stack
  | .awaitKey fields stack, _ => State.beginKey lexeme fields stack
  | .awaitColon fields key stack, .colon => .ok (.awaitValue (.object fields key :: stack))
  | .awaitColon .., _ => .error (lexeme.refuse .expectingColon)
  | .objectNext fields stack, .comma => .ok (.awaitKey fields stack)
  | .objectNext fields stack, .closeObject => .ok (.complete (.object fields) stack)
  | .objectNext .., _ => .error (lexeme.refuse .expectingComma)
  | .done _, _ => .error (lexeme.refuse .extraData)

/-- The answer at the end of the text, which has the given offset. -/
def State.finish (offset : Nat) : State → Except ReadError Json
  | .done value => .ok value
  | .awaitValue _ | .arrayStart _ => .error (.malformed .expectingValue offset)
  | .arrayNext .. | .objectNext .. => .error (.malformed .expectingComma offset)
  | .objectStart _ | .awaitKey .. => .error (.malformed .expectingKey offset)
  | .awaitColon .. => .error (.malformed .expectingColon offset)

/-- Runs the machine over a list of lexemes. -/
def State.run (state : State) (lexemes : List Lexeme) : Except ReadError State :=
  lexemes.foldlM State.step state

/-- The value of a list of characters; `half` stands for half a surrogate pair in its texts. -/
def parseChars (half : Char) (cs : List Char) : Except ReadError Json := do
  let state ← (State.awaitValue []).run (lex half 0 0 cs)
  state.finish cs.length

/-- The value of a text. A text must not start with a byte order mark. -/
def parse (half : Char) (s : String) : Except ReadError Json :=
  match s.toList with
  | '\ufeff' :: _ => .error (.malformed .byteOrderMark 0)
  | cs => parseChars half cs

/-! ### Where a fault is -/

/-- The line and the column of an offset, both counted from one. -/
def position (cs : List Char) (offset : Nat) : Nat × Nat :=
  let before := cs.take offset
  let onLine := before.reverse.takeWhile (· ≠ '\n')
  ((before.filter (· = '\n')).length + 1, onLine.length + 1)

/-! ### Laws of the machine -/

theorem run_append (state : State) (first second : List Lexeme) :
    state.run (first ++ second) = state.run first >>= fun s => s.run second := by
  simp [State.run, List.foldlM_append]

theorem run_cons (state : State) (lexeme : Lexeme) (rest : List Lexeme) :
    state.run (lexeme :: rest) = state.step lexeme >>= fun s => s.run rest := rfl

end BehaviorTree.Json
