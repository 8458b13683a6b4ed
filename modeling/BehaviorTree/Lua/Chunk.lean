import BehaviorTree.Lua.Lexeme

/-!
# Chunks

A chunk is what a script file holds: a call, or a `return` with an expression. Expressions are
literals, table constructors, global names with what is read from them, and calls with one text.

Which words may stand as names differs between versions of the language, so the reader is given them.
It is a machine that reads lexemes from left to right. Its state says what is expected next and which
tables are open; a step sees the lexemes that follow and tells how many it has read.

* `Expr`: expressions.
* `State.step`, `State.run`: the machine.
* `Chunk.read?`: the chunk of a text, if it is one.
-/

namespace BehaviorTree.Lua

/-- The words that are no names in any version. -/
def reserved : List String :=
  ["and", "break", "do", "else", "elseif", "end", "false", "for", "function", "goto", "if",
   "in", "local", "nil", "not", "or", "repeat", "return", "then", "true", "until", "while"]

/-- Whether a word may be used as a name, for what all versions reserve. -/
def isName (s : String) : Bool := s ∉ reserved

/-- Whether a word may be used as a name in each version: one of them reserves another word. -/
def isCommonName (s : String) : Bool := isName s && s ≠ "global"

/-- The key of an entry of a table constructor; positional entries have none. -/
abbrev EntryKey := Option ChunkText

/-- An expression. -/
inductive Expr where
  | nil
  | boolean (b : Bool)
  | number (n : Number)
  | text (s : ChunkText)
  /-- What is read from a global name by one key after the other. -/
  | path (root : String) (keys : List ChunkText)
  /-- A call of what a path leads to, with a text. -/
  | call (root : String) (keys : List ChunkText) (argument : ChunkText)
  | table (entries : List (EntryKey × Expr))
  deriving Repr, BEq, Inhabited

/-! ### Terms -/

/-- An expression that is no table, and how many lexemes it is made of. -/
structure Term where
  expr : Expr
  length : Nat
  deriving Repr, BEq

/-- A term with more lexemes in front of it. -/
def Term.behind (count : Nat) (term : Term) : Term :=
  { term with length := term.length + count }

/-- The negative of a number. -/
def negate : Number → Number
  | .int n => .int (-n)
  | .float x => .float (-x)

section reading

-- The words that may stand as names.
variable (names : String → Bool)

/-- Reads what follows a global name: keys, and perhaps a call. -/
def suffixes (root : String) (keys : List ChunkText) : List Lexeme → Option Term
  | .symbol '.' :: .name key :: rest =>
    if names key then (suffixes root (keys ++ [.plain key]) rest).map (Term.behind 2) else none
  | .symbol '.' :: _ => none
  | .symbol '[' :: .text key :: .symbol ']' :: rest =>
    (suffixes root (keys ++ [key]) rest).map (Term.behind 3)
  | .symbol '[' :: _ => none
  | .text argument :: _ => some ⟨.call root keys argument, 1⟩
  | .symbol '(' :: .text argument :: .symbol ')' :: _ => some ⟨.call root keys argument, 3⟩
  | .symbol '(' :: _ => none
  | _ => some ⟨.path root keys, 0⟩

/-- Reads an expression that is no table. -/
def term : List Lexeme → Option Term
  | .numeral n :: _ => some ⟨.number n, 1⟩
  | .symbol '-' :: .numeral n :: _ => some ⟨.number (negate n), 2⟩
  | .text s :: _ => some ⟨.text s, 1⟩
  | .name word :: rest =>
    if word = "nil" then some ⟨.nil, 1⟩
    else if word = "true" then some ⟨.boolean true, 1⟩
    else if word = "false" then some ⟨.boolean false, 1⟩
    else if names word then (suffixes names word [] rest).map (Term.behind 1)
    else none
  | _ => none

/-! ### The machine -/

/-- An open table: its entries so far, last first, and the key whose value is awaited. -/
structure Frame where
  reversed : List (EntryKey × Expr)
  key : EntryKey
  deriving Repr, BEq

/-- What is expected next, and the tables that are open. -/
inductive State where
  /-- A value. -/
  | value (stack : List Frame)
  /-- An entry, or the end of the table. -/
  | entry (reversed : List (EntryKey × Expr)) (stack : List Frame)
  /-- A separator, or the end of the table. -/
  | separator (reversed : List (EntryKey × Expr)) (stack : List Frame)
  /-- Nothing more. -/
  | done (e : Expr)
  deriving Repr, BEq

/-- The state after a complete value. -/
def State.complete (e : Expr) : List Frame → State
  | [] => .done e
  | frame :: stack => .separator ((frame.key, e) :: frame.reversed) stack

/-- The step on a value, with the number of lexemes read. -/
def State.stepValue (stack : List Frame) (lexemes : List Lexeme) : Option (State × Nat) :=
  match lexemes with
  | .symbol '\x7b' :: _ => some (.entry [] stack, 1)
  | _ => (term names lexemes).map fun t => (.complete t.expr stack, t.length)

/-- The step on an entry or the end of a table. -/
def State.stepEntry (reversed : List (EntryKey × Expr)) (stack : List Frame)
    (lexemes : List Lexeme) : Option (State × Nat) :=
  match lexemes with
  | .symbol '\x7d' :: _ => some (.complete (.table reversed.reverse) stack, 1)
  | .symbol '[' :: .text key :: .symbol ']' :: .symbol '=' :: _ =>
    some (.value (⟨reversed, some key⟩ :: stack), 4)
  | .name key :: .symbol '=' :: _ =>
    if names key then some (.value (⟨reversed, some (.plain key)⟩ :: stack), 2) else none
  | _ => State.stepValue names (⟨reversed, none⟩ :: stack) lexemes

/-- One step of the machine, with the number of lexemes read, which is at least one. -/
def State.step (state : State) (lexemes : List Lexeme) : Option (State × Nat) :=
  match state with
  | .value stack => State.stepValue names stack lexemes
  | .entry reversed stack => State.stepEntry names reversed stack lexemes
  | .separator reversed stack =>
    match lexemes with
    | .symbol c :: _ =>
      if c = ',' ∨ c = ';' then some (.entry reversed stack, 1)
      else if c = '\x7d' then some (.complete (.table reversed.reverse) stack, 1)
      else none
    | _ => none
  | .done _ => none

/-- Runs the machine over lexemes. `skip` of them have been read. -/
def State.run (state : State) : (skip : Nat) → List Lexeme → Option State
  | _, [] => some state
  | skip + 1, _ :: rest => state.run skip rest
  | 0, lexeme :: rest => do
    let (next, length) ← state.step names (lexeme :: rest)
    next.run (length - 1) rest

/-! ### Chunks -/

/-- What a script file holds. -/
inductive Chunk where
  /-- A call of what a path leads to, with a text. -/
  | call (root : String) (keys : List ChunkText) (argument : ChunkText)
  | result (e : Expr)
  deriving Repr, BEq

/-- The expression that a list of lexemes is. -/
def Expr.ofLexemes? (lexemes : List Lexeme) : Option Expr := do
  let state ← (State.value []).run names 0 lexemes
  match state with
  | .done e => some e
  | _ => none

/-- Lexemes without a semicolon at their end. -/
def dropSemicolon (lexemes : List Lexeme) : List Lexeme :=
  if lexemes.getLast? = some (.symbol ';') then lexemes.dropLast else lexemes

/-- The chunk that a list of lexemes is. Nothing at all yields nil, and so does a `return` alone. -/
def Chunk.ofLexemes? (lexemes : List Lexeme) : Option Chunk :=
  match lexemes with
  | [] => some (.result .nil)
  | .name "return" :: rest =>
    match dropSemicolon rest with
    | [] => some (.result .nil)
    | body => (Expr.ofLexemes? names body).map .result
  | _ =>
    let body := dropSemicolon lexemes
    match term names body with
    | some ⟨.call root keys argument, length⟩ =>
      if length = body.length then some (.call root keys argument) else none
    | _ => none

/-- The chunk of a text. -/
def Chunk.read? (source : String) : Option Chunk := do
  let lexemes ← lex 0 source.toList
  Chunk.ofLexemes? names lexemes

end reading

/-! ### Checks -/

example : Chunk.read? isName "return \x7ba = 1, [\"b\"] = -2; BT.NodeType.X,\x7d"
    = some (.result (.table [(some (.plain "a"), .number (.int 1)),
        (some (.plain "b"), .number (.int (-2))),
        (none, .path "BT" [.plain "NodeType", .plain "X"])])) := by rfl
example : Chunk.read? isName "return BT.ParallelPolicy.end" = none := by rfl
example : Chunk.read? isName "return \x7b1 2\x7d" = none := by rfl

end BehaviorTree.Lua
