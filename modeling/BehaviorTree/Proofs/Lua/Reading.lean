import BehaviorTree.Lua.Interpreter
import BehaviorTree.Proofs.Lua.Lexemes

/-! # Reading codes

The machine that reads chunks turns the lexemes of a code into the expression that the code stands
for (`Code.expr`), or it stops: exactly at a word behind a point that is no name (`run_code`).  This
holds for any choice of the words that may stand as names, if it has the common ones
(`NamesCommon`).  Which words stand behind a point in a code has nothing to do with the machine
(`Code.Unreserved`). -/

namespace BehaviorTree.Lua

/-! ### Expressions of codes -/

/-- The expression of a numeral with or without a minus. -/
def numeralExpr : List Char → Expr
  | '-' :: cs => .number (negate (numberOf cs))
  | cs => .number (numberOf cs)

def Scalar.expr : Scalar → Expr
  | text s => .text (.plain s)
  | number x => numeralExpr (numeral x)
  | boolean b => .boolean b

def Leaf.expr : Leaf → Expr
  | nil => .nil
  | scalar s => s.expr
  | member group name => .path "BT" [.plain group.name, .plain (bareName name)]
  | indexed group name => .path "BT" [.plain group.name, .plain name]
  | module path => .call "require" [] (.plain path)
  | descriptor key default =>
    .table ((none, .path "BT" [.plain "MessageType", .plain "BLACKBOARD"]) ::
      (none, .text (.plain key)) :: (default.map fun s => (none, s.expr)).toList)

/-- The key of an entry as it is read. -/
def Key.entryKey : Key → EntryKey
  | named name => some (.plain name)
  | indexed key => some (.plain key)
  | positional => none

mutual

/-- The expression that a code stands for. -/
def Code.expr : Code Leaf → Expr
  | .leaf a => a.expr
  | .table entries => .table (entriesExpr entries)

def entriesExpr : List (Key × Code Leaf) → List (EntryKey × Expr)
  | [] => []
  | (key, value) :: rest => (key.entryKey, value.expr) :: entriesExpr rest

end

/-! ### What is read -/

/-- A leaf that is no descriptor. -/
def Leaf.Plain (leaf : Leaf) : Prop := ∀ key default, leaf ≠ descriptor key default

theorem Leaf.plain_or_descriptor (leaf : Leaf) :
    leaf.Plain ∨ ∃ key default, leaf = descriptor key default := by
  cases leaf with
  | descriptor key default => exact Or.inr ⟨key, default, rfl⟩
  | _ => exact Or.inl fun _ _ => Leaf.noConfusion

/-- The common names may stand as names. -/
def NamesCommon (names : String → Bool) : Prop := ∀ word, isCommonName word = true → names word = true

variable {names : String → Bool}

/-- Whether a leaf has no word behind a point but a name. -/
def Leaf.unreserved (names : String → Bool) : Leaf → Bool
  | member _ name => names (bareName name)
  | _ => true

mutual

/-- Whether a code has no word behind a point but names. -/
def Code.unreserved (names : String → Bool) : Code Leaf → Bool
  | .leaf a => a.unreserved names
  | .table entries => entriesUnreserved names entries

def entriesUnreserved (names : String → Bool) : List (Key × Code Leaf) → Bool
  | [] => true
  | (_, value) :: rest => value.unreserved names && entriesUnreserved names rest

end

/-- A code without a word behind a point but names. -/
abbrev Code.Unreserved (names : String → Bool) : Code Leaf → Prop :=
  Code.All (fun _ => True) fun leaf => leaf.unreserved names = true

theorem unreserved_table_iff {entries : Table Leaf} :
    (Code.table entries).Unreserved names ↔ ∀ entry ∈ entries, entry.2.Unreserved names :=
  Code.all_table_iff.trans (by simp only [true_and])

mutual

theorem unreserved_iff (code : Code Leaf) :
    code.unreserved names = true ↔ code.Unreserved names := by
  cases code with
  | leaf leaf =>
      have hleaf : (Code.leaf leaf).Unreserved names ↔ leaf.unreserved names = true :=
        Code.all_leaf_iff
      rw [hleaf]
      rfl
  | table entries => exact (entriesUnreserved_iff entries).trans unreserved_table_iff.symm

theorem entriesUnreserved_iff (entries : Table Leaf) :
    entriesUnreserved names entries = true ↔ ∀ entry ∈ entries, entry.2.Unreserved names := by
  cases entries with
  | nil => simp [entriesUnreserved]
  | cons entry rest =>
      obtain ⟨key, value⟩ := entry
      rw [entriesUnreserved, Bool.and_eq_true, unreserved_iff value, entriesUnreserved_iff rest,
        List.forall_mem_cons]

end

/-! ### The machine -/

namespace State

/-- Lexemes that have been read are skipped. -/
theorem run_skip (state : State) (skipped rest : List Lexeme) :
    state.run names skipped.length (skipped ++ rest) = state.run names 0 rest := by
  induction skipped with
  | nil => rfl
  | cons lexeme skipped ih => exact ih

/-- A step that reads the lexemes in front. -/
theorem run_step {state next : State} {rest : List Lexeme} (ls : List Lexeme) (hne : ls ≠ [])
    (h : state.step names (ls ++ rest) = some (next, ls.length)) :
    state.run names 0 (ls ++ rest) = next.run names 0 rest := by
  cases ls with
  | nil => exact absurd rfl hne
  | cons lexeme ls =>
      rw [List.cons_append] at h ⊢
      rw [run, h]
      exact run_skip next ls rest

/-- A step that is possible only under a condition. -/
theorem run_step_if {state next : State} {rest : List Lexeme} {possible : Bool} (ls : List Lexeme)
    (hne : ls ≠ [])
    (h : state.step names (ls ++ rest) = if possible then some (next, ls.length) else none) :
    state.run names 0 (ls ++ rest) = if possible then next.run names 0 rest else none := by
  cases possible with
  | true => exact run_step ls hne h
  | false =>
      cases ls with
      | nil => exact absurd rfl hne
      | cons lexeme ls =>
          rw [List.cons_append] at h ⊢
          rw [run, h]
          rfl

/-- States with the same next step run alike. -/
theorem run_congr {state state' : State} {ls : List Lexeme} (hne : ls ≠ [])
    (h : state.step names ls = state'.step names ls) :
    state.run names 0 ls = state'.run names 0 ls := by
  cases ls with
  | nil => exact absurd rfl hne
  | cons lexeme ls => rw [run, run, h]

end State

/-- What follows a value: nothing, a comma or the end of the table. -/
def Follows (rest : List Lexeme) : Prop :=
  rest = [] ∨ ∃ ls, rest = .symbol ',' :: ls ∨ rest = .symbol '\x7d' :: ls

/-- A path goes no further than it was written. -/
theorem suffixes_follows {rest : List Lexeme} (h : Follows rest) (root : String)
    (keys : List ChunkText) : suffixes names root keys rest = some ⟨.path root keys, 0⟩ := by
  rcases h with rfl | ⟨ls, rfl | rfl⟩ <;> rfl

/-! ### Leaves -/

/-- A numeral has a minus in front, or it is that of its number. -/
theorem numeral_cases (cs : List Char) :
    (∃ ds, cs = '-' :: ds) ∨
      (numeralLexemes cs = [.numeral (numberOf cs)] ∧ numeralExpr cs = .number (numberOf cs)) := by
  by_cases h : ∃ ds, cs = '-' :: ds
  · exact Or.inl h
  · have hne : ∀ ds, cs ≠ '-' :: ds := fun ds he => h ⟨ds, he⟩
    refine Or.inr ⟨numeralLexemes_of_ne hne, ?_⟩
    unfold numeralExpr
    split
    · exact absurd rfl (hne _)
    · rfl

theorem term_numeral (cs : List Char) (rest : List Lexeme) :
    term names (numeralLexemes cs ++ rest) =
      some ⟨numeralExpr cs, (numeralLexemes cs).length⟩ := by
  rcases numeral_cases cs with ⟨ds, rfl⟩ | ⟨hlexemes, hexpr⟩
  · rfl
  · rw [hlexemes, hexpr]
    rfl

theorem term_scalar (s : Scalar) (rest : List Lexeme) :
    term names (s.lexemes ++ rest) = some ⟨s.expr, s.lexemes.length⟩ := by
  cases s with
  | text s => rfl
  | number x => exact term_numeral (numeral x) rest
  | boolean b => cases b <;> rfl

theorem isCommonName_group (group : Group) : isCommonName group.name = true := by
  cases group <;> decide

/-- A group of the game's table is read, and the reading goes on behind it. -/
theorem term_group (hnames : NamesCommon names) (group : Group) (rest : List Lexeme) :
    term names (groupLexemes group ++ rest) =
      (suffixes names "BT" [.plain group.name] rest).map (Term.behind 3) := by
  have hpoint : suffixes names "BT" [] (.symbol '.' :: .name group.name :: rest) =
      (suffixes names "BT" [.plain group.name] rest).map (Term.behind 2) := by
    rw [suffixes, if_pos (hnames _ (isCommonName_group group))]
    rfl
  have hstart : term names (groupLexemes group ++ rest) =
      (suffixes names "BT" [] (.symbol '.' :: .name group.name :: rest)).map (Term.behind 1) := by
    change term names (.name "BT" :: .symbol '.' :: .name group.name :: rest) = _
    rw [term, if_neg (by decide), if_neg (by decide), if_neg (by decide),
      if_pos (hnames _ (by decide))]
  rw [hstart, hpoint, Option.map_map]
  congr 1

/-- **A leaf** that is no descriptor is one term, or it has another word than a name behind a
point. -/
theorem term_leaf (hnames : NamesCommon names) {leaf : Leaf} (hplain : leaf.Plain)
    {rest : List Lexeme} (hr : Follows rest) :
    term names (leaf.lexemes ++ rest) =
      if leaf.unreserved names then some ⟨leaf.expr, leaf.lexemes.length⟩ else none := by
  cases leaf with
  | nil => rfl
  | scalar s => exact term_scalar s rest
  | member group name =>
      have hend : suffixes names "BT" [.plain group.name, .plain (bareName name)] rest = _ :=
        suffixes_follows hr "BT" [.plain group.name, .plain (bareName name)]
      have hpoint : suffixes names "BT" [.plain group.name]
          (.symbol '.' :: .name (bareName name) :: rest) =
            if names (bareName name) then
              some ⟨.path "BT" [.plain group.name, .plain (bareName name)], 2⟩
            else none := by
        rw [suffixes]
        split_ifs with hname
        · rw [List.singleton_append, hend]
          rfl
        · rfl
      change term names (groupLexemes group ++ _ ++ rest) = if names (bareName name) then _ else _
      rw [List.append_assoc, term_group hnames]
      change (suffixes names _ _ (.symbol '.' :: .name (bareName name) :: rest)).map _ = _
      rw [hpoint]
      split_ifs <;> rfl
  | indexed group name =>
      have hend : suffixes names "BT" [.plain group.name, .plain name] rest = _ :=
        suffixes_follows hr "BT" [.plain group.name, .plain name]
      have hkey : suffixes names "BT" [.plain group.name]
          (.symbol '[' :: .text (.plain name) :: .symbol ']' :: rest) =
            some ⟨.path "BT" [.plain group.name, .plain name], 3⟩ := by
        rw [suffixes, List.singleton_append, hend]
        rfl
      change term names (groupLexemes group ++ _ ++ rest) = some _
      rw [List.append_assoc, term_group hnames]
      change (suffixes names _ _ (.symbol '[' :: .text (.plain name) :: .symbol ']' :: rest)).map _ = _
      rw [hkey]
      rfl
  | module path =>
      change term names (.name "require" :: .text (.plain path) :: rest) = _
      rw [term, if_neg (by decide), if_neg (by decide), if_neg (by decide),
        if_pos (hnames _ (by decide))]
      rfl
  | descriptor key default => exact absurd rfl (hplain key default)

/-! ### Values -/

/-- The first lexeme of a term opens no table. -/
theorem stepValue_term {ls : List Lexeme} (h : ∀ rest, ls ≠ .symbol '\x7b' :: rest)
    (stack : List Frame) :
    State.stepValue names stack ls =
      (term names ls).map fun t => (.complete t.expr stack, t.length) := by
  unfold State.stepValue
  split
  · exact absurd rfl (h _)
  · rfl

theorem exists_first_lexeme {leaf : Leaf}
    (hplain : leaf.Plain) :
    ∃ first rest, leaf.lexemes = first :: rest ∧ first ≠ .symbol '\x7b' := by
  cases leaf with
  | scalar s =>
      cases s with
      | text s => exact ⟨_, _, rfl, by simp⟩
      | boolean b => exact ⟨_, _, rfl, by simp⟩
      | number x =>
          change ∃ first rest, numeralLexemes (numeral x) = first :: rest ∧ _
          rcases numeral_cases (numeral x) with ⟨ds, hds⟩ | ⟨hlexemes, -⟩
          · rw [hds]
            exact ⟨_, _, rfl, by simp⟩
          · rw [hlexemes]
            exact ⟨_, _, rfl, by simp⟩
  | descriptor key default => exact absurd rfl (hplain key default)
  | _ => exact ⟨_, _, rfl, by simp⟩

theorem lexemes_ne_brace {leaf : Leaf} (hplain : leaf.Plain)
    (rest ls : List Lexeme) : leaf.lexemes ++ rest ≠ .symbol '\x7b' :: ls := by
  obtain ⟨first, behind, hlexemes, hne⟩ := exists_first_lexeme hplain
  rw [hlexemes]
  intro he
  exact hne (List.cons.inj he).1

theorem lexemes_ne_nil (code : Code Leaf) : code.lexemes ≠ [] := by
  intro he
  cases code with
  | table entries => cases entries <;> cases he
  | leaf leaf =>
      rcases leaf.plain_or_descriptor with hplain | ⟨key, default, rfl⟩
      · obtain ⟨first, rest, hlexemes, _⟩ := exists_first_lexeme hplain
        exact List.cons_ne_nil first rest (hlexemes.symm.trans he)
      · cases he

/-- A leaf that is no descriptor is read in one step. -/
theorem run_leaf (hnames : NamesCommon names) {leaf : Leaf} (hplain : leaf.Plain)
    (stack : List Frame) {rest : List Lexeme} (hr : Follows rest) :
    (State.value stack).run names 0 (leaf.lexemes ++ rest) =
      if leaf.unreserved names then (State.complete leaf.expr stack).run names 0 rest
      else none := by
  refine State.run_step_if leaf.lexemes (lexemes_ne_nil (.leaf leaf)) ?_
  change State.stepValue names stack _ = _
  rw [stepValue_term (lexemes_ne_brace hplain rest), term_leaf hnames hplain hr]
  cases leaf.unreserved names with
  | false => rfl
  | true => rfl

/-! ### Tables -/

/-- The value of an entry without a key is read as any other value. -/
theorem stepEntry_positional (code : Code Leaf) {rest : List Lexeme} (hr : Follows rest)
    (reversed : List (EntryKey × Expr)) (stack : List Frame) :
    State.stepEntry names reversed stack (code.lexemes ++ rest) =
      State.stepValue names (⟨reversed, none⟩ :: stack) (code.lexemes ++ rest) := by
  -- A name that is a value has no equals sign behind it.
  have hname : ∀ word, State.stepEntry names reversed stack (.name word :: rest) =
      State.stepValue names (⟨reversed, none⟩ :: stack) (.name word :: rest) := by
    intro word
    rcases hr with rfl | ⟨ls, rfl | rfl⟩ <;> rfl
  cases code with
  | table entries =>
      cases entries with
      | nil => rfl
      | cons entry rest => rfl
  | leaf leaf =>
      cases leaf with
      | nil => exact hname "nil"
      | scalar s =>
          cases s with
          | text s => rfl
          | boolean b => exact hname (if b then "true" else "false")
          | number x =>
              change State.stepEntry names _ _ (numeralLexemes (numeral x) ++ rest) =
                State.stepValue names _ (numeralLexemes (numeral x) ++ rest)
              rcases numeral_cases (numeral x) with ⟨ds, hds⟩ | ⟨hlexemes, -⟩
              · rw [hds]
                rfl
              · rw [hlexemes]
                rfl
      | _ => rfl

/-- How a code is read wherever a value is expected. -/
def ReadsAs (names : String → Bool) (code : Code Leaf) : Prop :=
  ∀ (stack : List Frame) (rest : List Lexeme), Follows rest →
    (State.value stack).run names 0 (code.lexemes ++ rest) =
      if code.unreserved names then (State.complete code.expr stack).run names 0 rest else none

theorem run_entry (hnames : NamesCommon names) {key : Key} {value : Code Leaf}
    (hkey : key.Writable) (hvalue : ReadsAs names value) (reversed : List (EntryKey × Expr))
    (stack : List Frame) {rest : List Lexeme} (hr : Follows rest) :
    (State.entry reversed stack).run names 0 (key.lexemes ++ (value.lexemes ++ rest)) =
      if value.unreserved names then
        (State.separator ((key.entryKey, value.expr) :: reversed) stack).run names 0 rest
      else none := by
  cases key with
  | named name =>
      have hstep : (State.entry reversed stack).run names 0
          ([.name name, .symbol '='] ++ (value.lexemes ++ rest)) =
          (State.value (⟨reversed, some (.plain name)⟩ :: stack)).run names 0
            (value.lexemes ++ rest) :=
        State.run_step [.name name, .symbol '='] (List.cons_ne_nil _ _)
          (if_pos (hnames _ hkey.2))
      change (State.entry reversed stack).run names 0 ([.name name, .symbol '='] ++ _) = _
      rw [hstep]
      exact hvalue (⟨reversed, some (.plain name)⟩ :: stack) rest hr
  | indexed key =>
      have hstep : (State.entry reversed stack).run names 0
          ([.symbol '[', .text (.plain key), .symbol ']', .symbol '='] ++
            (value.lexemes ++ rest)) =
          (State.value (⟨reversed, some (.plain key)⟩ :: stack)).run names 0
            (value.lexemes ++ rest) :=
        State.run_step [.symbol '[', .text (.plain key), .symbol ']', .symbol '=']
          (List.cons_ne_nil _ _) rfl
      change (State.entry reversed stack).run names 0
        ([.symbol '[', .text (.plain key), .symbol ']', .symbol '='] ++ _) = _
      rw [hstep]
      exact hvalue (⟨reversed, some (.plain key)⟩ :: stack) rest hr
  | positional =>
      have hstep : (State.entry reversed stack).run names 0 (value.lexemes ++ rest) =
          (State.value (⟨reversed, none⟩ :: stack)).run names 0 (value.lexemes ++ rest) :=
        State.run_congr (by simp [lexemes_ne_nil]) (stepEntry_positional value hr reversed stack)
      change (State.entry reversed stack).run names 0 (value.lexemes ++ rest) = _
      rw [hstep]
      exact hvalue (⟨reversed, none⟩ :: stack) rest hr

/-- The end of a table, behind an entry or in an empty one. -/
theorem run_close (reversed : List (EntryKey × Expr)) (stack : List Frame) (rest : List Lexeme) :
    (State.separator reversed stack).run names 0 (.symbol '\x7d' :: rest) =
      (State.complete (.table reversed.reverse) stack).run names 0 rest :=
  State.run_step [.symbol '\x7d'] (List.cons_ne_nil _ _) rfl

theorem follows_entries (entries : Table Leaf) (rest : List Lexeme) :
    Follows (entriesLexemes entries ++ .symbol '\x7d' :: rest) := by
  cases entries with
  | nil => exact Or.inr ⟨rest, Or.inr rfl⟩
  | cons entry entries => exact Or.inr ⟨_, Or.inl rfl⟩

theorem run_entries (hnames : NamesCommon names) {entries : Table Leaf}
    (hkeys : ∀ entry ∈ entries, entry.1.Writable)
    (hvalues : ∀ entry ∈ entries, ReadsAs names entry.2) (reversed : List (EntryKey × Expr))
    (stack : List Frame) (rest : List Lexeme) :
    (State.separator reversed stack).run names 0
        (entriesLexemes entries ++ .symbol '\x7d' :: rest) =
      if entriesUnreserved names entries then
        (State.complete (.table (reversed.reverse ++ entriesExpr entries)) stack).run names 0 rest
      else none := by
  induction entries generalizing reversed with
  | nil =>
      have hclose := @run_close names reversed stack rest
      simpa [entriesLexemes, entriesUnreserved, entriesExpr] using hclose
  | cons entry entries ih =>
      obtain ⟨key, value⟩ := entry
      have hcomma : (State.separator reversed stack).run names 0
          (.symbol ',' :: (key.lexemes ++ (value.lexemes ++
            (entriesLexemes entries ++ .symbol '\x7d' :: rest)))) =
          (State.entry reversed stack).run names 0
            (key.lexemes ++ (value.lexemes ++ (entriesLexemes entries ++ .symbol '\x7d' :: rest))) :=
        State.run_step [.symbol ','] (List.cons_ne_nil _ _) rfl
      have hentry := run_entry hnames (hkeys _ List.mem_cons_self) (hvalues _ List.mem_cons_self)
        reversed stack (follows_entries entries rest)
      have hbehind := ih (fun e he => hkeys e (List.mem_cons_of_mem _ he))
        (fun e he => hvalues e (List.mem_cons_of_mem _ he)) ((key.entryKey, value.expr) :: reversed)
      simp only [entriesLexemes, List.cons_append, List.append_assoc, entriesUnreserved, entriesExpr]
      rw [hcomma, hentry, hbehind]
      by_cases hvalue : value.unreserved names = true <;> simp [hvalue]

/-- A table is read when its entries are. -/
theorem readsAs_table (hnames : NamesCommon names) {entries : Table Leaf}
    (hkeys : ∀ entry ∈ entries, entry.1.Writable)
    (hvalues : ∀ entry ∈ entries, ReadsAs names entry.2) : ReadsAs names (.table entries) := by
  intro stack rest hr
  have hopen : ∀ ls, (State.value stack).run names 0 (.symbol '\x7b' :: ls) =
      (State.entry [] stack).run names 0 ls :=
    fun ls => State.run_step [.symbol '\x7b'] (List.cons_ne_nil _ _) rfl
  cases entries with
  | nil =>
      have hclose : (State.entry [] stack).run names 0 (.symbol '\x7d' :: rest) =
          (State.complete (.table []) stack).run names 0 rest :=
        State.run_step [.symbol '\x7d'] (List.cons_ne_nil _ _) rfl
      simp only [Code.lexemes, List.cons_append, List.nil_append, hopen, hclose, Code.unreserved,
        entriesUnreserved, Code.expr, entriesExpr, if_true]
  | cons entry entries =>
      obtain ⟨key, value⟩ := entry
      have hentry := run_entry hnames (hkeys _ List.mem_cons_self) (hvalues _ List.mem_cons_self) []
        stack (follows_entries entries rest)
      have hbehind := run_entries hnames (fun e he => hkeys e (List.mem_cons_of_mem _ he))
        (fun e he => hvalues e (List.mem_cons_of_mem _ he)) [(key.entryKey, value.expr)] stack rest
      simp only [Code.lexemes, List.cons_append, List.append_assoc, List.nil_append, hopen, hentry,
        hbehind, Code.unreserved, entriesUnreserved, Code.expr, entriesExpr]
      by_cases hvalue : value.unreserved names = true <;> simp [hvalue]

/-! ### Descriptors -/

/-- The table that a descriptor is. -/
def descriptorTable (key : String) (default : Option Scalar) : Table Leaf :=
  (.positional, .leaf (.member .messageType "BLACKBOARD")) ::
    (.positional, .leaf (.scalar (.text key))) ::
    (default.map fun s => (.positional, .leaf (.scalar s))).toList

theorem readsAs_plain (hnames : NamesCommon names) {leaf : Leaf} (hplain : leaf.Plain) :
    ReadsAs names (.leaf leaf) :=
  fun stack _ hr => run_leaf hnames hplain stack hr

/-- The entries of the table of a descriptor have no keys, and no descriptors inside. -/
theorem plain_of_mem_descriptorTable {key : String} {default : Option Scalar}
    {entry : Key × Code Leaf} (h : entry ∈ descriptorTable key default) :
    ∃ leaf : Leaf, entry = (.positional, .leaf leaf) ∧ leaf.Plain := by
  rcases List.mem_cons.1 h with rfl | h
  · exact ⟨_, rfl, fun _ _ => Leaf.noConfusion⟩
  rcases List.mem_cons.1 h with rfl | h
  · exact ⟨_, rfl, fun _ _ => Leaf.noConfusion⟩
  obtain ⟨s, -, rfl⟩ := Option.map_eq_some_iff.1 (Option.mem_toList.1 h)
  exact ⟨_, rfl, fun _ _ => Leaf.noConfusion⟩

theorem bareName_blackboard : bareName "BLACKBOARD" = "BLACKBOARD" := by decide

theorem lexemes_descriptorTable (key : String) (default : Option Scalar) :
    (Code.table (descriptorTable key default)).lexemes = (Leaf.descriptor key default).lexemes := by
  cases default with
  | none =>
      simp [descriptorTable, Code.lexemes, entriesLexemes, Key.lexemes, Leaf.lexemes,
        Scalar.lexemes, defaultLexemes, bareName_blackboard]
  | some s =>
      simp [descriptorTable, Code.lexemes, entriesLexemes, Key.lexemes, Leaf.lexemes,
        Scalar.lexemes, defaultLexemes, bareName_blackboard]

theorem expr_descriptorTable (key : String) (default : Option Scalar) :
    (Code.table (descriptorTable key default)).expr = (Leaf.descriptor key default).expr := by
  cases default with
  | none =>
      simp [descriptorTable, Code.expr, entriesExpr, Key.entryKey, Leaf.expr, Scalar.expr,
        Group.name, bareName_blackboard]
  | some s =>
      simp [descriptorTable, Code.expr, entriesExpr, Key.entryKey, Leaf.expr, Scalar.expr,
        Group.name, bareName_blackboard]

theorem unreserved_descriptorTable (hnames : NamesCommon names) (key : String)
    (default : Option Scalar) :
    (Code.table (descriptorTable key default)).unreserved names = true := by
  have hname : names "BLACKBOARD" = true := hnames _ (by decide)
  cases default <;>
    simp [descriptorTable, Code.unreserved, entriesUnreserved, Leaf.unreserved, bareName_blackboard,
      hname]

theorem readsAs_descriptor (hnames : NamesCommon names) (key : String) (default : Option Scalar) :
    ReadsAs names (.leaf (.descriptor key default)) := by
  have htable : ReadsAs names (.table (descriptorTable key default)) := by
    refine readsAs_table hnames (fun entry he => ?_) fun entry he => ?_
    · obtain ⟨leaf, rfl, -⟩ := plain_of_mem_descriptorTable he
      trivial
    · obtain ⟨leaf, rfl, hplain⟩ := plain_of_mem_descriptorTable he
      exact readsAs_plain hnames hplain
  intro stack rest hr
  have h := htable stack rest hr
  rw [lexemes_descriptorTable, expr_descriptorTable, unreserved_descriptorTable hnames] at h
  exact h

/-- **Reading a code**: its lexemes are read as its expression, or the machine stops. -/
theorem run_code (hnames : NamesCommon names) {code : Code Leaf} (h : code.Writable) :
    ReadsAs names code := by
  induction h with
  | leaf leaf h =>
      rcases leaf.plain_or_descriptor with hplain | ⟨key, default, rfl⟩
      · exact readsAs_plain hnames hplain
      · exact readsAs_descriptor hnames key default
  | table entries hkeys hvalues ih => exact readsAs_table hnames hkeys ih

end BehaviorTree.Lua
