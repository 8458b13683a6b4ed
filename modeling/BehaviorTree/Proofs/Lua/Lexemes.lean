import BehaviorTree.Lua.Chunk
import BehaviorTree.Lua.Table
import BehaviorTree.Proofs.Lua.Lexing
import Mathlib.Data.List.Basic

/-! # Lexemes of codes

The lexemes that a table of a script is written with (`Code.lexemes`), whatever its indentation is:
`lexes_write` says that the written text is cut into just these.  This asks for little of the table
(`Code.All`): names are identifiers and numbers are finite.  No condition is put on texts. -/

namespace BehaviorTree.Lua

open BehaviorTree.Text

/-! ### Conditions on codes -/

/-- A code all of whose keys and leaves have a property. -/
inductive Code.All {α : Type} (P : Key → Prop) (Q : α → Prop) : Code α → Prop
  | leaf (a : α) (h : Q a) : All P Q (.leaf a)
  | table (entries : Table α) (hkeys : ∀ entry ∈ entries, P entry.1)
      (hvalues : ∀ entry ∈ entries, All P Q entry.2) : All P Q (.table entries)

namespace Code

variable {α : Type} {P P' : Key → Prop} {Q Q' : α → Prop}

theorem all_leaf_iff {a : α} : (leaf a).All P Q ↔ Q a := by
  constructor
  · intro h
    cases h with
    | leaf _ h => exact h
  · exact All.leaf a

theorem all_table_iff {entries : Table α} :
    (table entries).All P Q ↔ ∀ entry ∈ entries, P entry.1 ∧ entry.2.All P Q := by
  constructor
  · intro h
    cases h with
    | table _ hkeys hvalues => exact fun entry he => ⟨hkeys entry he, hvalues entry he⟩
  · exact fun h => .table entries (fun entry he => (h entry he).1) fun entry he => (h entry he).2

theorem All.mono {code : Code α} (h : code.All P Q) (hP : ∀ key, P key → P' key)
    (hQ : ∀ a, Q a → Q' a) : code.All P' Q' := by
  induction h with
  | leaf a h => exact .leaf a (hQ a h)
  | table entries hkeys hvalues ih => exact .table entries (fun e he => hP e.1 (hkeys e he)) ih

end Code

/-- A scalar that is written as one: its number is finite. -/
def Scalar.Writable : Scalar → Prop
  | number x => x.isFinite = true
  | _ => True

/-- A leaf that is written as one: names behind a point are identifiers. -/
def Leaf.Writable : Leaf → Prop
  | scalar s => s.Writable
  | member _ name => isIdentifier name = true
  | descriptor _ (some default) => default.Writable
  | _ => True

/-- A key that may be written in front of its value. -/
def Key.Writable : Key → Prop
  | named name => isIdentifierForm name.toList = true ∧ isCommonName name = true
  | _ => True

instance : DecidablePred Key.Writable
  | .named _ => inferInstanceAs (Decidable (_ ∧ _))
  | .indexed _ => .isTrue trivial
  | .positional => .isTrue trivial

/-- A code that is written as one. -/
abbrev Code.Writable : Code Leaf → Prop := Code.All Key.Writable Leaf.Writable

/-! ### Lexemes -/

/-- The number that an unsigned numeral denotes. -/
def numberOf (cs : List Char) : Number := (numberOf? cs).getD (.int 0)

/-- The lexemes of a numeral with or without a minus. -/
def numeralLexemes : List Char → List Lexeme
  | '-' :: cs => [.symbol '-', .numeral (numberOf cs)]
  | cs => [.numeral (numberOf cs)]

/-- An identifier without the line feed that may end it. -/
def bareName (name : String) : String := String.ofList (dropFinalNewline name.toList)

/-- The lexemes of a group of the game's table. -/
def groupLexemes (group : Group) : List Lexeme := [.name "BT", .symbol '.', .name group.name]

def Scalar.lexemes : Scalar → List Lexeme
  | text s => [.text (.plain s)]
  | number x => numeralLexemes (numeral x)
  | boolean b => [.name (if b then "true" else "false")]

/-- The lexemes of the default value of a descriptor, if it has one. -/
def defaultLexemes : Option Scalar → List Lexeme
  | some default => .symbol ',' :: default.lexemes
  | none => []

def Leaf.lexemes : Leaf → List Lexeme
  | nil => [.name "nil"]
  | scalar s => s.lexemes
  | member group name => groupLexemes group ++ [.symbol '.', .name (bareName name)]
  | indexed group name =>
    groupLexemes group ++ [.symbol '[', .text (.plain name), .symbol ']']
  | module path => [.name "require", .text (.plain path)]
  | descriptor key default =>
    .symbol '\x7b' :: (groupLexemes .messageType ++ .symbol '.' :: .name "BLACKBOARD" ::
      .symbol ',' :: .text (.plain key) :: (defaultLexemes default ++ [.symbol '\x7d']))

def Key.lexemes : Key → List Lexeme
  | named name => [.name name, .symbol '=']
  | indexed key => [.symbol '[', .text (.plain key), .symbol ']', .symbol '=']
  | positional => []

mutual

/-- The lexemes that a code is written with. -/
def Code.lexemes : Code Leaf → List Lexeme
  | .leaf a => a.lexemes
  | .table [] => [.symbol '\x7b', .symbol '\x7d']
  | .table ((key, value) :: rest) =>
    .symbol '\x7b' :: (key.lexemes ++ (value.lexemes ++ (entriesLexemes rest ++ [.symbol '\x7d'])))

/-- The lexemes of the entries of a table behind the first. -/
def entriesLexemes : List (Key × Code Leaf) → List Lexeme
  | [] => []
  | (key, value) :: rest =>
    .symbol ',' :: (key.lexemes ++ (value.lexemes ++ entriesLexemes rest))

end

/-! ### Leaves -/

theorem lexes_text (s : String) : Lexes anything (quoteChars s.toList) [.text (.plain s)] := by
  have h := lexes_quoted s.toList
  rwa [String.ofList_toList] at h

/-- A name of the language or of the game. -/
theorem lexes_word (s : String) (h : isIdentifierForm s.toList = true) :
    Lexes endsName s.toList [.name s] := by
  have := lexes_name h
  rwa [String.ofList_toList] at this

theorem lexes_unsigned {cs : List Char} (h : IsNumeral cs) :
    Lexes endsNumeral cs [.numeral (numberOf cs)] := by
  obtain ⟨n, hn⟩ := Option.isSome_iff_exists.1 (numberOf?_isSome h)
  rw [numberOf, hn]
  exact lexes_numeral h hn

theorem numeralLexemes_of_ne {cs : List Char} (h : ∀ ds, cs ≠ '-' :: ds) :
    numeralLexemes cs = [.numeral (numberOf cs)] := by
  unfold numeralLexemes
  split
  · exact absurd rfl (h _)
  · rfl

theorem ne_minus {cs : List Char} (h : IsNumeral cs) (ds : List Char) : cs ≠ '-' :: ds := by
  obtain ⟨c, rest, rfl, hc⟩ := h.exists_digit
  intro he
  exact absurd (List.cons.inj he).1 (ne_of_isDigit hc (by decide))

theorem lexes_signed {cs : List Char} (h : IsSigned cs) :
    Lexes endsNumeral cs (numeralLexemes cs) := by
  rcases h with h | ⟨ds, h, rfl⟩
  · rw [numeralLexemes_of_ne (ne_minus h)]
    exact lexes_unsigned h
  · refine lexes_minus.append (lexes_unsigned h) ?_
    obtain ⟨c, ds, rfl, hc⟩ := h.exists_digit
    have hne : c ≠ '-' := ne_of_isDigit hc (by decide)
    simpa using hne

theorem lexes_scalar {s : Scalar} (h : s.Writable) : Lexes endsNumeral s.write s.lexemes := by
  cases s with
  | text s => exact (lexes_text s).weaken
  | number x => exact lexes_signed (isSigned_numeral h)
  | boolean b =>
      cases b with
      | true => exact (lexes_word "true" (by decide)).mono fun _ => endsName_of_endsNumeral
      | false => exact (lexes_word "false" (by decide)).mono fun _ => endsName_of_endsNumeral

/-- A point and a name behind a name. -/
theorem Lexes.member {ends : Char → Bool} {cs ds : List Char} {ls ms : List Lexeme}
    (h : Lexes endsName cs ls) (h' : Lexes ends ds ms)
    (hstart : ds.head?.any isNameStart = true) :
    Lexes ends (cs ++ '.' :: ds) (ls ++ .symbol '.' :: ms) := by
  have hpoint : Lexes ends (['.'] ++ ds) ([.symbol '.'] ++ ms) := by
    refine lexes_point.append h' ?_
    cases ds with
    | nil => cases hstart
    | cons c ds =>
        have hcode := code_of_isNameStart hstart
        have hdigit : ¬ c.isDigit = true := fun hd => by
          have := code_of_isDigit hd
          omega
        simpa using hdigit
  exact h.append hpoint rfl

theorem isNameStart_head {cs : List Char} (h : isIdentifierForm cs = true) :
    cs.head?.any isNameStart = true := by
  cases cs with
  | nil => cases h
  | cons c cs =>
      simp only [isIdentifierForm, Bool.and_eq_true] at h
      exact h.1

theorem isIdentifierForm_group (group : Group) : isIdentifierForm group.name.toList = true := by
  cases group <;> decide

theorem lexes_group (group : Group) : Lexes endsName (Leaf.writeGroup group) (groupLexemes group) := by
  have hname := isIdentifierForm_group group
  have hwritten : Leaf.writeGroup group = "BT".toList ++ '.' :: group.name.toList := by
    rw [Leaf.writeGroup, String.toList_append]
    rfl
  rw [hwritten]
  exact (lexes_word "BT" (by decide)).member (lexes_word _ hname) (isNameStart_head hname)

/-- An identifier is the name that it is written for, or that name with a line feed. -/
theorem exists_form_of_isIdentifier {name : String} (h : isIdentifier name = true) :
    ∃ cs, isIdentifierForm cs = true ∧ bareName name = String.ofList cs ∧
      (name.toList = cs ∨ name.toList = cs ++ ['\n']) := by
  unfold bareName dropFinalNewline
  by_cases hlast : name.toList.getLast? = some '\n'
  · have hsplit := List.dropLast_append_getLast? _ hlast
    refine ⟨name.toList.dropLast, ?_, by rw [if_pos hlast], Or.inr hsplit.symm⟩
    rcases Bool.or_eq_true_iff.1 h with h | h
    · have := isIdentifierForm_all h _ (List.mem_of_getLast? hlast)
      exact absurd this (by decide)
    · rwa [dropFinalNewline, if_pos hlast] at h
  · refine ⟨name.toList, ?_, by rw [if_neg hlast], Or.inl rfl⟩
    rcases Bool.or_eq_true_iff.1 h with h | h
    · exact h
    · rwa [dropFinalNewline, if_neg hlast] at h

theorem lexes_identifier {name : String} (h : isIdentifier name = true) :
    Lexes endsName name.toList [.name (bareName name)] ∧
      name.toList.head?.any isNameStart = true := by
  obtain ⟨cs, hcs, hbare, hname | hname⟩ := exists_form_of_isIdentifier h
  · rw [hbare, hname]
    exact ⟨lexes_name hcs, isNameStart_head hcs⟩
  · rw [hbare, hname]
    refine ⟨((lexes_name hcs).append lexes_feed rfl).weaken, ?_⟩
    rw [List.head?_append]
    have := isNameStart_head hcs
    cases cs with
    | nil => cases this
    | cons c cs => exact this

/-- A comma and a blank in front of a text. -/
theorem lexes_comma {ends : Char → Bool} {cs : List Char} {ls : List Lexeme}
    (h : Lexes ends cs ls) : Lexes ends (',' :: ' ' :: cs) (.symbol ',' :: ls) := by
  exact (lexes_symbol (by simp)).append_anything (lexes_space.append_anything h)

/-- A descriptor up to its key. -/
theorem lexes_lookup (key : String) {cs : List Char} {ls : List Lexeme} (h : Lexes anything cs ls) :
    Lexes anything
      ('\x7b' :: (Leaf.writeGroup .messageType ++ (".BLACKBOARD, ".toList ++
        (quoteChars key.toList ++ cs))))
      (.symbol '\x7b' :: (groupLexemes .messageType ++ .symbol '.' :: .name "BLACKBOARD" ::
        .symbol ',' :: .text (.plain key) :: ls)) := by
  have hword : isIdentifierForm "BLACKBOARD".toList = true := by decide
  have hname := (lexes_group .messageType).member (lexes_word _ hword) (isNameStart_head hword)
  have hfront := hname.append (lexes_comma ((lexes_text key).append_anything h)) rfl
  have hall := (lexes_symbol (c := '\x7b') (by simp)).append_anything hfront
  have hwritten : ".BLACKBOARD, ".toList = '.' :: ("BLACKBOARD".toList ++ [',', ' ']) := by
    decide
  rw [hwritten]
  simpa using hall

theorem lexes_descriptor {key : String} {default : Option Scalar}
    (h : ∀ s ∈ default, s.Writable) :
    Lexes anything (Leaf.descriptor key default).write (Leaf.descriptor key default).lexemes := by
  have hend : Lexes anything ['\x7d'] [.symbol '\x7d'] := lexes_symbol (by simp)
  cases default with
  | none =>
      change Lexes anything ('\x7b' :: (Leaf.writeGroup .messageType ++ ".BLACKBOARD, ".toList ++
        quoteChars key.toList ++ [] ++ ['\x7d'])) _
      simp only [List.append_assoc]
      exact lexes_lookup key hend
  | some s =>
      change Lexes anything ('\x7b' :: (Leaf.writeGroup .messageType ++ ".BLACKBOARD, ".toList ++
        quoteChars key.toList ++ (", ".toList ++ s.write) ++ ['\x7d'])) _
      simp only [List.append_assoc]
      exact lexes_lookup key (lexes_comma ((lexes_scalar (h s rfl)).append hend rfl))

/-- **A leaf** is cut into its lexemes. -/
theorem lexes_leaf {leaf : Leaf} (h : leaf.Writable) :
    Lexes endsNumeral leaf.write leaf.lexemes := by
  cases leaf with
  | nil => exact (lexes_word "nil" (by decide)).mono fun _ => endsName_of_endsNumeral
  | scalar s => exact lexes_scalar h
  | member group name =>
      obtain ⟨hname, hstart⟩ := lexes_identifier h
      exact ((lexes_group group).member hname hstart).mono fun _ => endsName_of_endsNumeral
  | indexed group name =>
      have hkey : Lexes anything ('[' :: (quoteChars name.toList ++ [']']))
          [.symbol '[', .text (.plain name), .symbol ']'] :=
        (lexes_symbol (by simp)).append_anything
          ((lexes_text name).append_anything (lexes_symbol (by simp)))
      exact ((lexes_group group).append hkey rfl).weaken
  | module path =>
      have hblank : Lexes anything ([' '] ++ quoteChars path.toList) ([] ++ [.text (.plain path)]) :=
        lexes_space.append_anything (lexes_text path)
      exact ((lexes_word "require" (by decide)).append hblank rfl).weaken
  | descriptor key default =>
      refine (lexes_descriptor fun s hs => ?_).weaken
      obtain rfl := hs
      exact h

/-! ### Tables -/

theorem isChunkBlank_indentation {indent : List Char} (h : ∀ c ∈ indent, isChunkBlank c = true)
    (level : ℤ) : ∀ c ∈ indentation indent level, isChunkBlank c = true := by
  intro c hc
  obtain ⟨unit, hunit, hc⟩ := List.mem_flatten.1 hc
  rw [List.eq_of_mem_replicate hunit] at hc
  exact h c hc

/-- What stands before a value. -/
theorem lexes_entryStart {key : Key} (h : key.Writable) :
    Lexes anything (entryStart key) key.lexemes := by
  have hequals : Lexes anything [' ', '=', ' '] [.symbol '='] :=
    lexes_space.append_anything ((lexes_symbol (by simp)).append_anything lexes_space)
  cases key with
  | named name => exact (lexes_word name h.1).append hequals rfl
  | indexed key =>
      have hkey : Lexes anything ('[' :: (quoteChars key.toList ++ [']']))
          [.symbol '[', .text (.plain key), .symbol ']'] :=
        (lexes_symbol (by simp)).append_anything
          ((lexes_text key).append_anything (lexes_symbol (by simp)))
      exact hkey.append_anything hequals
  | positional => exact .nil

theorem head_writeEntries {indent : List Char} {level : ℤ} (entries : Table Leaf)
    (ds : List Char) :
    (writeEntries Leaf.write indent level entries ++ '\n' :: ds).head?.any endsNumeral = true := by
  cases entries with
  | nil => rfl
  | cons entry rest => rfl

section table

variable {indent : List Char} (hindent : ∀ c ∈ indent, isChunkBlank c = true)

include hindent

/-- An entry, in front of a text that ends its value. -/
theorem lexes_entry (level : ℤ) {key : Key} {cs ds : List Char} {ls ms : List Lexeme}
    (hkey : key.Writable) (hvalue : Lexes endsNumeral cs ls) (hrest : Lexes anything ds ms)
    (hend : ds.head?.any endsNumeral = true) :
    Lexes anything ('\n' :: (indentation indent level ++ entryStart key ++ cs ++ ds))
      (key.lexemes ++ (ls ++ ms)) := by
  have hall := lexes_feed.append_anything
    ((lexes_blank (isChunkBlank_indentation hindent level)).append_anything
      ((lexes_entryStart hkey).append_anything (hvalue.append hrest hend)))
  simpa using hall

/-- The brace that closes a table, on a line of its own. -/
theorem lexes_close (level : ℤ) :
    Lexes anything ('\n' :: (indentation indent level ++ ['\x7d'])) [.symbol '\x7d'] := by
  exact lexes_feed.append_anything
    ((lexes_blank (isChunkBlank_indentation hindent level)).append_anything
      (lexes_symbol (by simp)))

/-- The entries behind the first, in front of the end of the table. -/
theorem lexes_entries {level : ℤ} {entries : Table Leaf} {ds : List Char} {ms : List Lexeme}
    (hkeys : ∀ entry ∈ entries, entry.1.Writable)
    (hvalues : ∀ entry ∈ entries,
      Lexes endsNumeral (entry.2.write Leaf.write indent level) entry.2.lexemes)
    (hrest : Lexes anything ('\n' :: ds) ms) :
    Lexes anything (writeEntries Leaf.write indent level entries ++ '\n' :: ds)
      (entriesLexemes entries ++ ms) := by
  induction entries with
  | nil => exact hrest
  | cons entry rest ih =>
      obtain ⟨key, value⟩ := entry
      have hbehind := ih (fun e he => hkeys e (List.mem_cons_of_mem _ he))
        (fun e he => hvalues e (List.mem_cons_of_mem _ he))
      have hentry := lexes_entry hindent level (hkeys _ List.mem_cons_self)
        (hvalues _ List.mem_cons_self) hbehind (head_writeEntries rest ds)
      have hall := (lexes_symbol (c := ',') (by simp)).append_anything hentry
      simpa [writeEntries, entriesLexemes] using hall

/-- **A code** is cut into its lexemes, at any level and with any indentation. -/
theorem lexes_write {code : Code Leaf} (h : code.Writable) (level : ℤ) :
    Lexes endsNumeral (code.write Leaf.write indent level) code.lexemes := by
  induction h generalizing level with
  | leaf a h => exact lexes_leaf h
  | table entries hkeys hvalues ih =>
      cases entries with
      | nil =>
          have hbraces : Lexes anything (['\x7b'] ++ ['\x7d']) [.symbol '\x7b', .symbol '\x7d'] :=
            (lexes_symbol (by simp)).append_anything (lexes_symbol (by simp))
          exact hbraces.weaken
      | cons entry rest =>
          obtain ⟨key, value⟩ := entry
          have hbehind := lexes_entries hindent
            (fun e he => hkeys e (List.mem_cons_of_mem _ he))
            (fun e he => ih e (List.mem_cons_of_mem _ he) (level + 1))
            (lexes_close hindent level)
          have hentry := lexes_entry hindent (level + 1) (hkeys _ List.mem_cons_self)
            (ih _ List.mem_cons_self (level + 1)) hbehind (head_writeEntries rest _)
          have hall := (lexes_symbol (c := '\x7b') (by simp)).append_anything hentry
          refine Lexes.weaken ?_
          simpa [Code.write, Code.lexemes] using hall

end table

end BehaviorTree.Lua
