import BehaviorTree.Json.Display
import BehaviorTree.Json.Reader
import BehaviorTree.Proofs.Json.Scanning
import BehaviorTree.Proofs.Success

/-! # Reading what was written

The text of a document value, compact or indented, is read as the value again (`parse_render`), with
null in the place of numbers that are not finite.  The integers in it have to be short enough to be
read, and the keys of each object distinct; a text with longer integers is not read at all
(`hasText_of_parse_render`).

Between the text and the value stand the tokens of the value: the scanner cuts the text into them
(`cuts_write`), wherever blanks were put, and the machine builds the value from them
(`takes_tokens`). -/

namespace BehaviorTree.Json

open BehaviorTree.Text BehaviorTree.Decimal

/-! ### Values and their tokens -/

mutual

/-- The tokens of a value. -/
def tokens : Json → List Token
  | .null => [.scalar .null]
  | .bool b => [.scalar (.bool b)]
  | .number n => [numberToken n]
  | .text s => [.text s]
  | .array [] => [.openArray, .closeArray]
  | .array (item :: rest) => .openArray :: (tokens item ++ (itemTokens rest ++ [.closeArray]))
  | .object [] => [.openObject, .closeObject]
  | .object ((key, value) :: rest) =>
    .openObject :: .text key :: .colon :: (tokens value ++ (fieldTokens rest ++ [.closeObject]))

/-- The tokens of the items of a list behind the first. -/
def itemTokens : List Json → List Token
  | [] => []
  | item :: rest => .comma :: (tokens item ++ itemTokens rest)

/-- The tokens of the fields of an object behind the first. -/
def fieldTokens : List (String × Json) → List Token
  | [] => []
  | (key, value) :: rest =>
    .comma :: .text key :: .colon :: (tokens value ++ fieldTokens rest)

end

mutual

/-- What is read of the text of a value: a number that is not finite has become null. -/
def printed : Json → Json
  | .null => .null
  | .bool b => .bool b
  | .number (.int n) => .number (.int n)
  | .number (.float x) => if x.isFinite then .number (.float x) else .null
  | .text s => .text s
  | .array items => .array (printedItems items)
  | .object fields => .object (printedFields fields)

/-- The items that are read of the text of a list. -/
def printedItems : List Json → List Json
  | [] => []
  | item :: rest => printed item :: printedItems rest

/-- The fields that are read of the text of an object. -/
def printedFields : List (String × Json) → List (String × Json)
  | [] => []
  | (key, value) :: rest => (key, printed value) :: printedFields rest

end

mutual

/-- A value whose text can be read: its integers are short enough, and no object has a key twice. -/
def Readable : Json → Prop
  | .null | .bool _ | .text _ | .number (.float _) => True
  | .number (.int n) => isWritable n = true
  | .array items => ReadableItems items
  | .object fields => (fields.map Prod.fst).Nodup ∧ ReadableFields fields

/-- All items of a list can be read. -/
def ReadableItems : List Json → Prop
  | [] => True
  | item :: rest => Readable item ∧ ReadableItems rest

/-- The values of all fields of an object can be read. -/
def ReadableFields : List (String × Json) → Prop
  | [] => True
  | (_, value) :: rest => Readable value ∧ ReadableFields rest

end

theorem printedItems_eq_map (items : List Json) : printedItems items = items.map printed := by
  induction items with
  | nil => rfl
  | cons item rest ih => rw [printedItems, ih, List.map_cons]

theorem printedFields_eq_map (fields : List (String × Json)) :
    printedFields fields = fields.map fun field => (field.1, printed field.2) := by
  induction fields with
  | nil => rfl
  | cons field rest ih => rw [printedFields, ih, List.map_cons]

theorem readableItems_iff (items : List Json) :
    ReadableItems items ↔ ∀ item ∈ items, Readable item := by
  induction items with
  | nil => simp [ReadableItems]
  | cons item rest ih => simp [ReadableItems, ih]

theorem readableFields_iff (fields : List (String × Json)) :
    ReadableFields fields ↔ ∀ field ∈ fields, Readable field.2 := by
  induction fields with
  | nil => simp [ReadableFields]
  | cons field rest ih => simp [ReadableFields, ih]

/-! ### Cutting a text -/

/-- A character that ends any value in front of it. -/
def delimits (c : Char) : Bool := c = ',' || c = ']' || c = '\x7d' || c = '\n'

theorem endsNumber_of_delimits {c : Char} (h : delimits c = true) : endsNumber c = true := by
  simp only [delimits, Bool.or_eq_true, decide_eq_true_eq] at h
  rcases h with ((rfl | rfl) | rfl) | rfl <;> rfl

/-- A text that is cut into some tokens, whatever follows it and whatever stands for half a surrogate
pair. -/
def Loose (cs : List Char) (ts : List Token) : Prop :=
  ∀ half rest offset, ∃ ls, ls.map Lexeme.token = ts ∧
    lex half 0 offset (cs ++ rest) = ls ++ lex half 0 (offset + cs.length) rest

/-- A text that is cut into some tokens if a delimiter or nothing follows it. -/
def Cuts (cs : List Char) (ts : List Token) : Prop :=
  ∀ half rest offset, rest.head?.all delimits = true → ∃ ls, ls.map Lexeme.token = ts ∧
    lex half 0 offset (cs ++ rest) = ls ++ lex half 0 (offset + cs.length) rest

section cutting

variable {cs ds : List Char} {ts us : List Token}

theorem Loose.cuts (h : Loose cs ts) : Cuts cs ts := fun half rest offset _ => h half rest offset

theorem Loose.nil : Loose [] [] := fun _ _ _ => ⟨[], rfl, rfl⟩

theorem Loose.append (h : Loose cs ts) (h' : Loose ds us) : Loose (cs ++ ds) (ts ++ us) := by
  intro half rest offset
  obtain ⟨ls, hls, hlex⟩ := h half (ds ++ rest) offset
  obtain ⟨ms, hms, hlex'⟩ := h' half rest (offset + cs.length)
  refine ⟨ls ++ ms, by rw [List.map_append, hls, hms], ?_⟩
  rw [List.append_assoc, hlex, hlex', List.append_assoc, List.length_append, Nat.add_assoc]

theorem Loose.append_cuts (h : Loose cs ts) (h' : Cuts ds us) : Cuts (cs ++ ds) (ts ++ us) := by
  intro half rest offset hrest
  obtain ⟨ls, hls, hlex⟩ := h half (ds ++ rest) offset
  obtain ⟨ms, hms, hlex'⟩ := h' half rest (offset + cs.length) hrest
  refine ⟨ls ++ ms, by rw [List.map_append, hls, hms], ?_⟩
  rw [List.append_assoc, hlex, hlex', List.append_assoc, List.length_append, Nat.add_assoc]

theorem Cuts.append (h : Cuts cs ts) (h' : Cuts ds us) (hd : ds.head?.all delimits = true) :
    Cuts (cs ++ ds) (ts ++ us) := by
  intro half rest offset hrest
  have hhead : (ds ++ rest).head?.all delimits = true := by
    cases ds with
    | nil => exact hrest
    | cons d ds => exact hd
  obtain ⟨ls, hls, hlex⟩ := h half (ds ++ rest) offset hhead
  obtain ⟨ms, hms, hlex'⟩ := h' half rest (offset + cs.length) hrest
  refine ⟨ls ++ ms, by rw [List.map_append, hls, hms], ?_⟩
  rw [List.append_assoc, hlex, hlex', List.append_assoc, List.length_append, Nat.add_assoc]

/-- A text that is scanned as one token is cut into it. -/
theorem lex_of_scan {half : Char} {token : Token} {rest : List Char} {offset : ℕ}
    (hgap : cs.head?.all isGap = false) (hscan : scan half (cs ++ rest) = (token, cs.length))
    (hends : token.endsText = false) :
    lex half 0 offset (cs ++ rest) = ⟨token, offset⟩ :: lex half 0 (offset + cs.length) rest := by
  cases cs with
  | nil => cases hgap
  | cons c cs =>
      have hc : isGap c = false := hgap
      rw [List.cons_append] at hscan ⊢
      rw [lex, hc, if_neg (by simp), hscan]
      simp only [hends, Bool.false_eq_true, if_false, List.length_cons, Nat.add_sub_cancel]
      rw [lex_drop, List.drop_left, Nat.add_assoc, Nat.add_comm 1]

theorem loose_gaps (h : cs.all isGap = true) : Loose cs [] := by
  induction cs with
  | nil => exact Loose.nil
  | cons c cs ih =>
      intro half rest offset
      rw [List.all_cons, Bool.and_eq_true] at h
      obtain ⟨ls, hls, hlex⟩ := ih h.2 half rest (offset + 1)
      refine ⟨ls, hls, ?_⟩
      rw [List.cons_append, lex, if_pos h.1, hlex, List.length_cons, Nat.add_assoc, Nat.add_comm 1]

theorem loose_lineBreak (indent : Option ℕ) (level : ℕ) : Loose (lineBreak indent level) [] := by
  refine loose_gaps ?_
  cases indent with
  | none => rfl
  | some width => simp [lineBreak, isGap]

theorem loose_of_scan {token : Token} (hgap : cs.head?.all isGap = false)
    (hscan : ∀ half rest, scan half (cs ++ rest) = (token, cs.length))
    (hends : token.endsText = false) : Loose cs [token] :=
  fun half rest _ => ⟨[_], rfl, lex_of_scan hgap (hscan half rest) hends⟩

theorem loose_writeText (s : String) : Loose (writeText s) [.text s] :=
  loose_of_scan rfl (fun _ => scan_writeText s) rfl

theorem loose_keyEnd (indent : Option ℕ) : Loose (keyEnd indent) [.colon] := by
  have hcolon : Loose [':'] [.colon] := loose_of_scan rfl (fun _ _ => rfl) rfl
  cases indent with
  | none => exact hcolon
  | some width =>
      have hspace : Loose [' '] [] := loose_gaps rfl
      exact hcolon.append hspace

end cutting

/-- The token of a number ends no text. -/
theorem endsText_numberToken (n : Number) : (numberToken n).endsText = false := by
  cases n with
  | int n =>
      rw [numberToken]
      split_ifs <;> rfl
  | float x => rfl

/-- A number that is signed starts with a minus or a digit. -/
theorem head_signed (negative : Bool) {cs : List Char} (hcs : ∃ c ∈ cs.head?, c.isDigit = true) :
    ∃ c ∈ ((if negative then ['-'] else []) ++ cs).head?,
      c.isDigit = true ∨ c ∈ ['-', 'n'] := by
  cases negative with
  | true => exact ⟨'-', rfl, Or.inr List.mem_cons_self⟩
  | false =>
      obtain ⟨c, hc, hdigit⟩ := hcs
      exact ⟨c, hc, Or.inl hdigit⟩

/-- What stands for a number starts with a minus, with a digit, or with the letter of null. -/
theorem head_writeNumber (n : Number) :
    ∃ c ∈ (writeNumber n).head?, c.isDigit = true ∨ c ∈ ['-', 'n'] := by
  cases n with
  | int i =>
      have hdigit : ∃ c ∈ (Nat.toDigits 10 i.natAbs ++ []).head?, c.isDigit = true :=
        exists_digit (digits_toDigits i.natAbs) Nat.toDigits_ne_nil
      rw [List.append_nil] at hdigit
      rw [writeNumber, toList_ofInt]
      exact head_signed _ hdigit
  | float x =>
      rw [writeNumber]
      by_cases hx : x.isFinite = true
      · obtain ⟨n, hproper, hchars, -⟩ := Layout.document.exists_numeral hx
        have hdigit : ∃ c ∈ n.chars.head?, c.isDigit = true :=
          exists_digit hproper.whole_digits hproper.whole_ne_nil
        have hhead := head_signed (decide (x.toBits >>> 63 = 1)) hdigit
        rw [if_pos hx, hchars]
        simpa using hhead
      · rw [if_neg hx]
        exact ⟨'n', rfl, Or.inr (by decide)⟩

/-- No character but those starts a number. -/
theorem head_writeNumber_all (n : Number) {p : Char → Bool}
    (hdigit : ∀ c : Char, c.isDigit = true → p c = false) (hminus : p '-' = false)
    (hletter : p 'n' = false) : (writeNumber n).head?.all p = false := by
  obtain ⟨c, hc, hstart⟩ := head_writeNumber n
  have hhead : (writeNumber n).head? = some c := hc
  have hp : p c = false := by
    rcases hstart with h | h
    · exact hdigit c h
    · rcases List.mem_pair.1 h with rfl | rfl
      · exact hminus
      · exact hletter
  rw [hhead]
  exact hp

theorem isGap_digit {c : Char} (h : c.isDigit = true) : isGap c = false := by
  simp only [isGap, Bool.or_eq_false_iff, decide_eq_false_iff_not]
  exact ⟨⟨⟨ne_of_isDigit h (by decide), ne_of_isDigit h (by decide)⟩,
    ne_of_isDigit h (by decide)⟩, ne_of_isDigit h (by decide)⟩

theorem cuts_writeNumber (n : Number) : Cuts (writeNumber n) [numberToken n] := by
  intro half rest offset hrest
  have hends : rest.head?.all endsNumber = true := by
    cases rest with
    | nil => rfl
    | cons c rest => exact endsNumber_of_delimits hrest
  exact ⟨[_], rfl, lex_of_scan
    (head_writeNumber_all n (fun _ => isGap_digit) (by decide) (by decide))
    (scan_writeNumber hends) (endsText_numberToken n)⟩

theorem head_writeItems (indent : Option ℕ) (level : ℕ) (items : List Json) {cs : List Char}
    (h : cs.head?.all delimits = true) :
    (writeItems indent level items ++ cs).head?.all delimits = true := by
  cases items with
  | nil => exact h
  | cons item rest => rfl

theorem head_writeFields (indent : Option ℕ) (level : ℕ) (fields : List (String × Json))
    {cs : List Char} (h : cs.head?.all delimits = true) :
    (writeFields indent level fields ++ cs).head?.all delimits = true := by
  cases fields with
  | nil => exact h
  | cons field rest => rfl

theorem head_lineBreak (indent : Option ℕ) (level : ℕ) {c : Char} (h : delimits c = true) :
    (lineBreak indent level ++ [c]).head?.all delimits = true := by
  cases indent with
  | none => exact h
  | some width => rfl

/-- The end of a list or an object. -/
theorem loose_end (indent : Option ℕ) (level : ℕ) {c : Char} {token : Token}
    (h : Loose [c] [token]) : Loose (lineBreak indent level ++ [c]) [token] :=
  (loose_lineBreak indent level).append h

mutual

/-- **The text of a value is cut into its tokens**, in either form. -/
theorem cuts_write (indent : Option ℕ) (level : ℕ) :
    ∀ v : Json, Cuts (write indent level v) (tokens v)
  | .null => (loose_of_scan rfl (fun _ => scan_null) rfl).cuts
  | .bool true => (loose_of_scan rfl (fun _ => scan_true) rfl).cuts
  | .bool false => (loose_of_scan rfl (fun _ => scan_false) rfl).cuts
  | .number n => by
      rw [write, tokens]
      exact cuts_writeNumber n
  | .text s => by
      rw [write, tokens]
      exact (loose_writeText s).cuts
  | .array [] => by
      have hopen : Loose ['['] [.openArray] := loose_of_scan rfl (fun _ _ => rfl) rfl
      have hclose : Loose [']'] [.closeArray] := loose_of_scan rfl (fun _ _ => rfl) rfl
      rw [write, tokens]
      exact (hopen.append hclose).cuts
  | .array (item :: rest) => by
      have hopen : Loose ['['] [.openArray] := loose_of_scan rfl (fun _ _ => rfl) rfl
      have hclose : Loose [']'] [.closeArray] := loose_of_scan rfl (fun _ _ => rfl) rfl
      have hrest := (cuts_writeItems indent (level + 1) rest).append
        (loose_end indent level hclose).cuts (head_lineBreak indent level rfl)
      have hitem := (cuts_write indent (level + 1) item).append hrest
        (head_writeItems indent _ rest (head_lineBreak indent level rfl))
      have hall := hopen.append_cuts ((loose_lineBreak indent (level + 1)).append_cuts hitem)
      rw [write, tokens]
      simpa using hall
  | .object [] => by
      have hopen : Loose ['\x7b'] [.openObject] := loose_of_scan rfl (fun _ _ => rfl) rfl
      have hclose : Loose ['\x7d'] [.closeObject] := loose_of_scan rfl (fun _ _ => rfl) rfl
      rw [write, tokens]
      exact (hopen.append hclose).cuts
  | .object ((key, value) :: rest) => by
      have hopen : Loose ['\x7b'] [.openObject] := loose_of_scan rfl (fun _ _ => rfl) rfl
      have hclose : Loose ['\x7d'] [.closeObject] := loose_of_scan rfl (fun _ _ => rfl) rfl
      have hrest := (cuts_writeFields indent (level + 1) rest).append
        (loose_end indent level hclose).cuts (head_lineBreak indent level rfl)
      have hvalue := (cuts_write indent (level + 1) value).append hrest
        (head_writeFields indent _ rest (head_lineBreak indent level rfl))
      have hfield := (loose_writeText key).append_cuts ((loose_keyEnd indent).append_cuts hvalue)
      have hall := hopen.append_cuts ((loose_lineBreak indent (level + 1)).append_cuts hfield)
      rw [write, tokens]
      simpa using hall

theorem cuts_writeItems (indent : Option ℕ) (level : ℕ) :
    ∀ items : List Json, Cuts (writeItems indent level items) (itemTokens items)
  | [] => Loose.nil.cuts
  | item :: rest => by
      have hcomma : Loose [','] [.comma] := loose_of_scan rfl (fun _ _ => rfl) rfl
      have hhead : (writeItems indent level rest ++ []).head?.all delimits = true :=
        head_writeItems indent level rest rfl
      rw [List.append_nil] at hhead
      have hitem := (cuts_write indent level item).append
        (cuts_writeItems indent level rest) hhead
      have hall := hcomma.append_cuts ((loose_lineBreak indent level).append_cuts hitem)
      rw [writeItems, itemTokens]
      simpa using hall

theorem cuts_writeFields (indent : Option ℕ) (level : ℕ) :
    ∀ fields : List (String × Json), Cuts (writeFields indent level fields) (fieldTokens fields)
  | [] => Loose.nil.cuts
  | (key, value) :: rest => by
      have hcomma : Loose [','] [.comma] := loose_of_scan rfl (fun _ _ => rfl) rfl
      have hhead : (writeFields indent level rest ++ []).head?.all delimits = true :=
        head_writeFields indent level rest rfl
      rw [List.append_nil] at hhead
      have hvalue := (cuts_write indent level value).append
        (cuts_writeFields indent level rest) hhead
      have hfield := (loose_writeText key).append_cuts ((loose_keyEnd indent).append_cuts hvalue)
      have hall := hcomma.append_cuts ((loose_lineBreak indent level).append_cuts hfield)
      rw [writeFields, fieldTokens]
      simpa using hall

end

/-! ### Building the value -/

/-- The machine takes some tokens from one state to another, wherever they stand. -/
def Takes (state : State) (ts : List Token) (state' : State) : Prop :=
  ∀ ls, ls.map Lexeme.token = ts → state.run ls = .ok state'

section building

variable {state state' state'' : State} {ts us : List Token}

theorem Takes.nil (state : State) : Takes state [] state := by
  intro ls hls
  rw [List.map_eq_nil_iff.1 hls]
  rfl

theorem Takes.append (h : Takes state ts state') (h' : Takes state' us state'') :
    Takes state (ts ++ us) state'' := by
  intro ls hls
  obtain ⟨ls, ms, rfl, hls, hms⟩ := List.map_eq_append_iff.1 hls
  rw [run_append, h ls hls]
  exact h' ms hms

theorem Takes.cons {t : Token} (hstep : ∀ offset, state.step ⟨t, offset⟩ = .ok state')
    (h : Takes state' ts state'') : Takes state (t :: ts) state'' := by
  intro ls hls
  obtain ⟨⟨_, offset⟩, ls, rfl, rfl, hrest⟩ := List.map_eq_cons_iff.1 hls
  rw [run_cons, hstep offset]
  exact h ls hrest

/-- In front of its first item a list expects a value, as behind a comma. -/
theorem Takes.arrayStart {stack : List Frame} {t : Token} (ht : t ≠ .closeArray)
    (h : Takes (.awaitValue (.array [] :: stack)) (t :: ts) state') :
    Takes (.arrayStart stack) (t :: ts) state' := by
  intro ls hls
  rw [← h ls hls]
  obtain ⟨l, ls, rfl, hl, -⟩ := List.map_eq_cons_iff.1 hls
  rw [run_cons, run_cons]
  subst hl
  congr 1
  simp only [State.step]

end building

theorem exists_tokens (v : Json) : ∃ t ts, tokens v = t :: ts ∧ t ≠ .closeArray := by
  rcases v with _ | b | n | s | (_ | ⟨item, rest⟩) | (_ | ⟨⟨key, value⟩, rest⟩)
  case number =>
    refine ⟨numberToken n, [], rfl, ?_⟩
    cases n with
    | int n =>
        rw [numberToken]
        split_ifs <;> exact fun h => by cases h
    | float x => exact fun h => by cases h
  all_goals exact ⟨_, _, rfl, fun h => by cases h⟩

theorem complete_item (value : Json) (reversed : List Json) (stack : List Frame) :
    State.complete value (.array reversed :: stack) = .arrayNext (value :: reversed) stack := rfl

/-- A field with a new key goes to the end. -/
theorem complete_field {key : String} (value : Json) {fields : List (String × Json)}
    (h : key ∉ fields.map Prod.fst) (stack : List Frame) :
    State.complete value (.object fields key :: stack) =
      .objectNext (fields ++ [(key, value)]) stack := by
  have hput : setField key value fields = fields ++ [(key, value)] := Keyed.put_of_notMem h
  rw [State.complete, hput]

mutual

/-- **The machine builds a value from its tokens.** -/
theorem takes_tokens : ∀ (v : Json) (stack : List Frame), Readable v →
    Takes (.awaitValue stack) (tokens v) (.complete (printed v) stack)
  | .null, stack, _ => Takes.cons (fun _ => rfl) (Takes.nil _)
  | .bool b, stack, _ => Takes.cons (fun _ => rfl) (Takes.nil _)
  | .number (.int n), stack, h => by
      have hn : isWritable n = true := h
      rw [tokens, numberToken, if_pos hn]
      exact Takes.cons (fun _ => rfl) (Takes.nil _)
  | .number (.float x), stack, _ => Takes.cons (fun _ => rfl) (Takes.nil _)
  | .text s, stack, _ => Takes.cons (fun _ => rfl) (Takes.nil _)
  | .array [], stack, _ => Takes.cons (fun _ => rfl) (Takes.cons (fun _ => rfl) (Takes.nil _))
  | .array (item :: rest), stack, h => by
      rw [Readable, ReadableItems] at h
      have hitem := takes_tokens item (.array [] :: stack) h.1
      rw [complete_item] at hitem
      have hrest := takes_itemTokens rest [printed item] stack h.2
      have hend : Takes (.arrayNext ((printedItems rest).reverse ++ [printed item]) stack)
          [.closeArray] (.complete (printed (.array (item :: rest))) stack) := by
        refine Takes.cons (fun _ => ?_) (Takes.nil _)
        rw [printed, printedItems]
        simp [State.step]
      have hall := hitem.append (hrest.append hend)
      obtain ⟨t, ts, htokens, ht⟩ := exists_tokens item
      rw [tokens]
      refine Takes.cons (fun _ => rfl) ?_
      rw [htokens, List.cons_append] at hall ⊢
      exact hall.arrayStart ht
  | .object [], stack, _ => Takes.cons (fun _ => rfl) (Takes.cons (fun _ => rfl) (Takes.nil _))
  | .object ((key, value) :: rest), stack, h => by
      rw [Readable, ReadableFields] at h
      have hvalue := takes_tokens value (.object [] key :: stack) h.2.1
      rw [complete_field _ (by simp)] at hvalue
      have hkeys : (([(key, printed value)] ++ rest).map Prod.fst).Nodup := h.1
      have hrest := takes_fieldTokens rest [(key, printed value)] stack hkeys h.2.2
      have hend : Takes (.objectNext ([(key, printed value)] ++ printedFields rest) stack)
          [.closeObject] (.complete (printed (.object ((key, value) :: rest))) stack) := by
        refine Takes.cons (fun _ => ?_) (Takes.nil _)
        rw [printed, printedFields]
        rfl
      have hall := hvalue.append (hrest.append hend)
      rw [tokens]
      exact Takes.cons (fun _ => rfl) (Takes.cons (fun _ => rfl) (Takes.cons (fun _ => rfl) hall))

theorem takes_itemTokens : ∀ (items : List Json) (reversed : List Json) (stack : List Frame),
    ReadableItems items → Takes (.arrayNext reversed stack) (itemTokens items)
      (.arrayNext ((printedItems items).reverse ++ reversed) stack)
  | [], reversed, stack, _ => Takes.nil _
  | item :: rest, reversed, stack, h => by
      rw [ReadableItems] at h
      have hitem := takes_tokens item (.array reversed :: stack) h.1
      rw [complete_item] at hitem
      have hall := hitem.append (takes_itemTokens rest (printed item :: reversed) stack h.2)
      rw [itemTokens, printedItems, List.reverse_cons, List.append_assoc]
      exact Takes.cons (fun _ => rfl) hall

theorem takes_fieldTokens : ∀ (fields done : List (String × Json)) (stack : List Frame),
    ((done ++ fields).map Prod.fst).Nodup → ReadableFields fields →
      Takes (.objectNext done stack) (fieldTokens fields)
        (.objectNext (done ++ printedFields fields) stack)
  | [], done, stack, _, _ => by
      rw [printedFields, List.append_nil]
      exact Takes.nil _
  | (key, value) :: rest, done, stack, hkeys, h => by
      rw [ReadableFields] at h
      have hnew : key ∉ done.map Prod.fst := by
        intro hmem
        rw [List.map_append, List.nodup_append] at hkeys
        exact hkeys.2.2 key hmem key List.mem_cons_self rfl
      have hvalue := takes_tokens value (.object done key :: stack) h.1
      rw [complete_field _ hnew] at hvalue
      have hkeys' : ((done ++ [(key, printed value)] ++ rest).map Prod.fst).Nodup := by
        simpa using hkeys
      have hrest := takes_fieldTokens rest (done ++ [(key, printed value)]) stack hkeys' h.2
      have hall := hvalue.append hrest
      rw [List.append_assoc] at hall
      rw [fieldTokens, printedFields]
      exact Takes.cons (fun _ => rfl) (Takes.cons (fun _ => rfl) (Takes.cons (fun _ => rfl) hall))

end

/-! ### The whole text -/

/-- A value does not start with a byte order mark. -/
theorem head_write (indent : Option ℕ) (level : ℕ) (v : Json) :
    (write indent level v).head?.all (· = '\ufeff') = false := by
  rcases v with _ | (_ | _) | n | s | (_ | ⟨item, rest⟩) | (_ | ⟨⟨key, value⟩, rest⟩)
  case number =>
    rw [write]
    refine head_writeNumber_all n (fun c hc => ?_) (by decide) (by decide)
    simpa using ne_of_isDigit hc (by decide)
  all_goals rfl

/-- A text that starts with no byte order mark is read by its characters. -/
theorem parse_ofList (half : Char) {cs : List Char} (hmark : cs.head? ≠ some '\ufeff') :
    parse half (String.ofList cs) = parseChars half cs := by
  rw [parse, String.toList_ofList]
  split
  · exact absurd rfl hmark
  · rfl

/-- **The text of a value is read by running over its tokens.** -/
theorem exists_parse_render (half : Char) (v : Json) (indent : Option ℕ) :
    ∃ (ls : List Lexeme) (offset : ℕ), ls.map Lexeme.token = tokens v ∧
      parse half (v.render indent) =
        (State.awaitValue []).run ls >>= fun state => state.finish offset := by
  obtain ⟨ls, hls, hlex⟩ := cuts_write indent 0 v half [] 0 rfl
  refine ⟨ls, (write indent 0 v).length, hls, ?_⟩
  have hchars : parseChars half (write indent 0 v) = (State.awaitValue []).run ls >>=
      fun state => state.finish (write indent 0 v).length := by
    rw [List.append_nil] at hlex
    rw [parseChars, hlex, lex, List.append_nil]
  rw [render, parse_ofList half fun hmark => ?_, hchars]
  have hhead := head_write indent 0 v
  rw [hmark] at hhead
  cases hhead

/-- **The text of a value is read as the value**, with null for numbers that are not finite. -/
theorem parse_render {half : Char} {v : Json} (h : Readable v) (indent : Option ℕ) :
    parse half (v.render indent) = .ok (printed v) := by
  obtain ⟨ls, offset, hls, hparse⟩ := exists_parse_render half v indent
  rw [hparse, takes_tokens v [] h ls hls]
  rfl

/-! ### Integers that are too long -/

/-- No step takes an integer that is too long. -/
theorem ne_longNumeral_of_step {state state' : State} {l : Lexeme} (h : state.step l = .ok state')
    (n : ℕ) : l.token ≠ .longNumeral n := by
  intro htoken
  cases state <;> simp [State.step, State.begin, State.beginKey, htoken] at h

theorem ne_longNumeral_of_run {state state' : State} {ls : List Lexeme}
    (h : state.run ls = .ok state') (n : ℕ) : .longNumeral n ∉ ls.map Lexeme.token := by
  induction ls generalizing state with
  | nil => simp
  | cons l ls ih =>
      rw [run_cons] at h
      obtain ⟨next, hnext, h⟩ := bind_eq_ok_iff.1 h
      rw [List.map_cons, List.mem_cons, not_or]
      exact ⟨(ne_longNumeral_of_step hnext n).symm, ih h⟩

mutual

/-- A value without tokens of integers that are too long has only integers that can be written. -/
theorem hasText_of_tokens : ∀ v : Json, (∀ n, .longNumeral n ∉ tokens v) → v.hasText = true
  | .null, _ | .bool _, _ | .text _, _ | .number (.float _), _ => rfl
  | .number (.int n), h => by
      rw [tokens, numberToken] at h
      rw [hasText]
      by_contra hn
      rw [if_neg hn] at h
      exact h _ (List.mem_singleton_self _)
  | .array [], _ => rfl
  | .array (item :: rest), h => by
      simp only [tokens, List.mem_cons, List.mem_append, not_or] at h
      simp only [hasText, itemsHaveText, Bool.and_eq_true]
      exact ⟨hasText_of_tokens item fun n => (h n).2.1,
        itemsHaveText_of_tokens rest fun n => (h n).2.2.1⟩
  | .object [], _ => rfl
  | .object ((key, value) :: rest), h => by
      simp only [tokens, List.mem_cons, List.mem_append, not_or] at h
      simp only [hasText, fieldsHaveText, Bool.and_eq_true]
      exact ⟨hasText_of_tokens value fun n => (h n).2.2.2.1,
        fieldsHaveText_of_tokens rest fun n => (h n).2.2.2.2.1⟩

theorem itemsHaveText_of_tokens : ∀ items : List Json,
    (∀ n, .longNumeral n ∉ itemTokens items) → itemsHaveText items = true
  | [], _ => rfl
  | item :: rest, h => by
      simp only [itemTokens, List.mem_cons, List.mem_append, not_or] at h
      simp only [itemsHaveText, Bool.and_eq_true]
      exact ⟨hasText_of_tokens item fun n => (h n).2.1,
        itemsHaveText_of_tokens rest fun n => (h n).2.2⟩

theorem fieldsHaveText_of_tokens : ∀ fields : List (String × Json),
    (∀ n, .longNumeral n ∉ fieldTokens fields) → fieldsHaveText fields = true
  | [], _ => rfl
  | (key, value) :: rest, h => by
      simp only [fieldTokens, List.mem_cons, List.mem_append, not_or] at h
      simp only [fieldsHaveText, Bool.and_eq_true]
      exact ⟨hasText_of_tokens value fun n => (h n).2.2.2.1,
        fieldsHaveText_of_tokens rest fun n => (h n).2.2.2.2⟩

end

/-- **If the text of a value is read, all integers in it can be written.** -/
theorem hasText_of_parse_render {half : Char} {v w : Json} {indent : Option ℕ}
    (h : parse half (v.render indent) = .ok w) : v.hasText = true := by
  obtain ⟨ls, offset, hls, hparse⟩ := exists_parse_render half v indent
  rw [hparse] at h
  obtain ⟨state, hrun, -⟩ := bind_eq_ok_iff.1 h
  exact hasText_of_tokens v fun n => hls ▸ ne_longNumeral_of_run hrun n

theorem itemsHaveText_iff (items : List Json) :
    itemsHaveText items = true ↔ ∀ item ∈ items, item.hasText = true := by
  induction items with
  | nil => simp [itemsHaveText]
  | cons item rest ih => simp [itemsHaveText, ih]

theorem fieldsHaveText_iff (fields : List (String × Json)) :
    fieldsHaveText fields = true ↔ ∀ field ∈ fields, field.2.hasText = true := by
  induction fields with
  | nil => simp [fieldsHaveText]
  | cons field rest ih => simp [fieldsHaveText, ih]

end BehaviorTree.Json
