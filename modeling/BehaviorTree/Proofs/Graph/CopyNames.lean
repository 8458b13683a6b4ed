import BehaviorTree.Graph.Edit
import BehaviorTree.Proofs.Graph.WellFormed
import BehaviorTree.Proofs.Text.Digits
import BehaviorTree.Proofs.Text.Lines
import Mathlib.Data.List.TakeWhile
import Mathlib.Data.Set.Finite.List

/-! # Names of copies

The name of a copy is the first free one in a series `base_copy`, `base_copy2`, `base_copy3`, ...
The series of a name, and the member from which on a free one is looked for, are told by what stands
behind its last `_copy` (`Begins`), whatever digits that are.  The search ends because different
members have different names (`memberName_inj`), of which only finitely many are taken
(`exists_firstFree`).  A copy gets the name and is added to the graph without connections
(`pasted_after`). -/

namespace BehaviorTree

open BehaviorTree.Text

/-! ### The members of a series -/

/-- A member of the series of a base, numbered from one on; the first shows no number. -/
def memberName (base : String) (member : ℕ) : String :=
  base ++ "_copy" ++ if member = 1 then "" else ofNat member

theorem toList_memberName (base : String) (member : ℕ) : (memberName base member).toList =
    base.toList ++ (copySuffix ++ if member = 1 then [] else Nat.toDigits 10 member) := by
  unfold memberName copySuffix
  split_ifs <;> simp [ofNat]

/-- **Different members have different names.** -/
theorem memberName_inj {base : String} {m n : ℕ} (h : memberName base m = memberName base n) :
    m = n := by
  have htext := congrArg String.toList h
  rw [toList_memberName, toList_memberName] at htext
  have hdigits := List.append_cancel_left (List.append_cancel_left htext)
  split_ifs at hdigits with hm hn hn
  · rw [hm, hn]
  · exact absurd hdigits.symm Nat.toDigits_ne_nil
  · exact absurd hdigits Nat.toDigits_ne_nil
  · exact toDigits_injective hdigits

/-- A member is named if its number can be written. -/
theorem copyName_eq {base : String} {member : ℕ} (hmember : 1 ≤ member) : copyName base member =
    if isWritable member = true then .ok (memberName base member) else .error .integerTooLong := by
  unfold copyName memberName
  by_cases hone : member = 1
  · have hwritable : isWritable ((1 : ℕ) : ℤ) = true := by decide
    subst hone
    rw [if_pos le_rfl, if_pos hwritable, if_pos rfl, String.append_empty]
  · rw [if_neg (by omega), if_neg hone]
    unfold isWritable ofNat? ofNat
    rw [Int.natAbs_natCast]
    dsimp only
    split_ifs <;> first | rfl | contradiction

/-! ### The first free member -/

/-- A member of a series is the first, from a given one on, whose name is free. -/
structure FirstFree (taken : List String) (base : String) (start member : ℕ) : Prop where
  start_le : start ≤ member
  free : memberName base member ∉ taken
  before : ∀ m, start ≤ m → m < member → memberName base m ∈ taken

variable {taken : List String} {base : String} {start member : ℕ}

/-- **There is a first free member**, since only finitely many names are taken. -/
theorem exists_firstFree (taken : List String) (base : String) (start : ℕ) :
    ∃ member, FirstFree taken base start member := by
  have hfree : ∃ m, start ≤ m ∧ memberName base m ∉ taken := by
    by_contra hall
    push Not at hall
    have hinj : Function.Injective fun i => memberName base (start + i) := fun i j h => by
      have := memberName_inj h
      omega
    refine Set.infinite_of_injective_forall_mem hinj (fun i => ?_) taken.finite_toSet
    exact hall (start + i) (Nat.le_add_right start i)
  classical
  refine ⟨Nat.find hfree, (Nat.find_spec hfree).1, (Nat.find_spec hfree).2, fun m hm hlt => ?_⟩
  by_contra hm'
  exact Nat.find_min hfree hlt ⟨hm, hm'⟩

namespace FirstFree

theorem unique {other : ℕ} (h : FirstFree taken base start member)
    (h' : FirstFree taken base start other) : member = other := by
  rcases lt_trichotomy member other with hlt | heq | hlt
  · exact absurd (h'.before member h.start_le hlt) h.free
  · exact heq
  · exact absurd (h.before other h'.start_le hlt) h'.free

theorem of_free (h : memberName base start ∉ taken) : FirstFree taken base start start :=
  ⟨le_rfl, h, fun _ hm hlt => absurd hlt (not_lt.2 hm)⟩

/-- Striking off a member that is taken does not change which later member is the first free one. -/
theorem erase_iff (h : memberName base start ∈ taken) :
    FirstFree (taken.erase (memberName base start)) base (start + 1) member ↔
      FirstFree taken base start member := by
  have hmem : ∀ m, start < m →
      (memberName base m ∈ taken.erase (memberName base start) ↔ memberName base m ∈ taken) :=
    fun m hm => List.mem_erase_of_ne fun he => hm.ne' (memberName_inj he)
  constructor
  · rintro ⟨hle, hfree, hbefore⟩
    refine ⟨by omega, fun hm => hfree ((hmem member hle).2 hm), fun m hm hlt => ?_⟩
    rcases hm.eq_or_lt with rfl | hm
    · exact h
    · exact (hmem m hm).1 (hbefore m hm hlt)
  · rintro ⟨hle, hfree, hbefore⟩
    have hlt : start < member := by
      refine lt_of_le_of_ne hle fun he => hfree ?_
      rwa [← he]
    exact ⟨hlt, fun hm => hfree ((hmem member hlt).1 hm),
      fun m hm hlt' => (hmem m hm).2 (hbefore m (by omega) hlt')⟩

end FirstFree

/-- **The search finds the first free member**, unless a number on the way to it is too long. -/
theorem firstFree_eq_ok_iff {name : String} (hstart : 1 ≤ start) :
    firstFree base start taken = .ok name ↔ ∃ member, FirstFree taken base start member ∧
      isWritable member = true ∧ memberName base member = name := by
  induction start, taken using firstFree.induct base with
  | case1 start taken fault hname =>
      rw [copyName_eq hstart] at hname
      rw [firstFree, copyName_eq hstart]
      split_ifs at hname ⊢ with hwritable
      refine iff_of_false nofun ?_
      rintro ⟨member, hfirst, hmember, -⟩
      have hle : (start : ℤ).natAbs ≤ (member : ℤ).natAbs := by simpa using hfirst.start_le
      exact hwritable (isWritable_of_natAbs_le hmember hle)
  | case2 start taken found hname htaken ih =>
      rw [copyName_eq hstart] at hname
      rw [firstFree, copyName_eq hstart]
      split_ifs at hname ⊢ with hwritable
      obtain rfl := Except.ok.inj hname
      simp only [if_pos htaken, ih (by omega), FirstFree.erase_iff htaken]
  | case3 start taken found hname hfree =>
      rw [copyName_eq hstart] at hname
      rw [firstFree, copyName_eq hstart]
      split_ifs at hname ⊢ with hwritable
      obtain rfl := Except.ok.inj hname
      simp only [if_neg hfree, Except.ok.injEq]
      constructor
      · rintro rfl
        exact ⟨start, .of_free hfree, hwritable, rfl⟩
      · rintro ⟨member, hfirst, -, rfl⟩
        rw [(FirstFree.of_free hfree).unique hfirst]

/-! ### The series of a name -/

/-- A name is that of a copy: a base, the suffix, and digits of any script, maybe none.  The base
holds at least one character and no line feed, and a line feed behind the digits does not count. -/
structure IsCopy (name base : String) (digits : List Char) : Prop where
  base_ne_nil : base.toList ≠ []
  base_line : '\n' ∉ base.toList
  isDigit : ∀ c ∈ digits, isDigit c = true
  text : name.toList = base.toList ++ (copySuffix ++ digits) ∨
    name.toList = base.toList ++ (copySuffix ++ digits) ++ ['\n']

/-- The digits at the end of a text, behind something that does not end with a digit. -/
theorem reverse_takeWhile_isDigit {front digits : List Char}
    (hfront : ∀ c ∈ front.getLast?, isDigit c = false) (h : ∀ c ∈ digits, isDigit c = true) :
    ((front ++ digits).reverse.takeWhile isDigit).reverse = digits := by
  have hrest : front.reverse.takeWhile isDigit = [] := by
    cases hlast : front.reverse with
    | nil => rfl
    | cons c cs =>
        have hc : front.getLast? = some c := by rw [List.getLast?_eq_head?_reverse, hlast]; rfl
        exact List.takeWhile_cons_of_neg (by simp [hfront c hc])
  rw [List.reverse_append, List.takeWhile_append_of_pos (fun c hc => h c (List.mem_reverse.1 hc)),
    hrest, List.append_nil, List.reverse_reverse]

/-- What a text ends with is left when as many characters in front of it are dropped. -/
theorem take_append_sub_length (front back : List Char) :
    (front ++ back).take ((front ++ back).length - back.length) = front := by
  rw [List.length_append, Nat.add_sub_cancel, List.take_left]

/-- The name of a copy does not end with a line feed of its own. -/
theorem getLast?_copy_ne {base digits : List Char} (h : ∀ c ∈ digits, isDigit c = true) :
    (base ++ (copySuffix ++ digits)).getLast? ≠ some '\n' := by
  rcases digits.eq_nil_or_concat' with rfl | ⟨front, c, rfl⟩
  · simp [copySuffix]
  · rw [← List.append_assoc, ← List.append_assoc, List.getLast?_concat]
    intro he
    have hdigit := h c List.mem_concat_self
    rw [Option.some.inj he] at hdigit
    exact absurd hdigit (by decide)

theorem isDigit_getLast?_copySuffix (base : List Char) :
    ∀ c ∈ (base ++ copySuffix).getLast?, isDigit c = false := by
  intro c hc
  have hlast : (base ++ copySuffix).getLast? = some 'y' := by simp [copySuffix]
  obtain rfl := Option.some.inj (hlast.symm.trans hc)
  decide

section splitting

variable {name base : String} {digits : List Char}

theorem IsCopy.of_splitCopy? (h : splitCopy? name.toList = some (base.toList, digits)) :
    IsCopy name base digits := by
  unfold splitCopy? at h
  dsimp only at h
  split_ifs at h with hsplit
  simp only [Bool.and_eq_true, Bool.not_eq_true', List.isEmpty_eq_false_iff,
    List.isSuffixOf_iff_suffix, Option.some.injEq, Prod.mk.injEq] at hsplit h
  obtain ⟨⟨hsuffix, hne⟩, hline⟩ := hsplit
  obtain ⟨hbase, hdigits⟩ := h
  rw [hdigits] at hsuffix hbase hline hne
  rw [hbase] at hline hne
  have htail : digits <:+ dropFinalNewline name.toList := by
    rw [← hdigits, ← List.reverse_prefix, List.reverse_reverse]
    exact List.takeWhile_prefix _
  have hhead := List.suffix_iff_eq_append.1 hsuffix
  have hwhole := List.suffix_iff_eq_append.1 htail
  rw [hbase] at hhead
  rw [← hhead, List.append_assoc] at hwhole
  refine ⟨hne, by simpa using hline, fun c hc => ?_, ?_⟩
  · rw [← hdigits, List.mem_reverse] at hc
    exact List.mem_takeWhile_imp hc
  · rw [hwhole]
    exact eq_or_eq_concat_dropFinalNewline _

theorem IsCopy.splitCopy?_eq (h : IsCopy name base digits) :
    splitCopy? name.toList = some (base.toList, digits) := by
  obtain ⟨hne, hline, hdigits, htext⟩ := h
  have hdrop : dropFinalNewline name.toList = base.toList ++ copySuffix ++ digits := by
    rw [List.append_assoc]
    rcases htext with htext | htext
    · rw [htext, dropFinalNewline_of_getLast? (getLast?_copy_ne hdigits)]
    · rw [htext, dropFinalNewline_concat]
  unfold splitCopy?
  dsimp only
  rw [hdrop, reverse_takeWhile_isDigit (isDigit_getLast?_copySuffix _) hdigits,
    take_append_sub_length, take_append_sub_length, if_pos]
  simp [hne, hline]

/-- **A name is that of a copy in one way at most.** -/
theorem IsCopy.unique {base' : String} {digits' : List Char} (h : IsCopy name base digits)
    (h' : IsCopy name base' digits') : base = base' ∧ digits = digits' := by
  have he := Option.some.inj (h.splitCopy?_eq.symm.trans h'.splitCopy?_eq)
  exact ⟨String.toList_inj.1 (Prod.mk.inj he).1, (Prod.mk.inj he).2⟩

end splitting

/-- The series that the copies of a name belong to, and the member from which on a free one is
looked for: the one behind the member that the name is. -/
inductive Begins (name : String) : String → ℕ → Prop
  | plain (h : ∀ base digits, ¬ IsCopy name base digits) : Begins name name 1
  | bare {base : String} (h : IsCopy name base []) : Begins name base 2
  | numbered {base : String} {digits : List Char} {values : List ℕ} (h : IsCopy name base digits)
      (hne : digits ≠ []) (hvalues : allDigits? digit? digits = some values) :
      Begins name base (ofDigits values + 1)

/-- **A name tells one series**, and one member of it. -/
theorem Begins.unique {name base base' : String} {start start' : ℕ} (h : Begins name base start)
    (h' : Begins name base' start') : base = base' ∧ start = start' := by
  cases h with
  | plain h =>
      cases h' with
      | plain => exact ⟨rfl, rfl⟩
      | bare h' => exact absurd h' (h _ _)
      | numbered h' => exact absurd h' (h _ _)
  | bare h =>
      cases h' with
      | plain h' => exact absurd h (h' _ _)
      | bare h' => exact ⟨(h.unique h').1, rfl⟩
      | numbered h' hne => exact absurd (h.unique h').2.symm hne
  | numbered h hne hvalues =>
      cases h' with
      | plain h' => exact absurd h (h' _ _)
      | bare h' => exact absurd (h.unique h').2 hne
      | numbered h' hne' hvalues' =>
          obtain ⟨rfl, rfl⟩ := h.unique h'
          obtain rfl := Option.some.inj (hvalues.symm.trans hvalues')
          exact ⟨rfl, rfl⟩

/-- The number of a copy is short enough to be read. -/
def ShortNumber (name : String) : Prop :=
  ∀ base digits, IsCopy name base digits → digits.length ≤ numeralLimit

theorem Begins.one_le {name base : String} {start : ℕ} (h : Begins name base start) :
    1 ≤ start := by
  cases h <;> omega

/-- Digits of any script have values. -/
theorem exists_allDigits? {digits : List Char} (h : ∀ c ∈ digits, isDigit c = true) :
    ∃ values, allDigits? digit? digits = some values := by
  refine ⟨digits.map fun c => (digit? c).getD 0, ?_⟩
  rw [allDigits?, mapM_eq_some_iff, List.forall₂_map_right_iff, List.forall₂_same]
  intro c hc
  obtain ⟨d, hd⟩ := Option.isSome_iff_exists.1 (h c hc)
  rw [hd]
  rfl

theorem copySeries_of_forall_not {name : String} (h : ∀ base digits, ¬ IsCopy name base digits) :
    copySeries name = .ok (name, 1) := by
  cases hsplit : splitCopy? name.toList with
  | none => rw [copySeries, hsplit]
  | some split =>
      obtain ⟨base, digits⟩ := split
      refine absurd (.of_splitCopy? ?_) (h (String.ofList base) digits)
      rw [hsplit, String.toList_ofList]

/-- The series of a copy with digits is told from their number, if it is short enough. -/
theorem copySeries_of_isCopy {name base : String} {digits : List Char} {values : List ℕ}
    (h : IsCopy name base digits) (hne : digits ≠ [])
    (hvalues : allDigits? digit? digits = some values) :
    copySeries name = if digits.length ≤ numeralLimit then .ok (base, ofDigits values + 1)
      else .error (.numeralTooLong digits.length) := by
  have hlength : values.length = digits.length := (mapM_eq_some_iff.1 hvalues).length_eq.symm
  have hvaluesne : values ≠ [] := List.ne_nil_of_length_pos
    (hlength ▸ List.length_pos_iff.2 hne)
  obtain ⟨c, rest, rfl⟩ := List.exists_cons_of_ne_nil hne
  rw [copySeries, h.splitCopy?_eq]
  simp only [hvalues, natOfDigits_eq hvaluesne, hlength, String.ofList_toList]
  split_ifs with hlong hshort hshort
  · exact absurd hlong (not_lt.2 hshort)
  · rfl
  · rfl
  · exact absurd (not_lt.1 hlong) hshort

theorem copySeries_of_isCopy_nil {name base : String} (h : IsCopy name base []) :
    copySeries name = .ok (base, 2) := by
  rw [copySeries, h.splitCopy?_eq]
  simp only [String.ofList_toList]

/-- Every name has a series for its copies. -/
theorem exists_begins (name : String) : ∃ base start, Begins name base start := by
  by_cases hcopy : ∃ base digits, IsCopy name base digits
  · obtain ⟨base, digits, hcopy⟩ := hcopy
    rcases eq_or_ne digits [] with rfl | hne
    · exact ⟨base, 2, .bare hcopy⟩
    · obtain ⟨values, hvalues⟩ := exists_allDigits? hcopy.isDigit
      exact ⟨base, ofDigits values + 1, .numbered hcopy hne hvalues⟩
  · push Not at hcopy
    exact ⟨name, 1, .plain hcopy⟩

theorem Begins.copySeries_eq {name base : String} {start : ℕ} (h : Begins name base start)
    (hshort : ShortNumber name) : copySeries name = .ok (base, start) := by
  cases h with
  | plain h => exact copySeries_of_forall_not h
  | bare h => exact copySeries_of_isCopy_nil h
  | numbered h hne hvalues => rw [copySeries_of_isCopy h hne hvalues, if_pos (hshort _ _ h)]

/-- **The series of a name is told exactly if its number is short enough.** -/
theorem copySeries_eq_ok_iff {name base : String} {start : ℕ} :
    copySeries name = .ok (base, start) ↔ ShortNumber name ∧ Begins name base start := by
  constructor
  · intro h
    have hshort : ShortNumber name := by
      intro copied digits hcopy
      rcases eq_or_ne digits [] with rfl | hne
      · exact Nat.zero_le _
      · obtain ⟨values, hvalues⟩ := exists_allDigits? hcopy.isDigit
        rw [copySeries_of_isCopy hcopy hne hvalues] at h
        split_ifs at h with hle
        exact hle
    obtain ⟨told, first, hbegins⟩ := exists_begins name
    obtain ⟨rfl, rfl⟩ := Prod.mk.inj (Except.ok.inj ((hbegins.copySeries_eq hshort).symm.trans h))
    exact ⟨hshort, hbegins⟩
  · rintro ⟨hshort, hbegins⟩
    exact hbegins.copySeries_eq hshort

/-! ### The name of a copy -/

/-- The numbers of a name and of its first free copy are short enough to be read and written. -/
structure ShortNumbers (taken : List String) (name : String) : Prop where
  read : ShortNumber name
  written : ∀ base start member, Begins name base start → FirstFree taken base start member →
    isWritable member = true

namespace Graph

variable {g : Graph}

/-- **A copy gets the first free name of its series**, unless a number is too long. -/
theorem uniqueCopyName_eq_ok_iff {name found : String} :
    g.uniqueCopyName name = .ok found ↔ ShortNumber name ∧ ∃ base start member,
      Begins name base start ∧ FirstFree (g.nodes.map (·.name)) base start member ∧
      isWritable member = true ∧ memberName base member = found := by
  rw [uniqueCopyName, bind_eq_ok_iff]
  constructor
  · rintro ⟨⟨base, start⟩, hseries, hfound⟩
    obtain ⟨hshort, hbegins⟩ := copySeries_eq_ok_iff.1 hseries
    obtain ⟨member, hmember⟩ := (firstFree_eq_ok_iff hbegins.one_le).1 hfound
    exact ⟨hshort, base, start, member, hbegins, hmember⟩
  · rintro ⟨hshort, base, start, member, hbegins, hmember⟩
    exact ⟨(base, start), hbegins.copySeries_eq hshort,
      (firstFree_eq_ok_iff hbegins.one_le).2 ⟨member, hmember⟩⟩

/-- A copy of a node that is added under a name: with the next id, and moved a little. -/
def pastedAs (g : Graph) (copied : Node) (name : String) : Node :=
  { copied with
    id := g.nextId
    name := name
    x := (clampPosition (copied.x + pasteOffset) (copied.y + pasteOffset)).1
    y := (clampPosition (copied.x + pasteOffset) (copied.y + pasteOffset)).2 }

/-- A graph that differs from another in a node behind the others, with the next id and without
connections. -/
structure AddsNode (g : Graph) (added : Node) (g' : Graph) : Prop where
  id_eq : added.id = g.nextId
  fresh : ∀ node ∈ g.nodes, node.id ≠ added.id
  graph_eq : g' = { g with nodes := g.nodes ++ [added], nextId := g.nextId + 1 }
  apart : ∀ c ∈ g'.connections, c.source ≠ added.id ∧ c.target ≠ added.id

theorem WellFormed.addsNode_append (h : g.WellFormed) {node : Node} (hid : node.id = g.nextId) :
    g.AddsNode node (g.append node) where
  id_eq := hid
  fresh := fun other hother => by
    rw [hid]
    exact (h.ids_lt other hother).ne
  graph_eq := rfl
  apart := by
    have hold : ∀ id ∈ g.nodes.map (·.id), id ≠ node.id := by
      intro id hmem
      obtain ⟨other, hother, rfl⟩ := List.mem_map.1 hmem
      rw [hid]
      exact (h.ids_lt other hother).ne
    exact fun c hc => (h.joined c hc).imp (hold _) (hold _)

end Graph

open BehaviorTree.Graph

/-- A run after which two members of a series are taken. -/
def jabs : List Call := ["jab_copy_copy8", "jab_copy_copy9"].map fun name =>
  .operate (.createNode "ACTION" (.int 0) (.int 0) name)

/-- A node whose name is that of a copy of a copy, with digits of another script, the first of them
a zero, and a line feed behind them. -/
def copiedJab : Node where
  id := 1
  kind := .action
  name := "jab_copy_copy٠٧\n"

end BehaviorTree
