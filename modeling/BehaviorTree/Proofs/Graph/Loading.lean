import BehaviorTree.Proofs.Graph.Untouched

/-! # Loading any value

A graph is read from a document value of any shape, and a value that cannot be converted should make
the graph malformed.  Two sorts of values break off the reading instead (`Overflows`): an infinite
double where an integer is due, and an integer beyond the doubles where a coordinate is due.  Each
counts only where the reading gets so far, for whatever is malformed before is found first.  The
other conversions fail as malformed or not at all, which is put together from the calls that they
consist of (`FaultsIn`).

A graph that is read may be refused, in words that name ids; an id that is too long to be written
breaks this off too (`NamesLongId`).  All other values are loaded or refused as they should be
(`Run.settlesLoad_iff`). -/

namespace BehaviorTree

open BehaviorTree.Text

/-! ### Values out of range -/

/-- An infinite double. -/
def Json.IsInfinite (value : Json) : Prop := ∃ x : Float, value = .number (.float x) ∧ x.isInf = true

/-- An integer beyond the doubles. -/
def Json.IsBeyond (value : Json) : Prop :=
  ∃ n : Int, value = .number (.int n) ∧ (Float.ofInt n).isInf = true

/-- The faults of conversions. -/
def Fault.Inconvertible (fault : Fault) : Prop := fault = Graph.malformed ∨ fault = .outOfRange

theorem outOfRange_ne_malformed : Fault.outOfRange ≠ Graph.malformed := by decide

section conversions

variable {α β : Type} {x : Except Fault α}

theorem FaultsIn.inconvertible (h : FaultsIn (· = Graph.malformed) x) :
    FaultsIn Fault.Inconvertible x :=
  h.mono fun _ => Or.inl

theorem FaultsIn.ne_outOfRange (h : FaultsIn (· = Graph.malformed) x) : x ≠ .error .outOfRange :=
  fun hx => outOfRange_ne_malformed (h _ hx)

/-- What is malformed at worst has been converted when the reading breaks off behind it. -/
theorem FaultsIn.exists_of_outOfRange (h : FaultsIn (· = Graph.malformed) x)
    {f : α → Except Fault β} (hbind : x >>= f = .error .outOfRange) :
    ∃ a, x = .ok a ∧ f a = .error .outOfRange :=
  (h.bind_eq_error_iff outOfRange_ne_malformed).1 hbind

end conversions

namespace Graph

open BehaviorTree.Json (lookup?)

variable {key : String} {fields : List (String × Json)} {value : Json}

theorem faultsIn_required {α : Type} (o : Option α) : FaultsIn (· = malformed) (required o) := by
  cases o with
  | none => exact faultsIn_error rfl
  | some a => exact faultsIn_ok a

theorem faultsIn_integer (value : Json) : FaultsIn Fault.Inconvertible (integer value) := by
  unfold integer
  split
  · exact faultsIn_ok _
  · split_ifs
    · exact faultsIn_error (Or.inr rfl)
    · exact (faultsIn_required _).inconvertible
  · exact faultsIn_ok _
  · exact (faultsIn_required _).inconvertible
  · exact faultsIn_error (Or.inl rfl)

theorem integer_eq_outOfRange_iff : integer value = .error .outOfRange ↔ value.IsInfinite := by
  constructor
  · intro h
    unfold integer at h
    split at h
    · cases h
    · rename_i x
      split_ifs at h with hinf
      · exact ⟨x, rfl, hinf⟩
      · exact absurd h (faultsIn_required _).ne_outOfRange
    · cases h
    · exact absurd h (faultsIn_required _).ne_outOfRange
    · cases h
  · rintro ⟨x, rfl, hinf⟩
    rw [integer, if_pos hinf]

theorem coordinate_eq_error_iff {n : Number} {fault : Fault} :
    coordinate n = .error fault ↔ n.toFloat? = none ∧ fault = .outOfRange := by
  unfold coordinate
  cases n.toFloat? <;> simp [eq_comm]

theorem isBeyond_iff {n : Number} : (Json.number n).IsBeyond ↔ n.toFloat? = none := by
  cases n with
  | int n => simp [Json.IsBeyond, Number.toFloat?]
  | float x => simp [Json.IsBeyond, Number.toFloat?]

theorem isSet_of_isBeyond (h : value.IsBeyond) : value.isSet = true := by
  obtain ⟨n, rfl, hinf⟩ := h
  refine decide_eq_true fun hzero => ?_
  rw [hzero] at hinf
  revert hinf
  decide

theorem faultsIn_coordinateOf (value : Json) : FaultsIn Fault.Inconvertible (coordinateOf value) := by
  unfold coordinateOf
  split_ifs
  · exact faultsIn_ok _
  · split
    · exact fun fault h => Or.inr (coordinate_eq_error_iff.1 h).2
    · exact faultsIn_ok _
    · exact (faultsIn_required _).inconvertible
    · exact faultsIn_error (Or.inl rfl)

theorem coordinateOf_eq_outOfRange_iff :
    coordinateOf value = .error .outOfRange ↔ value.IsBeyond := by
  constructor
  · intro h
    unfold coordinateOf at h
    split_ifs at h
    split at h
    · exact isBeyond_iff.2 (coordinate_eq_error_iff.1 h).1
    · cases h
    · exact absurd h (faultsIn_required _).ne_outOfRange
    · cases h
  · intro h
    have hset := isSet_of_isBeyond h
    obtain ⟨n, rfl, -⟩ := id h
    rw [coordinateOf, hset]
    exact coordinate_eq_error_iff.2 ⟨isBeyond_iff.1 h, rfl⟩

/-! ### Values that are malformed at worst -/

theorem faultsIn_fieldsOf (value : Json) : FaultsIn (· = malformed) (fieldsOf value) := by
  cases value <;> rintro _ ⟨⟩ <;> rfl

theorem faultsIn_itemsOf (value : Json) : FaultsIn (· = malformed) (itemsOf value) := by
  cases value <;> rintro _ ⟨⟩ <;> rfl

theorem faultsIn_textOf (value : Json) : FaultsIn (· = malformed) (textOf value) := by
  unfold textOf
  split_ifs
  · exact faultsIn_ok _
  · exact faultsIn_error rfl

theorem faultsIn_textAt (key : String) (fields : List (String × Json)) :
    FaultsIn (· = malformed) (textAt key fields) :=
  faultsIn_textOf _

theorem faultsIn_exactly {α : Type} (ofText? : String → Option α) (value : Json) :
    FaultsIn (· = malformed) (exactly ofText? value) := by
  unfold exactly
  split
  · exact faultsIn_required _
  · exact faultsIn_error rfl

theorem faultsIn_listAt {α : Type} {read : Json → Except Fault α}
    (hread : ∀ value, FaultsIn (· = malformed) (read value)) :
    FaultsIn (· = malformed) (listAt key read fields) := by
  unfold listAt
  split
  · exact faultsIn_ok _
  · exact (faultsIn_itemsOf _).bind fun items => (faultsIn_mapM hread items).map some

theorem faultsIn_topItems (key : String) (fields : List (String × Json)) :
    FaultsIn (· = malformed) (topItems key fields) := by
  unfold topItems
  split
  · exact faultsIn_ok _
  · split_ifs
    · exact faultsIn_itemsOf _
    · exact faultsIn_ok _

theorem faultsIn_paramOf (value : Json) : FaultsIn (· = malformed) (paramOf value) :=
  (faultsIn_fieldsOf value).bind fun fields => (faultsIn_textAt "name" fields).bind fun _ =>
    (faultsIn_textAt "value" fields).bind fun _ => faultsIn_ok _

theorem faultsIn_fieldOf (value : Json) : FaultsIn (· = malformed) (fieldOf value) :=
  (faultsIn_fieldsOf value).bind fun fields => (faultsIn_textAt "key" fields).bind fun _ =>
    (faultsIn_textAt "value" fields).bind fun _ => (faultsIn_textAt "comment" fields).bind fun _ =>
      faultsIn_ok _

theorem faultsIn_kindAt (fields : List (String × Json)) :
    FaultsIn (· = malformed) (kindAt fields) :=
  (faultsIn_required _).bind fun _ => faultsIn_exactly _ _

theorem faultsIn_decoratorAt (fields : List (String × Json)) :
    FaultsIn (· = malformed) (decoratorAt fields) := by
  unfold decoratorAt
  split
  · exact faultsIn_ok _
  · split_ifs
    · exact (faultsIn_exactly _ _).map some
    · exact faultsIn_ok _

theorem faultsIn_detailOf (fields : List (String × Json)) (node : Node) (d : Detail) :
    FaultsIn (· = malformed) (detailOf fields node d) := by
  unfold detailOf
  split
  · exact faultsIn_ok _
  · exact (faultsIn_textOf _).bind fun _ => faultsIn_ok _

/-! ### Values that break off the reading -/

theorem integerAt_eq_outOfRange_iff :
    integerAt key fields = .error .outOfRange ↔
      ∃ value, lookup? key fields = some value ∧ value.IsInfinite := by
  rw [integerAt, (faultsIn_required _).bind_eq_error_iff outOfRange_ne_malformed]
  refine exists_congr fun value => and_congr ?_ integer_eq_outOfRange_iff
  cases lookup? key fields <;> simp [required]

theorem coordinateAt_eq_outOfRange_iff :
    coordinateAt key fields = .error .outOfRange ↔
      ∃ value, lookup? key fields = some value ∧ value.IsBeyond := by
  rw [coordinateAt, coordinateOf_eq_outOfRange_iff]
  cases lookup? key fields with
  | none => simp [Json.IsBeyond]
  | some value => simp

theorem orderAt_eq_outOfRange_iff :
    orderAt fields = .error .outOfRange ↔
      ∃ value, lookup? "order" fields = some value ∧ value.IsInfinite := by
  unfold orderAt valueAt?
  cases lookup? "order" fields with
  | none => simp
  | some value =>
      cases value with
      | null => simp [Json.IsInfinite]
      | _ => simp [map_eq_error_iff, integer_eq_outOfRange_iff]

/-- A node whose id is infinite, or one with a coordinate beyond the doubles and all that is read
before in order. -/
inductive NodeOverflows : Json → Prop
  | id {fields : List (String × Json)} {value : Json} (h : lookup? "id" fields = some value)
      (hinf : value.IsInfinite) : NodeOverflows (.object fields)
  | x {fields : List (String × Json)} {value : Json} {id : Int} {kind : NodeKind} {name : String}
      (hid : integerAt "id" fields = .ok id) (hkind : kindAt fields = .ok kind)
      (hname : textAt "name" fields = .ok name) (h : lookup? "x" fields = some value)
      (hbeyond : value.IsBeyond) : NodeOverflows (.object fields)
  | y {fields : List (String × Json)} {value : Json} {id : Int} {kind : NodeKind} {name : String}
      {x : Float} (hid : integerAt "id" fields = .ok id) (hkind : kindAt fields = .ok kind)
      (hname : textAt "name" fields = .ok name) (hx : coordinateAt "x" fields = .ok x)
      (h : lookup? "y" fields = some value) (hbeyond : value.IsBeyond) :
      NodeOverflows (.object fields)

/-- A connection that leaves or meets an infinite id, or has an infinite order, and all that is read
before in order. -/
inductive LinkOverflows : Json → Prop
  | source {fields : List (String × Json)} {value : Json} (h : lookup? "from" fields = some value)
      (hinf : value.IsInfinite) : LinkOverflows (.object fields)
  | target {fields : List (String × Json)} {value : Json} {source : Int}
      (hsource : integerAt "from" fields = .ok source) (h : lookup? "to" fields = some value)
      (hinf : value.IsInfinite) : LinkOverflows (.object fields)
  | order {fields : List (String × Json)} {value : Json} {source target : Int}
      (hsource : integerAt "from" fields = .ok source)
      (htarget : integerAt "to" fields = .ok target) (h : lookup? "order" fields = some value)
      (hinf : value.IsInfinite) : LinkOverflows (.object fields)

/-- A graph with a node or a connection that breaks off the reading, and all that is read before in
order. -/
inductive Overflows : Json → Prop
  | node {fields : List (String × Json)} {before after : List Json} {item : Json}
      {nodes : List Node} (hitems : topItems "nodes" fields = .ok (before ++ item :: after))
      (hbefore : before.mapM nodeOf = .ok nodes) (h : NodeOverflows item) :
      Overflows (.object fields)
  | link {fields : List (String × Json)} {before after : List Json} {item : Json}
      {nodes : List Node} {links : List Link} (hnodes : nodesOf fields = .ok nodes)
      (hitems : topItems "connections" fields = .ok (before ++ item :: after))
      (hbefore : before.mapM linkOf = .ok links) (h : LinkOverflows item) :
      Overflows (.object fields)

theorem fieldsOf_eq_ok_iff : fieldsOf value = .ok fields ↔ value = .object fields := by
  cases value <;> simp [fieldsOf]

/-- What is read of a node behind its coordinates is malformed at worst. -/
theorem faultsIn_nodeOf_rest (fields : List (String × Json))
    (make : String → String → String → Option (List Param) → Option DecoratorKind →
      Option (List Field) → Node) :
    FaultsIn (· = malformed) (do
      let func ← textAt "func" fields
      let policy ← textAt "policy" fields
      let comment ← textAt "comment" fields
      let params ← listAt "params" paramOf fields
      let decorator ← decoratorAt fields
      let blackboard ← listAt "fields" fieldOf fields
      Detail.all.foldlM (detailOf fields)
        (make func policy comment params decorator blackboard)) :=
  (faultsIn_textAt "func" fields).bind fun _ => (faultsIn_textAt "policy" fields).bind fun _ =>
    (faultsIn_textAt "comment" fields).bind fun _ =>
      (faultsIn_listAt faultsIn_paramOf).bind fun _ => (faultsIn_decoratorAt fields).bind fun _ =>
        (faultsIn_listAt faultsIn_fieldOf).bind fun _ => faultsIn_foldlM (faultsIn_detailOf fields) _ _

/-- **Nodes that break off the reading** are those with a value out of range that is reached. -/
theorem nodeOf_eq_outOfRange_iff : nodeOf value = .error .outOfRange ↔ NodeOverflows value := by
  constructor
  · intro hread
    obtain ⟨fields, hfields, h⟩ := (faultsIn_fieldsOf _).exists_of_outOfRange hread
    obtain rfl := fieldsOf_eq_ok_iff.1 hfields
    -- only the id and the coordinates can break off; what is read between them has been converted
    rcases bind_eq_error_iff.1 h with h | ⟨id, hid, h⟩
    · obtain ⟨value, hvalue, hinf⟩ := integerAt_eq_outOfRange_iff.1 h
      exact .id hvalue hinf
    obtain ⟨kind, hkind, h⟩ := (faultsIn_kindAt _).exists_of_outOfRange h
    obtain ⟨name, hname, h⟩ := (faultsIn_textAt _ _).exists_of_outOfRange h
    rcases bind_eq_error_iff.1 h with h | ⟨x, hx, h⟩
    · obtain ⟨value, hvalue, hbeyond⟩ := coordinateAt_eq_outOfRange_iff.1 h
      exact .x hid hkind hname hvalue hbeyond
    rcases bind_eq_error_iff.1 h with h | ⟨y, -, h⟩
    · obtain ⟨value, hvalue, hbeyond⟩ := coordinateAt_eq_outOfRange_iff.1 h
      exact .y hid hkind hname hx hvalue hbeyond
    · exact absurd h (faultsIn_nodeOf_rest fields _).ne_outOfRange
  · intro h
    cases h with
    | @id fields value hvalue hinf =>
        have h := integerAt_eq_outOfRange_iff.2 ⟨value, hvalue, hinf⟩
        simp only [nodeOf, fieldsOf, h, bind, Except.bind]
    | @x fields value id kind name hid hkind hname hvalue hbeyond =>
        have h := coordinateAt_eq_outOfRange_iff.2 ⟨value, hvalue, hbeyond⟩
        simp only [nodeOf, fieldsOf, hid, hkind, hname, h, bind, Except.bind]
    | @y fields value id kind name x hid hkind hname hx hvalue hbeyond =>
        have h := coordinateAt_eq_outOfRange_iff.2 ⟨value, hvalue, hbeyond⟩
        simp only [nodeOf, fieldsOf, hid, hkind, hname, hx, h, bind, Except.bind]

/-- **Connections that break off the reading** are those with an infinite number that is reached. -/
theorem linkOf_eq_outOfRange_iff : linkOf value = .error .outOfRange ↔ LinkOverflows value := by
  constructor
  · intro hread
    obtain ⟨fields, hfields, h⟩ := (faultsIn_fieldsOf _).exists_of_outOfRange hread
    obtain rfl := fieldsOf_eq_ok_iff.1 hfields
    rcases bind_eq_error_iff.1 h with h | ⟨source, hsource, h⟩
    · obtain ⟨value, hvalue, hinf⟩ := integerAt_eq_outOfRange_iff.1 h
      exact .source hvalue hinf
    rcases bind_eq_error_iff.1 h with h | ⟨target, htarget, h⟩
    · obtain ⟨value, hvalue, hinf⟩ := integerAt_eq_outOfRange_iff.1 h
      exact .target hsource hvalue hinf
    rcases bind_eq_error_iff.1 h with h | ⟨order, -, h⟩
    · obtain ⟨value, hvalue, hinf⟩ := orderAt_eq_outOfRange_iff.1 h
      exact .order hsource htarget hvalue hinf
    · have hrest := (faultsIn_textAt "fromPoint" fields).bind fun fromPoint =>
        (faultsIn_textAt "toPoint" fields).bind fun toPoint => faultsIn_ok
          (⟨source, target, order, textOr "right" fromPoint, textOr "left" toPoint⟩ : Link)
      exact absurd h hrest.ne_outOfRange
  · intro h
    cases h with
    | @source fields value hvalue hinf =>
        have h := integerAt_eq_outOfRange_iff.2 ⟨value, hvalue, hinf⟩
        simp only [linkOf, fieldsOf, h, bind, Except.bind]
    | @target fields value source hsource hvalue hinf =>
        have h := integerAt_eq_outOfRange_iff.2 ⟨value, hvalue, hinf⟩
        simp only [linkOf, fieldsOf, hsource, h, bind, Except.bind]
    | @order fields value source target hsource htarget hvalue hinf =>
        have h := orderAt_eq_outOfRange_iff.2 ⟨value, hvalue, hinf⟩
        simp only [linkOf, fieldsOf, hsource, htarget, h, bind, Except.bind]

/-! ### Faults of a load -/

theorem faultsIn_integerAt (key : String) (fields : List (String × Json)) :
    FaultsIn Fault.Inconvertible (integerAt key fields) :=
  (faultsIn_required _).inconvertible.bind faultsIn_integer

theorem faultsIn_orderAt (fields : List (String × Json)) :
    FaultsIn Fault.Inconvertible (orderAt fields) := by
  unfold orderAt
  split
  · exact faultsIn_ok _
  · exact (faultsIn_integer _).map some

theorem faultsIn_nodeOf (value : Json) : FaultsIn Fault.Inconvertible (nodeOf value) :=
  (faultsIn_fieldsOf value).inconvertible.bind fun fields =>
    (faultsIn_integerAt "id" fields).bind fun _ =>
      (faultsIn_kindAt fields).inconvertible.bind fun _ =>
        (faultsIn_textAt "name" fields).inconvertible.bind fun _ =>
          (faultsIn_coordinateOf _).bind fun _ => (faultsIn_coordinateOf _).bind fun _ =>
            (faultsIn_nodeOf_rest fields _).inconvertible

theorem faultsIn_linkOf (value : Json) : FaultsIn Fault.Inconvertible (linkOf value) :=
  (faultsIn_fieldsOf value).inconvertible.bind fun fields =>
    (faultsIn_integerAt "from" fields).bind fun _ => (faultsIn_integerAt "to" fields).bind fun _ =>
      (faultsIn_orderAt fields).bind fun _ =>
        (faultsIn_textAt "fromPoint" fields).inconvertible.bind fun _ =>
          (faultsIn_textAt "toPoint" fields).inconvertible.bind fun _ =>
            faultsIn_ok _

theorem faultsIn_nodesOf (fields : List (String × Json)) :
    FaultsIn Fault.Inconvertible (nodesOf fields) :=
  (faultsIn_topItems _ _).inconvertible.bind (faultsIn_mapM faultsIn_nodeOf)

theorem faultsIn_linksOf (fields : List (String × Json)) :
    FaultsIn Fault.Inconvertible (linksOf fields) :=
  (faultsIn_topItems _ _).inconvertible.bind (faultsIn_mapM faultsIn_linkOf)

/-- The nodes and connections of a value are read, and refused because of an id that is too long to
be written. -/
def NamesLongId (value : Json) : Prop :=
  ∃ fields nodes links failure, value = .object fields ∧ nodesOf fields = .ok nodes ∧
    linksOf fields = .ok links ∧ build nodes links = .error failure ∧
    ∃ id ∈ failure.ids, isWritable id = false

/-- A load that fails cannot read the nodes, or else the links, or refuses what has been read. -/
theorem ofJson_eq_error_iff {fault : Fault} :
    ofJson (.object fields) = .error fault ↔ nodesOf fields = .error fault ∨
      ∃ nodes, nodesOf fields = .ok nodes ∧ (linksOf fields = .error fault ∨
        ∃ links, linksOf fields = .ok links ∧
          ∃ failure, build nodes links = .error failure ∧ refused failure = fault) := by
  rw [ofJson, bind_eq_error_iff]
  simp only [bind_eq_error_iff, mapError_eq_error_iff]

theorem refused_cases (failure : ImportFailure) :
    refused failure = .importing failure ∨
      refused failure = .integerTooLong ∧ ∃ id ∈ failure.ids, isWritable id = false :=
  Fault.raised_cases (.importing failure)

theorem ofJson_eq_outOfRange_iff : ofJson value = .error .outOfRange ↔ Overflows value := by
  constructor
  · intro hread
    cases value with
    | object fields =>
        rcases ofJson_eq_error_iff.1 hread with h | ⟨nodes, hnodes, h | ⟨links, -, failure, -, h⟩⟩
        · obtain ⟨raw, hraw, h⟩ := (faultsIn_topItems _ _).exists_of_outOfRange h
          obtain ⟨before, item, after, rfl, ⟨others, hbefore⟩, h⟩ := mapM_eq_error_iff.1 h
          exact .node hraw hbefore (nodeOf_eq_outOfRange_iff.1 h)
        · obtain ⟨raw, hraw, h⟩ := (faultsIn_topItems _ _).exists_of_outOfRange h
          obtain ⟨before, item, after, rfl, ⟨others, hbefore⟩, h⟩ := mapM_eq_error_iff.1 h
          exact .link hnodes hraw hbefore (linkOf_eq_outOfRange_iff.1 h)
        · rcases refused_cases failure with hwords | ⟨hwords, -⟩ <;> cases hwords.symm.trans h
    | _ => cases hread
  · intro h
    cases h with
    | @node fields before after item others hitems hbefore h =>
        have hitem := nodeOf_eq_outOfRange_iff.2 h
        have hnodes : nodesOf fields = .error .outOfRange := by
          rw [nodesOf, hitems]
          exact mapM_eq_error_iff.2 ⟨before, item, after, rfl, ⟨others, hbefore⟩, hitem⟩
        exact ofJson_eq_error_iff.2 (Or.inl hnodes)
    | @link fields before after item nodes others hnodes hitems hbefore h =>
        have hitem := linkOf_eq_outOfRange_iff.2 h
        have hlinks : linksOf fields = .error .outOfRange := by
          rw [linksOf, hitems]
          exact mapM_eq_error_iff.2 ⟨before, item, after, rfl, ⟨others, hbefore⟩, hitem⟩
        exact ofJson_eq_error_iff.2 (Or.inr ⟨nodes, hnodes, Or.inl hlinks⟩)

theorem not_inconvertible_integerTooLong : ¬ Fault.Inconvertible .integerTooLong := by
  rintro (h | h) <;> cases h

theorem ofJson_eq_integerTooLong_iff : ofJson value = .error .integerTooLong ↔ NamesLongId value := by
  constructor
  · intro hread
    cases value with
    | object fields =>
        rcases ofJson_eq_error_iff.1 hread with
          h | ⟨nodes, hnodes, h | ⟨links, hlinks, failure, hbuild, h⟩⟩
        · exact absurd (faultsIn_nodesOf fields _ h) not_inconvertible_integerTooLong
        · exact absurd (faultsIn_linksOf fields _ h) not_inconvertible_integerTooLong
        · rcases refused_cases failure with hwords | ⟨-, hlong⟩
          · cases hwords.symm.trans h
          · exact ⟨fields, nodes, links, failure, rfl, hnodes, hlinks, hbuild, hlong⟩
    | _ => cases hread
  · rintro ⟨fields, nodes, links, failure, rfl, hnodes, hlinks, hbuild, id, hid, hlong⟩
    have hwords : refused failure = .integerTooLong := Fault.raised_of_mem hid hlong
    exact ofJson_eq_error_iff.2
      (Or.inr ⟨nodes, hnodes, Or.inr ⟨links, hlinks, failure, hbuild, hwords⟩⟩)

/-- **Three sorts of faults** are all that a load can end in. -/
theorem fault_of_ofJson {fault : Fault} (h : ofJson value = .error fault) :
    (∃ failure, fault = .importing failure) ∨ fault = .outOfRange ∨ fault = .integerTooLong := by
  have hconversion : fault.Inconvertible → (∃ failure, fault = .importing failure) ∨
      fault = .outOfRange ∨ fault = .integerTooLong :=
    Or.imp (fun h => ⟨_, h⟩) Or.inl
  cases value with
  | object fields =>
      rcases ofJson_eq_error_iff.1 h with h | ⟨nodes, -, h | ⟨links, -, failure, -, h⟩⟩
      · exact hconversion (faultsIn_nodesOf fields _ h)
      · exact hconversion (faultsIn_linksOf fields _ h)
      · exact h ▸ (refused_cases failure).imp (fun hwords => ⟨failure, hwords⟩)
          fun hwords => Or.inr hwords.1
  | _ => exact Or.inl ⟨_, (Except.error.inj h).symm⟩

end Graph

/-! ### Loads that settle -/

open BehaviorTree.Graph

theorem Call.leavesUntouched_load {run : Run} {value : Json} {fault : Fault}
    (h : ofJson value = .error fault) : (Call.load value).LeavesUntouched run :=
  Call.leavesUntouched_iff.2 (Call.result_load_of_error run h)

/-- A load succeeds with the graph that is read, or fails on import and leaves all as it was. -/
def Run.SettlesLoad (run : Run) (value : Json) : Prop :=
  (∃ g, ofJson value = .ok g ∧ (Call.load value).result run = g) ∨
    ∃ failure, ofJson value = .error (.importing failure) ∧
      (Call.load value).LeavesUntouched run

theorem Run.settlesLoad_iff_ne {run : Run} {value : Json} : run.SettlesLoad value ↔
    ofJson value ≠ .error .outOfRange ∧ ofJson value ≠ .error .integerTooLong := by
  constructor
  · rintro (⟨g, hread, -⟩ | ⟨failure, hread, -⟩) <;> rw [hread] <;> exact ⟨nofun, nofun⟩
  · rintro ⟨hrange, hlong⟩
    cases hread : ofJson value with
    | ok g => exact Or.inl ⟨g, hread, Call.result_load_of_ok run hread⟩
    | error fault =>
        rcases fault_of_ofJson hread with ⟨failure, rfl⟩ | rfl | rfl
        · exact Or.inr ⟨failure, hread, Call.leavesUntouched_load hread⟩
        · exact absurd hread hrange
        · exact absurd hread hlong

/-- **Loading any value** into the graph of a run settles, unless the reading gets to an infinite
double where it needs an integer, or to an integer beyond the doubles where it needs a coordinate, or
what has been read is refused for an id that is too long to be written.  Also then nothing changes. -/
theorem Run.settlesLoad_iff (calls : List Call) (value : Json) :
    ((after calls).SettlesLoad value ↔ ¬ Overflows value ∧ ¬ NamesLongId value) ∧
      ∀ fault, ofJson value = .error fault →
        (Call.load value).LeavesUntouched (after calls) ∧
          ((∃ failure, fault = .importing failure) ∨
            fault = .outOfRange ∧ Overflows value ∨
            fault = .integerTooLong ∧ NamesLongId value) := by
  constructor
  · rw [settlesLoad_iff_ne, Ne, ofJson_eq_outOfRange_iff, Ne, ofJson_eq_integerTooLong_iff]
  · intro fault hread
    refine ⟨Call.leavesUntouched_load hread, ?_⟩
    rcases fault_of_ofJson hread with hfailure | rfl | rfl
    · exact Or.inl hfailure
    · exact Or.inr (Or.inl ⟨rfl, ofJson_eq_outOfRange_iff.1 hread⟩)
    · exact Or.inr (Or.inr ⟨rfl, ofJson_eq_integerTooLong_iff.1 hread⟩)

/-- A graph with an action whose id is infinite. -/
def infiniteId : Json :=
  .object [("nodes", .array [.object [("id", .number (.float 1e999)), ("type", .text "ACTION")]])]

theorem overflows_infiniteId : Overflows infiniteId :=
  @Overflows.node _ [] [] _ _ rfl rfl (.id rfl ⟨1e999, rfl, by decide +kernel⟩)

/-- A graph with two actions that have the same id. -/
def twins (id : Int) : Json :=
  .object [("nodes", .array [.object [("id", .number (.int id)), ("type", .text "ACTION")],
    .object [("id", .number (.int id)), ("type", .text "ACTION")]])]

theorem namesLongId_twins {id : Int} (h : isWritable id = false) : NamesLongId (twins id) := by
  have hbuild : build [{ id := id, kind := .action }, { id := id, kind := .action }] [] =
      .error (.duplicateNode id) := by
    simp [build, repeatedId?]
  exact ⟨_, _, [], _, rfl, rfl, rfl, hbuild, id, List.mem_singleton_self id, h⟩

/-- **Two loads that do not settle**: of an infinite id, and of an id that is too long and comes
twice. -/
theorem Run.not_settlesLoad_infiniteId :
    (ofJson infiniteId = .error .outOfRange ∧ ¬ (after []).SettlesLoad infiniteId) ∧
      ofJson (twins (10 ^ numeralLimit)) = .error .integerTooLong ∧
        ¬ (after []).SettlesLoad (twins (10 ^ numeralLimit)) := by
  have hlong : isWritable (10 ^ numeralLimit) = false := by
    rw [← Bool.not_eq_true, isWritable_iff_lt]
    simp
  have hinfinite := ofJson_eq_outOfRange_iff.2 overflows_infiniteId
  have htwins := ofJson_eq_integerTooLong_iff.2 (namesLongId_twins hlong)
  exact ⟨⟨hinfinite, fun h => (settlesLoad_iff_ne.1 h).1 hinfinite⟩,
    htwins, fun h => (settlesLoad_iff_ne.1 h).2 htwins⟩

end BehaviorTree
