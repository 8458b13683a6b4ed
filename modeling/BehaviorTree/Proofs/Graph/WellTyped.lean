import BehaviorTree.Graph.Record
import BehaviorTree.Proofs.Success

/-! # Well-typed documents

The values of a well-typed document have the types that the schema asks for; all but the ids and
kinds of nodes and the ids that links join may be absent or null.  Its nodes and links can be read
whatever they say (`exists_nodesOf`, `exists_linksOf`): nothing in them is malformed or out of
range. -/

namespace BehaviorTree

open BehaviorTree.Graph
open BehaviorTree.Json (lookup?)

/-! ### Types of values -/

namespace Json

/-- A value is a text. -/
def IsText (value : Json) : Prop := ∃ s, value = .text s

/-- A value is an integer. -/
def IsInteger (value : Json) : Prop := ∃ n, value = .number (.int n)

/-- A value is a number in the range of the doubles. -/
def IsDouble (value : Json) : Prop := ∃ n x, value = .number n ∧ n.toFloat? = some x

/-- A value is the text of a kind of node. -/
def IsKind (value : Json) : Prop := ∃ kind : NodeKind, value = .text kind.text

/-- A value is the text of a decorator behavior, or the empty text. -/
def IsBehavior (value : Json) : Prop :=
  value = .text "" ∨ ∃ kind : DecoratorKind, value = .text kind.text

/-- A value is a list of items of some type. -/
def IsListOf (P : Json → Prop) (value : Json) : Prop :=
  ∃ items, value = .array items ∧ ∀ item ∈ items, P item

/-- A value is an object with fields of some types. -/
def IsRecord (P : List (String × Json) → Prop) (value : Json) : Prop :=
  ∃ fields, value = .object fields ∧ P fields

/-- What stands under a key has some type, unless it is absent or null. -/
def Holds (P : Json → Prop) (key : String) (fields : List (String × Json)) : Prop :=
  ∀ value, valueAt? key fields = some value → P value

/-- What stands under a key has to be there, and to have some type. -/
def Has (P : Json → Prop) (key : String) (fields : List (String × Json)) : Prop :=
  ∃ value, lookup? key fields = some value ∧ P value

end Json

open BehaviorTree.Json (IsText IsInteger IsDouble IsKind IsBehavior IsListOf IsRecord Holds Has)

/-- The fields of a well-typed argument or blackboard field are texts. -/
def TypedEntry (keys : List String) (fields : List (String × Json)) : Prop :=
  ∀ key ∈ keys, Holds IsText key fields

/-- The fields of a well-typed node. -/
structure TypedNode (fields : List (String × Json)) : Prop where
  id : Has IsInteger "id" fields
  kind : Has IsKind "type" fields
  texts : ∀ key ∈ ["name", "func", "policy", "comment"], Holds IsText key fields
  coordinates : ∀ key ∈ ["x", "y"], Holds IsDouble key fields
  params : Holds (IsListOf (IsRecord (TypedEntry ["name", "value"]))) "params" fields
  decorator : Holds IsBehavior "decoratorType" fields
  details : ∀ d ∈ Detail.all, Holds IsText d.key fields
  fields : Holds (IsListOf (IsRecord (TypedEntry ["key", "value", "comment"]))) "fields" fields

/-- The fields of a well-typed link. -/
structure TypedLink (fields : List (String × Json)) : Prop where
  source : Has IsInteger "from" fields
  target : Has IsInteger "to" fields
  order : Holds IsInteger "order" fields
  points : ∀ key ∈ ["fromPoint", "toPoint"], Holds IsText key fields

/-- The fields of a well-typed document. -/
structure TypedGraph (fields : List (String × Json)) : Prop where
  nodes : Holds (IsListOf (IsRecord TypedNode)) "nodes" fields
  links : Holds (IsListOf (IsRecord TypedLink)) "connections" fields

/-- A well-typed document. -/
def WellTyped (value : Json) : Prop := IsRecord TypedGraph value

namespace Graph

variable {key : String} {fields : List (String × Json)} {value : Json}

/-! ### Reading by types -/

theorem valueAt?_eq_none_iff : valueAt? key fields = none ↔
    lookup? key fields = none ∨ lookup? key fields = some .null := by
  unfold valueAt?
  cases lookup? key fields with
  | none => simp
  | some value => cases value <;> simp

theorem valueAt?_eq_some_iff : valueAt? key fields = some value ↔
    lookup? key fields = some value ∧ value ≠ .null := by
  unfold valueAt?
  cases lookup? key fields with
  | none => simp
  | some found => cases found <;> simp <;> rintro rfl <;> simp

/-- An absent value is read like null. -/
theorem getD_lookup? : (lookup? key fields).getD .null = (valueAt? key fields).getD .null := by
  unfold valueAt?
  cases lookup? key fields with
  | none => rfl
  | some value => cases value <;> rfl

theorem exists_textAt (h : Holds IsText key fields) : ∃ s, textAt key fields = .ok s := by
  rw [textAt, getD_lookup?]
  cases hvalue : valueAt? key fields with
  | none => exact ⟨"", rfl⟩
  | some value =>
      obtain ⟨s, rfl⟩ := h value hvalue
      exact ⟨s, rfl⟩

theorem exists_integerAt (h : Has IsInteger key fields) : ∃ n, integerAt key fields = .ok n := by
  obtain ⟨_, hvalue, n, rfl⟩ := h
  rw [integerAt, hvalue]
  exact ⟨n, rfl⟩

theorem exists_coordinateAt (h : Holds IsDouble key fields) :
    ∃ x, coordinateAt key fields = .ok x := by
  rw [coordinateAt, getD_lookup?]
  cases hvalue : valueAt? key fields with
  | none => exact ⟨0.0, rfl⟩
  | some value =>
      obtain ⟨n, x, rfl, hx⟩ := h value hvalue
      rw [Option.getD_some, coordinateOf]
      split_ifs
      · exact ⟨0.0, rfl⟩
      · exact ⟨x, by simp only [coordinate, hx]⟩

theorem exists_listAt {α : Type} {P : Json → Prop} {read : Json → Except Fault α}
    (hread : ∀ item, P item → ∃ a, read item = .ok a) (h : Holds (IsListOf P) key fields) :
    ∃ o, listAt key read fields = .ok o := by
  unfold listAt
  cases hvalue : valueAt? key fields with
  | none => exact ⟨none, rfl⟩
  | some value =>
      obtain ⟨items, rfl, hitems⟩ := h value hvalue
      obtain ⟨answers, hanswers⟩ :=
        exists_mapM_iff.2 fun item hitem => hread item (hitems item hitem)
      exact ⟨some answers, map_eq_ok_iff.2 ⟨answers, hanswers, rfl⟩⟩

theorem exists_topItems {P : Json → Prop} (h : Holds (IsListOf P) key fields) :
    ∃ items, topItems key fields = .ok items ∧ ∀ item ∈ items, P item := by
  have hnone : ∀ item ∈ ([] : List Json), P item := fun item hitem => absurd hitem List.not_mem_nil
  cases hvalue : valueAt? key fields with
  | none =>
      rcases valueAt?_eq_none_iff.1 hvalue with hlookup | hlookup
      · exact ⟨[], by rw [topItems, hlookup], hnone⟩
      · exact ⟨[], by rw [topItems, hlookup]; rfl, hnone⟩
  | some value =>
      obtain ⟨items, rfl, hitems⟩ := h value hvalue
      have hlookup := (valueAt?_eq_some_iff.1 hvalue).1
      cases items with
      | nil => exact ⟨[], by rw [topItems, hlookup]; rfl, hnone⟩
      | cons item rest => exact ⟨item :: rest, by rw [topItems, hlookup]; rfl, hitems⟩

theorem exists_kindAt (h : Has IsKind "type" fields) : ∃ kind, kindAt fields = .ok kind := by
  obtain ⟨_, hvalue, kind, rfl⟩ := h
  refine ⟨kind, ?_⟩
  rw [kindAt, hvalue]
  change required (NodeKind.ofText? kind.text) = _
  rw [NodeKind.ofText?_text]
  rfl

theorem exists_decoratorAt (h : Holds IsBehavior "decoratorType" fields) :
    ∃ o, decoratorAt fields = .ok o := by
  unfold decoratorAt
  cases hvalue : valueAt? "decoratorType" fields with
  | none =>
      rcases valueAt?_eq_none_iff.1 hvalue with hlookup | hlookup
      · exact ⟨none, by rw [hlookup]⟩
      · exact ⟨none, by rw [hlookup]; rfl⟩
  | some value =>
      rw [(valueAt?_eq_some_iff.1 hvalue).1]
      rcases h value hvalue with rfl | ⟨kind, rfl⟩
      · exact ⟨none, rfl⟩
      · refine ⟨some kind, ?_⟩
        cases kind <;> decide

theorem exists_details {details : List Detail} (h : ∀ d ∈ details, Holds IsText d.key fields)
    (node : Node) : ∃ read, details.foldlM (detailOf fields) node = .ok read := by
  induction details generalizing node with
  | nil => exact ⟨node, rfl⟩
  | cons d rest ih =>
      obtain ⟨next, hnext⟩ : ∃ next, detailOf fields node d = .ok next := by
        unfold detailOf
        cases hvalue : valueAt? d.key fields with
        | none => exact ⟨node, rfl⟩
        | some value =>
            obtain ⟨s, rfl⟩ := h d List.mem_cons_self value hvalue
            exact ⟨node.setDetail s d, rfl⟩
      rw [List.foldlM_cons, hnext]
      exact ih (fun d hd => h d (List.mem_cons_of_mem _ hd)) next

/-! ### Nodes and links -/

theorem exists_paramOf (h : IsRecord (TypedEntry ["name", "value"]) value) :
    ∃ param, paramOf value = .ok param := by
  obtain ⟨fields, rfl, h⟩ := h
  obtain ⟨name, hname⟩ := exists_textAt (h "name" (by simp))
  obtain ⟨value, hvalue⟩ := exists_textAt (h "value" (by simp))
  exact ⟨⟨name, value⟩, by simp only [paramOf, fieldsOf, hname, hvalue, bind, Except.bind]; rfl⟩

theorem exists_fieldOf (h : IsRecord (TypedEntry ["key", "value", "comment"]) value) :
    ∃ field, fieldOf value = .ok field := by
  obtain ⟨fields, rfl, h⟩ := h
  obtain ⟨key, hkey⟩ := exists_textAt (h "key" (by simp))
  obtain ⟨value, hvalue⟩ := exists_textAt (h "value" (by simp))
  obtain ⟨comment, hcomment⟩ := exists_textAt (h "comment" (by simp))
  refine ⟨⟨key, value, comment⟩, ?_⟩
  simp only [fieldOf, fieldsOf, hkey, hvalue, hcomment, bind, Except.bind]
  rfl

theorem exists_nodeOf (h : IsRecord TypedNode value) : ∃ node, nodeOf value = .ok node := by
  obtain ⟨fields, rfl, h⟩ := h
  obtain ⟨id, hid⟩ := exists_integerAt h.id
  obtain ⟨kind, hkind⟩ := exists_kindAt h.kind
  obtain ⟨name, hname⟩ := exists_textAt (h.texts "name" (by simp))
  obtain ⟨x, hx⟩ := exists_coordinateAt (h.coordinates "x" (by simp))
  obtain ⟨y, hy⟩ := exists_coordinateAt (h.coordinates "y" (by simp))
  obtain ⟨func, hfunc⟩ := exists_textAt (h.texts "func" (by simp))
  obtain ⟨policy, hpolicy⟩ := exists_textAt (h.texts "policy" (by simp))
  obtain ⟨comment, hcomment⟩ := exists_textAt (h.texts "comment" (by simp))
  obtain ⟨params, hparams⟩ := exists_listAt (fun _ => exists_paramOf) h.params
  obtain ⟨decorator, hdecorator⟩ := exists_decoratorAt h.decorator
  obtain ⟨board, hboard⟩ := exists_listAt (fun _ => exists_fieldOf) h.fields
  simp only [nodeOf, fieldsOf, hid, hkind, hname, hx, hy, hfunc, hpolicy, hcomment, hparams,
    hdecorator, hboard, bind, Except.bind]
  exact exists_details h.details _

theorem exists_orderAt (h : Holds IsInteger "order" fields) : ∃ o, orderAt fields = .ok o := by
  unfold orderAt
  cases hvalue : valueAt? "order" fields with
  | none => exact ⟨none, rfl⟩
  | some value =>
      obtain ⟨n, rfl⟩ := h value hvalue
      exact ⟨some n, rfl⟩

theorem exists_linkOf (h : IsRecord TypedLink value) : ∃ link, linkOf value = .ok link := by
  obtain ⟨fields, rfl, h⟩ := h
  obtain ⟨source, hsource⟩ := exists_integerAt h.source
  obtain ⟨target, htarget⟩ := exists_integerAt h.target
  obtain ⟨order, horder⟩ := exists_orderAt h.order
  obtain ⟨fromPoint, hfrom⟩ := exists_textAt (h.points "fromPoint" (by simp))
  obtain ⟨toPoint, hto⟩ := exists_textAt (h.points "toPoint" (by simp))
  simp only [linkOf, fieldsOf, hsource, htarget, horder, hfrom, hto, bind, Except.bind]
  exact ⟨_, rfl⟩

/-! ### Documents -/

theorem exists_nodesOf (h : TypedGraph fields) : ∃ nodes, nodesOf fields = .ok nodes := by
  obtain ⟨items, hitems, htyped⟩ := exists_topItems h.nodes
  obtain ⟨nodes, hnodes⟩ := exists_mapM_iff.2 fun item hitem => exists_nodeOf (htyped item hitem)
  exact ⟨nodes, bind_eq_ok_iff.2 ⟨items, hitems, hnodes⟩⟩

theorem exists_linksOf (h : TypedGraph fields) : ∃ links, linksOf fields = .ok links := by
  obtain ⟨items, hitems, htyped⟩ := exists_topItems h.links
  obtain ⟨links, hlinks⟩ := exists_mapM_iff.2 fun item hitem => exists_linkOf (htyped item hitem)
  exact ⟨links, bind_eq_ok_iff.2 ⟨items, hitems, hlinks⟩⟩

end Graph
end BehaviorTree
