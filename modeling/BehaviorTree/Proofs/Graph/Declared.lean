import BehaviorTree.Proofs.Graph.Loading
import BehaviorTree.Proofs.Graph.Ranks
import BehaviorTree.Proofs.Graph.WellTyped
import BehaviorTree.Proofs.Graph.WritableIds

/-! # Graphs as documents declare them

A document that can be read lists nodes and links (`Reads`).  It is refused for the first id that
comes again, and if there is none, for the first link that names a missing node or joins two nodes
again (`Refused`); there is no other reason (`build_eq_error_iff`).

An accepted document becomes the graph of its nodes and links, in the sequences of the document.  Its
links keep what they join and where they are attached, and the children of a node are those that the
links out of it lead to, sorted stably by their orders (`ofJson_declared`). -/

namespace BehaviorTree

open BehaviorTree.Graph
open BehaviorTree.Json (lookup?)

/-! ### Readings -/

namespace Link

/-- Where a link is attached: at the point under a key, or at the usual one if there is none or an
empty one. -/
inductive PointAt (key usual : String) (fields : List (String × Json)) : String → Prop
  | missing (h : valueAt? key fields = none) : PointAt key usual fields usual
  | empty {value : Json} (h : valueAt? key fields = some value) (htext : textOf value = .ok "") :
      PointAt key usual fields usual
  | given {value : Json} {point : String} (h : valueAt? key fields = some value)
      (htext : textOf value = .ok point) (hne : point ≠ "") : PointAt key usual fields point

/-- A value declares a link. -/
def DeclaredBy (value : Json) (link : Link) : Prop :=
  ∃ fields, value = .object fields ∧ integerAt "from" fields = .ok link.source ∧
    integerAt "to" fields = .ok link.target ∧ orderAt fields = .ok link.order ∧
    PointAt "fromPoint" "right" fields link.fromPoint ∧
    PointAt "toPoint" "left" fields link.toPoint

theorem pointAt_iff {key usual point : String} {fields : List (String × Json)} :
    PointAt key usual fields point ↔ ∃ s, textAt key fields = .ok s ∧ textOr usual s = point := by
  have htextOr : ∀ s, s ≠ "" → textOr usual s = s := fun s hs => if_neg (by simpa using hs)
  rw [textAt, getD_lookup?]
  constructor
  · rintro (h | ⟨h, htext⟩ | ⟨h, htext, hne⟩)
    · rw [h]
      exact ⟨"", rfl, rfl⟩
    · rw [h]
      exact ⟨"", htext, rfl⟩
    · rw [h]
      exact ⟨point, htext, htextOr point hne⟩
  · rintro ⟨s, htext, rfl⟩
    cases hvalue : valueAt? key fields with
    | none =>
        rw [hvalue] at htext
        obtain rfl : "" = s := Except.ok.inj htext
        exact .missing hvalue
    | some value =>
        rw [hvalue] at htext
        by_cases hs : s = ""
        · subst hs
          exact .empty hvalue htext
        · rw [htextOr s hs]
          exact .given hvalue htext hs

theorem linkOf_eq_ok_iff {value : Json} {link : Link} :
    linkOf value = .ok link ↔ DeclaredBy value link := by
  constructor
  · intro h
    obtain ⟨fields, hfields, h⟩ := bind_eq_ok_iff.1 h
    obtain ⟨source, hsource, h⟩ := bind_eq_ok_iff.1 h
    obtain ⟨target, htarget, h⟩ := bind_eq_ok_iff.1 h
    obtain ⟨order, horder, h⟩ := bind_eq_ok_iff.1 h
    obtain ⟨fromPoint, hfrom, h⟩ := bind_eq_ok_iff.1 h
    obtain ⟨toPoint, hto, h⟩ := bind_eq_ok_iff.1 h
    obtain rfl := Except.ok.inj h
    exact ⟨fields, fieldsOf_eq_ok_iff.1 hfields, hsource, htarget, horder,
      pointAt_iff.2 ⟨fromPoint, hfrom, rfl⟩, pointAt_iff.2 ⟨toPoint, hto, rfl⟩⟩
  · rintro ⟨fields, rfl, hsource, htarget, horder, hfrom, hto⟩
    obtain ⟨fromPoint, hfrom, hfrom'⟩ := pointAt_iff.1 hfrom
    obtain ⟨toPoint, hto, hto'⟩ := pointAt_iff.1 hto
    simp only [linkOf, fieldsOf, hsource, htarget, horder, hfrom, hto, bind, Except.bind]
    rw [hfrom', hto']
    rfl

end Link

namespace Graph

/-- A document declares nodes and links. -/
def Reads (value : Json) (nodes : List Node) (links : List Link) : Prop :=
  ∃ fields nodeItems linkItems, value = .object fields ∧
    topItems "nodes" fields = .ok nodeItems ∧ topItems "connections" fields = .ok linkItems ∧
    List.Forall₂ (fun item node => nodeOf item = .ok node) nodeItems nodes ∧
    List.Forall₂ Link.DeclaredBy linkItems links

variable {value : Json} {nodes : List Node} {links : List Link} {ids : List ℤ}

theorem reads_iff : Reads value nodes links ↔
    ∃ fields, value = .object fields ∧ nodesOf fields = .ok nodes ∧ linksOf fields = .ok links := by
  have hdeclared : (Link.DeclaredBy : Json → Link → Prop) =
      fun item link => linkOf item = .ok link :=
    funext₂ fun _ _ => propext Link.linkOf_eq_ok_iff.symm
  simp only [Reads, nodesOf, linksOf, bind_eq_ok_iff, mapM_eq_ok_iff, hdeclared]
  constructor
  · rintro ⟨fields, nodeItems, linkItems, rfl, hnodeItems, hlinkItems, hnodes, hlinks⟩
    exact ⟨fields, rfl, ⟨nodeItems, hnodeItems, hnodes⟩, linkItems, hlinkItems, hlinks⟩
  · rintro ⟨fields, rfl, ⟨nodeItems, hnodeItems, hnodes⟩, linkItems, hlinkItems, hlinks⟩
    exact ⟨fields, nodeItems, linkItems, rfl, hnodeItems, hlinkItems, hnodes, hlinks⟩

/-- A document is read by building a graph of what it declares. -/
theorem Reads.ofJson_eq (h : Reads value nodes links) :
    ofJson value = (build nodes links).mapError refused := by
  obtain ⟨fields, rfl, hnodes, hlinks⟩ := reads_iff.1 h
  simp only [ofJson, hnodes, hlinks, bind, Except.bind]

theorem exists_reads_of_ofJson {g : Graph} (h : ofJson value = .ok g) :
    ∃ nodes links, Reads value nodes links ∧ build nodes links = .ok g := by
  cases value with
  | object fields =>
      obtain ⟨nodes, hnodes, h⟩ := bind_eq_ok_iff.1 h
      obtain ⟨links, hlinks, h⟩ := bind_eq_ok_iff.1 h
      exact ⟨nodes, links, reads_iff.2 ⟨fields, rfl, hnodes, hlinks⟩, mapError_eq_ok_iff.1 h⟩
  | _ => cases h

theorem exists_reads_of_wellTyped (h : WellTyped value) :
    ∃ nodes links, Reads value nodes links := by
  obtain ⟨fields, rfl, h⟩ := h
  obtain ⟨nodes, hnodes⟩ := exists_nodesOf h
  obtain ⟨links, hlinks⟩ := exists_linksOf h
  exact ⟨nodes, links, reads_iff.2 ⟨fields, rfl, hnodes, hlinks⟩⟩

/-! ### Refusals -/

/-- Links join nodes that there are, and no two nodes twice. -/
def Joins (ids : List ℤ) (links : List Link) : Prop :=
  (∀ link ∈ links, link.source ∈ ids ∧ link.target ∈ ids) ∧ (links.map Link.ends).Nodup

/-- Why nodes with some ids and links make no graph, with the code of the reason. -/
inductive Refused (ids : List ℤ) (links : List Link) : String → ImportFailure → Prop
  /-- The first id that comes again. -/
  | node {before after : List ℤ} {id : ℤ} (hids : ids = before ++ id :: after)
      (hbefore : before.Nodup) (hagain : id ∈ before) :
      Refused ids links "E3003" (.duplicateNode id)
  /-- The first link that offends names a missing node. -/
  | missing {before after : List Link} {link : Link} (hids : ids.Nodup)
      (hlinks : links = before ++ link :: after) (hbefore : Joins ids before)
      (hmissing : link.source ∉ ids ∨ link.target ∉ ids) :
      Refused ids links "E3004" (.danglingConnection link.source link.target)
  /-- The first link that offends joins two nodes that are joined before. -/
  | again {before after : List Link} {link : Link} (hids : ids.Nodup)
      (hlinks : links = before ++ link :: after) (hbefore : Joins ids before)
      (hjoins : link.source ∈ ids ∧ link.target ∈ ids)
      (hagain : link.ends ∈ before.map Link.ends) :
      Refused ids links "E3005" (.duplicateConnection link.source link.target)

/-- **The first item that is refused**, by a check that knows the keys of the items before. -/
theorem first_refused_iff {α κ ε : Type} {check : List κ → α → Option ε} {key : α → κ}
    {first : List κ → List α → Option ε} (hnil : ∀ seen, first seen [] = none)
    (hcons : ∀ seen a rest,
      first seen (a :: rest) = (check seen a).or (first (key a :: seen) rest))
    {seen : List κ} {items : List α} {e : ε} :
    first seen items = some e ↔ ∃ before a after, items = before ++ a :: after ∧
      first seen before = none ∧ check ((before.map key).reverse ++ seen) a = some e := by
  induction items generalizing seen with
  | nil => simp [hnil]
  | cons a rest ih =>
      rw [hcons]
      cases hcheck : check seen a with
      | some found =>
          -- nothing before `a` is refused, and what lies behind it is not looked at
          constructor
          · rintro ⟨⟩
            exact ⟨[], a, rest, rfl, hnil seen, hcheck⟩
          · rintro ⟨before, other, after, hsplit, hbefore, hother⟩
            cases before with
            | nil =>
                obtain rfl := (List.cons.inj hsplit).1
                exact hcheck.symm.trans hother
            | cons b before =>
                obtain rfl := (List.cons.inj hsplit).1
                rw [hcons, hcheck] at hbefore
                cases hbefore
      | none =>
          rw [Option.none_or, ih]
          constructor
          · rintro ⟨before, other, after, rfl, hbefore, hother⟩
            refine ⟨a :: before, other, after, rfl, ?_, by simpa using hother⟩
            rw [hcons, hcheck, Option.none_or, hbefore]
          · rintro ⟨before, other, after, hsplit, hbefore, hother⟩
            cases before with
            | nil =>
                obtain rfl := (List.cons.inj hsplit).1
                cases hcheck.symm.trans hother
            | cons b before =>
                obtain ⟨rfl, rfl⟩ := List.cons.inj hsplit
                rw [hcons, hcheck, Option.none_or] at hbefore
                exact ⟨before, other, after, rfl, hbefore, by simpa using hother⟩

theorem repeatedId?_nil_eq_none_iff : repeatedId? [] ids = none ↔ ids.Nodup := by
  simp [repeatedId?_eq_none_iff]

theorem repeatedId?_eq_some_iff {id : ℤ} : repeatedId? [] ids = some id ↔
    ∃ before after, ids = before ++ id :: after ∧ before.Nodup ∧ id ∈ before := by
  have hcons : ∀ (seen : List ℤ) (first : ℤ) (rest : List ℤ), repeatedId? seen (first :: rest) =
      (if first ∈ seen then some first else none).or (repeatedId? (first :: seen) rest) := by
    intro seen first rest
    rw [repeatedId?]
    split_ifs <;> rfl
  rw [first_refused_iff (fun _ => rfl) hcons]
  simp only [repeatedId?_nil_eq_none_iff, List.map_id', List.append_nil, List.mem_reverse,
    Option.ite_none_right_eq_some, Option.some.injEq]
  constructor
  · rintro ⟨before, _, after, hsplit, hbefore, hagain, rfl⟩
    exact ⟨before, after, hsplit, hbefore, hagain⟩
  · rintro ⟨before, after, hsplit, hbefore, hagain⟩
    exact ⟨before, id, after, hsplit, hbefore, hagain, rfl⟩

/-- The first link that offends names a missing node, or else joins two nodes again. -/
theorem linkFailure?_eq_some_iff {failure : ImportFailure} :
    linkFailure? ids [] links = some failure ↔ ∃ before link after,
      links = before ++ link :: after ∧ Joins ids before ∧
        ((link.source ∉ ids ∨ link.target ∉ ids) ∧
            failure = .danglingConnection link.source link.target ∨
          (link.source ∈ ids ∧ link.target ∈ ids) ∧ link.ends ∈ before.map Link.ends ∧
            failure = .duplicateConnection link.source link.target) := by
  have hcons : ∀ (seen : List (ℤ × ℤ)) (link : Link) (rest : List Link),
      linkFailure? ids seen (link :: rest) =
        (if link.source ∉ ids ∨ link.target ∉ ids then
          some (.danglingConnection link.source link.target)
        else if link.ends ∈ seen then some (.duplicateConnection link.source link.target)
        else none).or (linkFailure? ids (link.ends :: seen) rest) := by
    intro seen link rest
    rw [linkFailure?]
    change (if _ then _ else if link.ends ∈ seen then _ else _) = _
    split_ifs <;> rfl
  have hnone : ∀ before, linkFailure? ids [] before = none ↔ Joins ids before := fun before => by
    simp [linkFailure?_eq_none_iff, Joins]
  rw [first_refused_iff (fun _ => rfl) hcons]
  refine exists_congr fun before => exists_congr fun link => exists_congr fun after =>
    and_congr_right fun _ => and_congr (hnone before) ?_
  have hpresent : (link.source ∈ ids ∧ link.target ∈ ids) ↔
      ¬ (link.source ∉ ids ∨ link.target ∉ ids) := by rw [not_or, not_not, not_not]
  simp only [List.append_nil, List.mem_reverse, hpresent]
  split_ifs with hmissing hagain
  · simp [hmissing, eq_comm]
  · simp [hmissing, hagain, eq_comm]
  · simp [hmissing, hagain]

/-- **When no graph is built**: an id comes again, or if none does, a link offends. -/
theorem build_eq_error_iff {failure : ImportFailure} : build nodes links = .error failure ↔
    ∃ code, Refused (nodes.map (·.id)) links code failure := by
  unfold build
  dsimp only
  constructor
  · intro h
    split at h
    · rename_i id hrepeated
      obtain rfl := Except.error.inj h
      obtain ⟨before, after, hsplit, hbefore, hagain⟩ := repeatedId?_eq_some_iff.1 hrepeated
      exact ⟨_, .node hsplit hbefore hagain⟩
    · rename_i hunique
      split at h
      · rename_i hfailure
        obtain rfl := Except.error.inj h
        obtain ⟨before, link, after, hsplit, hbefore, ⟨hmissing, rfl⟩ | ⟨hjoins, hagain, rfl⟩⟩ :=
          linkFailure?_eq_some_iff.1 hfailure
        · exact ⟨_, .missing (repeatedId?_nil_eq_none_iff.1 hunique) hsplit hbefore hmissing⟩
        · exact ⟨_, .again (repeatedId?_nil_eq_none_iff.1 hunique) hsplit hbefore hjoins hagain⟩
      · cases h
  · rintro ⟨code, h⟩
    cases h with
    | node hsplit hbefore hagain =>
        rw [repeatedId?_eq_some_iff.2 ⟨_, _, hsplit, hbefore, hagain⟩]
    | missing hunique hsplit hbefore hmissing =>
        rw [repeatedId?_nil_eq_none_iff.2 hunique, linkFailure?_eq_some_iff.2
          ⟨_, _, _, hsplit, hbefore, Or.inl ⟨hmissing, rfl⟩⟩]
    | again hunique hsplit hbefore hjoins hagain =>
        rw [repeatedId?_nil_eq_none_iff.2 hunique, linkFailure?_eq_some_iff.2
          ⟨_, _, _, hsplit, hbefore, Or.inr ⟨hjoins, hagain, rfl⟩⟩]

/-! ### Declared graphs -/

/-- Imported connections stand in the sequence of the links, each with what its link declares. -/
theorem forall₂_connections (links : List Link) :
    List.Forall₂ (fun c link => ∃ place, c = Link.connection link place) (Link.connections links)
      links := by
  have hranked : ∀ earlier placed : List (Link × ℤ), List.Forall₂
      (fun c x => ∃ place, c = Link.connection x.1 place) (Link.ranked earlier placed) placed := by
    intro earlier placed
    induction placed generalizing earlier with
    | nil => exact .nil
    | cons x rest ih => exact .cons ⟨_, rfl⟩ (ih (x :: earlier))
  have hplaced := hranked [] (Link.placed [] links)
  rw [← Link.map_fst_placed [] links, List.forall₂_map_right_iff]
  rwa [Link.map_fst_placed]

/-- The children of a node are what its connections lead to, and each leads to a node. -/
theorem WellFormed.map_some_children {g : Graph} (h : g.WellFormed) (parent : ℤ) :
    (g.children parent).map some = (g.outgoing parent).map fun c => g.find? c.target := by
  rw [children, List.map_filterMap_some_eq_filter_map_isSome, List.filter_eq_self]
  intro found hfound
  obtain ⟨c, hc, rfl⟩ := List.mem_map.1 hfound
  obtain ⟨-, htarget⟩ := h.joined c (mem_outgoing.1 hc).1
  obtain ⟨node, hnode, hid⟩ := List.mem_map.1 htarget
  rw [← hid, h.find?_of_mem hnode]
  rfl

theorem map_order_mapIdx_connection (links : List Link) :
    (links.mapIdx fun place link => link.connection place).map (·.order) =
      List.range links.length := by
  rw [List.mapIdx_eq_zipIdx_map, List.map_map, List.range_eq_range', ← List.zipIdx_map_snd 0 links]
  rfl

/-- A graph as nodes and links declare it: these are in the sequences of the document, and the
children of a node are what the links out of it lead to, as sorting arranges and numbers them. -/
structure Declared (nodes : List Node) (links : List Link) (g : Graph) : Prop where
  nodes_eq : g.nodes = nodes
  connections : List.Forall₂ (fun c link => ∃ place, c = Link.connection link place) g.connections
    links
  outgoing : ∀ parent, g.outgoing parent =
    (Link.arranged links parent).mapIdx fun place link => link.connection place
  orders : ∀ parent, (g.outgoing parent).map (·.order) =
    List.range (Link.arranged links parent).length
  children : ∀ parent, (g.children parent).map some =
    (Link.arranged links parent).map fun link => g.find? link.target

theorem declared_of_build {g : Graph} (h : build nodes links = .ok g) : Declared nodes links g := by
  obtain ⟨-, -, -, hg⟩ := (build_eq_ok_iff nodes links g).1 h
  have hconnections : g.connections = Link.connections links := by rw [hg]
  have houtgoing : ∀ parent, g.outgoing parent =
      (Link.arranged links parent).mapIdx fun place link => link.connection place := fun parent =>
    (congrArg (byOrder · parent) hconnections).trans (Link.byOrder_connections links parent)
  refine ⟨by rw [hg], ?_, houtgoing, fun parent => ?_, fun parent => ?_⟩
  · rw [hconnections]
    exact forall₂_connections links
  · rw [houtgoing, map_order_mapIdx_connection]
  · rw [(WellFormed.of_build h).map_some_children, houtgoing, List.mapIdx_eq_zipIdx_map,
      List.map_map]
    conv_rhs => rw [← List.zipIdx_map_fst 0 (Link.arranged links parent), List.map_map]
    rfl

theorem Refused.code_eq {code : String} {failure : ImportFailure}
    (h : Refused ids links code failure) : failure.code = code := by
  cases h <;> rfl

/-- A document that can be read is refused for one of the reasons. -/
theorem Reads.exists_error_iff (h : Reads value nodes links) :
    (∃ fault, ofJson value = .error fault) ↔
      ∃ code failure, Refused (nodes.map (·.id)) links code failure := by
  simp only [h.ofJson_eq, mapError_eq_error_iff, build_eq_error_iff]
  constructor
  · rintro ⟨fault, failure, ⟨code, hrefused⟩, -⟩
    exact ⟨code, failure, hrefused⟩
  · rintro ⟨code, failure, hrefused⟩
    exact ⟨refused failure, failure, ⟨code, hrefused⟩, rfl⟩

/-- A refusal names ids of the nodes and links. -/
theorem Refused.isWritable {code : String} {failure : ImportFailure}
    (h : Refused ids links code failure) (hids : ∀ id ∈ ids, Text.isWritable id = true)
    (hlinks : ∀ link ∈ links,
      Text.isWritable link.source = true ∧ Text.isWritable link.target = true) :
    ∀ id ∈ failure.ids, Text.isWritable id = true := by
  have hends : ∀ {before after : List Link} {link : Link}, links = before ++ link :: after →
      ∀ id ∈ [link.source, link.target], Text.isWritable id = true := by
    rintro before after link rfl
    simpa using hlinks link (by simp)
  cases h with
  | node hsplit _ _ =>
      subst hsplit
      simpa [ImportFailure.ids] using hids _ (by simp)
  | missing _ hsplit _ _ => exact hends hsplit
  | again _ hsplit _ _ _ => exact hends hsplit

/-- What the refusal of a document names can be written. -/
theorem Reads.refused_eq (h : Reads value nodes links) (hvalue : value.Readable) {code : String}
    {failure : ImportFailure} (hrefused : Refused (nodes.map (·.id)) links code failure) :
    refused failure = .importing failure := by
  obtain ⟨fields, rfl, hnodes, hlinks⟩ := reads_iff.1 h
  have hids : ∀ id ∈ nodes.map (·.id), Text.isWritable id = true :=
    List.forall_mem_map.2 (isWritable_nodesOf hvalue hnodes)
  exact Fault.raised_of_writable (hrefused.isWritable hids (isWritable_linksOf hvalue hlinks))

/-- A node with nothing but an id and a kind. -/
def bareNode (id : ℤ) (kind : NodeKind) : Json :=
  .object [("id", .number (.int id)), ("type", .text kind.text)]

/-- A link without points. -/
def bareLink (source target : ℤ) (order : Option ℤ) : Json :=
  .object [("from", .number (.int source)), ("to", .number (.int target)),
    ("order", (order.map fun n => .number (.int n)).getD .null)]

/-- A document in which the links out of two nodes alternate, with orders that repeat, that are
negative and that are missing. -/
def interleaved : Json :=
  .object [
    ("nodes", .array [bareNode 1 .sequence, bareNode 2 .sequence, bareNode 3 .action,
      bareNode 4 .action, bareNode 5 .action, bareNode 6 .action]),
    ("connections", .array [bareLink 1 3 (some 5), bareLink 2 4 none, bareLink 1 4 none,
      bareLink 1 5 (some (-2)), bareLink 2 6 (some 0), bareLink 1 6 (some 5)])]

/-- The links of this document. -/
def interleavedLinks : List Link :=
  [{ source := 1, target := 3, order := some 5 }, { source := 2, target := 4 },
    { source := 1, target := 4 }, { source := 1, target := 5, order := some (-2) },
    { source := 2, target := 6, order := some 0 }, { source := 1, target := 6, order := some 5 }]

theorem typedNode_bareNode (id : ℤ) (kind : NodeKind) :
    Json.IsRecord TypedNode (bareNode id kind) := by
  have habsent : ∀ {P : Json → Prop} {key : String}, key ∉ ["id", "type"] →
      Json.Holds P key [("id", .number (.int id)), ("type", .text kind.text)] := by
    intro P key hkey value hvalue
    simp only [List.mem_cons, List.not_mem_nil, or_false, not_or] at hkey
    simp [valueAt?, lookup?, Keyed.value?, Keyed.find?, Ne.symm hkey.1, Ne.symm hkey.2] at hvalue
  refine ⟨_, rfl, ⟨_, rfl, id, rfl⟩, ⟨_, rfl, kind, rfl⟩, ?_, ?_, habsent (by decide),
    habsent (by decide), ?_, habsent (by decide)⟩
  · exact fun key hkey => habsent (by revert key; decide)
  · exact fun key hkey => habsent (by revert key; decide)
  · exact fun d _ => habsent (by cases d <;> decide)

theorem typedLink_bareLink (source target : ℤ) (order : Option ℤ) :
    Json.IsRecord TypedLink (bareLink source target order) := by
  refine ⟨_, rfl, ⟨_, rfl, source, rfl⟩, ⟨_, rfl, target, rfl⟩, ?_, ?_⟩
  · intro value hvalue
    cases order with
    | none => cases hvalue
    | some n => exact ⟨n, (Option.some.inj hvalue).symm⟩
  · intro key hkey value hvalue
    simp only [List.mem_cons, List.not_mem_nil, or_false] at hkey
    rcases hkey with rfl | rfl <;> cases hvalue

theorem wellTyped_interleaved : WellTyped interleaved := by
  refine ⟨_, rfl, fun value hvalue => ?_, fun value hvalue => ?_⟩
  · obtain rfl := Option.some.inj hvalue
    exact ⟨_, rfl, by simp [typedNode_bareNode]⟩
  · obtain rfl := Option.some.inj hvalue
    exact ⟨_, rfl, by simp [typedLink_bareLink]⟩

theorem readable_bareNode {id : ℤ} (h : Text.isWritable id = true) (kind : NodeKind) :
    (bareNode id kind).Readable :=
  ⟨(by decide : ["id", "type"].Nodup), h, trivial, trivial⟩

theorem readable_bareLink {source target : ℤ} (hsource : Text.isWritable source = true)
    (htarget : Text.isWritable target = true) : (bareLink source target none).Readable :=
  ⟨(by decide : ["from", "to", "order"].Nodup), hsource, htarget, trivial, trivial⟩

/-- A document with an id that comes again. -/
def repeated : Json := .object [("nodes", .array [bareNode 1 .wait, bareNode 1 .wait])]

theorem parse_repeated (half : Char) :
    Json.parse half (repeated.render none) = .ok repeated := by
  have hone : Text.isWritable 1 = true := by decide
  have hnode := readable_bareNode hone .wait
  have hreadable : repeated.Readable := ⟨by decide, ⟨hnode, hnode, trivial⟩, trivial⟩
  exact Json.parse_render hreadable none

end Graph
end BehaviorTree
