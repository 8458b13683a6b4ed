import BehaviorTree.Graph.Basic

/-!
# Building a graph from a document

A document lists nodes and links. The links may come with orders that have gaps, repeat or are
missing; a missing order is the link's place among the links of its parent. The graph numbers the
children of each parent from zero on, stably by order, and keeps the list order of the links.

A repeated id, a link to a missing node and a repeated link are import failures.
-/

namespace BehaviorTree

/-- A connection as a document declares it. -/
structure Link where
  source : Int
  target : Int
  order : Option Int := none
  fromPoint : String := "right"
  toPoint : String := "left"
  deriving DecidableEq, Repr

namespace Link

/-- The declared orders of links, with missing ones filled in. `earlier` holds the links before. -/
def placed (earlier : List Link) : List Link → List (Link × Int)
  | [] => []
  | link :: rest =>
    let place := earlier.countP fun other => other.source = link.source
    (link, link.order.getD place) :: placed (link :: earlier) rest

/-- How many siblings come before a link: those before it in the list with no greater order, and
those behind it with a smaller one. -/
def rank (earlier later : List (Link × Int)) (link : Link × Int) : Nat :=
  (earlier.countP fun other => other.1.source = link.1.source && other.2 ≤ link.2)
    + later.countP fun other => other.1.source = link.1.source && other.2 < link.2

/-- The connection of a link at a place among its siblings. -/
def connection (link : Link) (order : Nat) : Connection :=
  ⟨link.source, link.target, order, link.fromPoint, link.toPoint⟩

/-- The connections of links with known orders, in list order. `earlier` holds the links before. -/
def ranked (earlier : List (Link × Int)) : List (Link × Int) → List Connection
  | [] => []
  | link :: rest => link.1.connection (rank earlier rest link) :: ranked (link :: earlier) rest

/-- The connections of the links of a document. -/
def connections (links : List Link) : List Connection := ranked [] (placed [] links)

end Link

namespace Graph

/-- The first id that occurs a second time. -/
def repeatedId? (seen : List Int) : List Int → Option Int
  | [] => none
  | id :: rest => if id ∈ seen then some id else repeatedId? (id :: seen) rest

/-- The fault of the first link that joins no two nodes or joins two nodes again. -/
def linkFailure? (ids : List Int) (seen : List (Int × Int)) : List Link → Option ImportFailure
  | [] => none
  | link :: rest =>
    if link.source ∉ ids ∨ link.target ∉ ids then
      some (.danglingConnection link.source link.target)
    else if (link.source, link.target) ∈ seen then
      some (.duplicateConnection link.source link.target)
    else linkFailure? ids ((link.source, link.target) :: seen) rest

/-- One more than the greatest of some ids, and at least one if there are none. -/
def idAfter : List Int → Int
  | [] => 1
  | id :: rest => rest.foldl max id + 1

/-- The graph of a document. -/
def build (nodes : List Node) (links : List Link) : Except ImportFailure Graph :=
  let ids := nodes.map (·.id)
  match repeatedId? [] ids with
  | some id => .error (.duplicateNode id)
  | none =>
    match linkFailure? ids [] links with
    | some failure => .error failure
    | none => .ok ⟨nodes, Link.connections links, idAfter ids⟩

end Graph
end BehaviorTree
