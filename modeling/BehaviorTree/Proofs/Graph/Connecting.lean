import BehaviorTree.Proofs.Graph.Unbroken

/-! # Connecting two ids

Whether a connection is accepted is decided by rules about the nodes at its ends and about the paths
between them (`Admits`), on graphs that were imported with cycles too.  The way back from the target
is looked for by a search that comes to each id once (`nodup_preorder`) and to all that a path leads
to.  What is accepted comes behind the other connections as the last child of its source and lies on
no cycle; what is refused leaves the graph alone (`connect_iff`). -/

namespace BehaviorTree

open Relation (ReflTransGen TransGen)

namespace Graph

variable {g : Graph} {a b : Int} {fromPoint toPoint : String}

/-- The graph with a connection behind the others. -/
def joined (g : Graph) (a b : Int) (fromPoint toPoint : String) : Graph :=
  { g with connections := g.connections ++ [⟨a, b, g.childCount a, fromPoint, toPoint⟩] }

theorem edge_joined {u v : Int} (h : (g.joined a b fromPoint toPoint).Edge u v) :
    g.Edge u v ∨ (u = a ∧ v = b) := by
  obtain ⟨c, hc, rfl, rfl⟩ := h
  rcases List.mem_append.1 hc with hc | hc
  · exact Or.inl ⟨c, hc, rfl, rfl⟩
  · rw [List.mem_singleton.1 hc]
    exact Or.inr ⟨rfl, rfl⟩

/-- A new connection makes no way back from its target to its source. -/
theorem noWayBack_joined (h : ¬ ReflTransGen g.Edge b a) :
    ¬ ReflTransGen (g.joined a b fromPoint toPoint).Edge b a := by
  intro hback
  rcases hback.cases_head with rfl | ⟨next, hfirst, hrest⟩
  · exact h .refl
  · rcases path_insert (fun _ _ => edge_joined) (TransGen.head' hfirst hrest) with hold | ⟨hold, -⟩
    · exact h hold.to_reflTransGen
    · exact h hold

theorem connect_of_admitted (h : g.checkConnect a b = none) :
    g.connect a b fromPoint toPoint =
      (.accepted ⟨a, b, g.childCount a, fromPoint, toPoint⟩, g.joined a b fromPoint toPoint) := by
  rw [connect, h]
  rfl

theorem carryOut_connect_of_admitted (h : g.checkConnect a b = none) (fromPoint toPoint : String) :
    (Operation.connect a b fromPoint toPoint).carryOut g =
      (.ok (.connected (.accepted ⟨a, b, g.childCount a, fromPoint, toPoint⟩)),
        g.joined a b fromPoint toPoint) := by
  rw [Operation.carryOut, connect_of_admitted h]

/-- A connection that nothing speaks against is accepted where its ids and its place can be
written. -/
theorem Loggable.apply_connect (hl : g.Loggable) (hw : g.WellFormed) (h : g.checkConnect a b = none)
    (fromPoint toPoint : String) :
    (Operation.connect a b fromPoint toPoint).apply g =
      (.ok (.connected (.accepted ⟨a, b, g.childCount a, fromPoint, toPoint⟩)),
        g.joined a b fromPoint toPoint) :=
  hl.apply_eq hw (carryOut_connect_of_admitted h fromPoint toPoint) not_false rfl

/-- A connection that is refused is not accepted, and the graph is the one before. -/
theorem apply_connect_of_refused (h : g.checkConnect a b ≠ none) (fromPoint toPoint : String) :
    ((Operation.connect a b fromPoint toPoint).apply g).2 = g ∧
      ∀ c, ((Operation.connect a b fromPoint toPoint).apply g).1 ≠
        .ok (.connected (.accepted c)) := by
  obtain ⟨rejection, hrejection⟩ := Option.ne_none_iff_exists'.1 h
  have hcarried : (Operation.connect a b fromPoint toPoint).carryOut g =
      (.ok (.connected (.rejected rejection.error)), g) := by
    rw [Operation.carryOut, connect_rejected hrejection]
  obtain ⟨hsame, hanswer⟩ := apply_of_carryOut hcarried
  refine ⟨hsame, fun c hc => ?_⟩
  cases hanswer _ hc

/-- Two ids are those of nodes that the rules admit as ends of a connection. -/
def AdmitsIds (g : Graph) (a b : Int) : Prop :=
  ∃ source ∈ g.nodes, ∃ target ∈ g.nodes, source.id = a ∧ target.id = b ∧ g.Admits source target

/-- On distinct ids, a check looks at the nodes that have the two ids. -/
theorem WellFormed.checkConnect_eq_none_iff (h : g.WellFormed) (a b : Int) :
    g.checkConnect a b = none ↔ g.AdmitsIds a b := by
  rw [checkConnect_eq_none_iff_admits]
  constructor
  · rintro ⟨source, target, hsource, htarget, hadmits⟩
    obtain ⟨hsource, hida⟩ := mem_of_find? hsource
    obtain ⟨htarget, hidb⟩ := mem_of_find? htarget
    exact ⟨source, hsource, target, htarget, hida, hidb, hadmits⟩
  · rintro ⟨source, hsource, target, htarget, rfl, rfl, hadmits⟩
    exact ⟨source, target, h.find?_of_mem hsource, h.find?_of_mem htarget, hadmits⟩

end Graph

open BehaviorTree.Graph

/-- Two sequences in a circle, and an action beside them. -/
def circle : Json :=
  .object [("nodes", .array [bareNode 1 .sequence, bareNode 2 .sequence, bareNode 3 .action]),
    ("connections", .array [bareLink 1 2 none, bareLink 2 1 none])]

/-- The graph of this document. -/
def circleGraph : Graph where
  nodes := [{ id := 1, kind := .sequence }, { id := 2, kind := .sequence },
    { id := 3, kind := .action }]
  connections := [{ source := 1, target := 2 }, { source := 2, target := 1 }]
  nextId := 4

theorem graph_after_circle : (Run.after [.load circle]).graph = circleGraph := by
  have hread : ofJson circle = .ok circleGraph := by decide
  exact Call.result_load_of_ok {} hread

theorem parse_circle (half : Char) : Json.parse half (circle.render none) = .ok circle := by
  obtain ⟨hone, htwo, hthree⟩ : Text.isWritable 1 = true ∧ Text.isWritable 2 = true ∧
    Text.isWritable 3 = true := by decide
  have hreadable : circle.Readable :=
    ⟨by decide, ⟨readable_bareNode hone _, readable_bareNode htwo _, readable_bareNode hthree _,
      trivial⟩, ⟨readable_bareLink hone htwo, readable_bareLink htwo hone, trivial⟩, trivial⟩
  exact Json.parse_render hreadable none

theorem admitsIds_circleGraph : circleGraph.AdmitsIds 2 3 := by
  refine ⟨_, .tail _ (.head _), _, .tail _ (.tail _ (.head _)), rfl, rfl, by decide, ?_, by decide,
    by decide, by decide, fun hboard => absurd hboard (by decide), fun hback => ?_⟩
  · rintro ⟨c, hc, hends⟩
    revert c
    decide
  · rcases hback.cases_head with heq | ⟨next, ⟨c, hc, hsource, -⟩, -⟩
    · exact absurd heq (by decide)
    · revert c
      decide

end BehaviorTree
