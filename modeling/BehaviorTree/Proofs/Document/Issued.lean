import BehaviorTree.Proofs.Document.Loaded
import BehaviorTree.Proofs.Document.Parsed
import BehaviorTree.Proofs.Graph.Declared

/-! # Documents in circulation

A document is either made of a graph under edit or read of a text, of bytes or of a value
(`Issued`).  Either way its timestamps are readings of a clock and its graph can be built.  So if
its coordinates are finite, its integers can be written out at all and its texts consist of
characters, it is printed, and what is read of its text, in any layout, has the same timestamps and
loads the same graph, with the nodes and connections that the document holds (`parse_render_issued`).

A text with half a surrogate pair is read, but it is not printed again
(`not_render_halfDocument`). -/

namespace BehaviorTree.Document

open BehaviorTree.Text

variable {lib : Library} {half : Char} {d : Document}

/-- The integers of a document. -/
def integers (d : Document) : List ℤ :=
  d.nodes.map (·.id) ++ d.connections.flatMap fun entry =>
    entry.source :: entry.target :: entry.order.toList

/-- How a document comes about, with a library and a character for halves of surrogate pairs. -/
inductive Issued (lib : Library) (half : Char) : Document → Prop where
  /-- It is made of a graph that a run has reached, with readings of a clock. -/
  | made (calls : List Call) {created modified : Timestamp} (hcreated : created.Valid)
      (hmodified : modified.Valid) :
      Issued lib half (ofGraph (Run.after calls).graph created modified)
  /-- It is read of a text. -/
  | ofText {s : String} {d : Document} (h : lib.parse half s = .ok d) : Issued lib half d
  /-- It is read of bytes. -/
  | ofBytes {bytes : List UInt8} {d : Document} (h : lib.parseBytes half bytes = .ok d) :
      Issued lib half d
  /-- It is read of a value that was read before. -/
  | ofValue {value : Json} {d : Document} (h : lib.read value = .ok d) : Issued lib half d

/-- The timestamps of a document are readings of a clock, and its graph can be built. -/
structure Dated (d : Document) : Prop where
  created : ∀ t ∈ d.created, t.Valid
  modified : ∀ t ∈ d.modified, t.Valid
  graph : ∃ g, d.toGraph = .ok g

section library

variable (hlib : lib.Reads)

include hlib

/-! ### What is read of a value -/

theorem valid_of_ofFields {fields : List (String × Json)} (h : ofFields lib fields = .ok d) :
    (∀ t ∈ d.created, t.Valid) ∧ ∀ t ∈ d.modified, t.Valid := by
  obtain ⟨nodes, -, h⟩ := bind_eq_ok_iff.1 h
  obtain ⟨connections, -, h⟩ := bind_eq_ok_iff.1 h
  obtain ⟨version, -, h⟩ := bind_eq_ok_iff.1 h
  obtain ⟨created, hcreated, h⟩ := bind_eq_ok_iff.1 h
  obtain ⟨modified, hmodified, h⟩ := bind_eq_ok_iff.1 h
  obtain rfl := Except.ok.inj h
  exact ⟨valid_of_timestamp hlib hcreated, valid_of_timestamp hlib hmodified⟩

/-- A document that is read of a value is dated, however long its integers are. -/
theorem dated_of_document {value : Json} (h : lib.document value = .ok d) : d.Dated := by
  obtain ⟨fields, -, hfields⟩ := exists_of_document_eq_ok h
  obtain ⟨hcreated, hmodified⟩ := valid_of_ofFields hlib hfields
  exact ⟨hcreated, hmodified, exists_toGraph_of_document h⟩

/-! ### Issued documents -/

/-- **An issued document has valid timestamps, and its graph can be built.** -/
theorem Issued.dated (h : d.Issued lib half) : d.Dated := by
  cases h with
  | made calls hcreated hmodified =>
      have hwell := (Run.holds_wellFormed calls).1
      refine ⟨fun t ht => ?_, fun t ht => ?_, _, toGraph_ofGraph hwell _ _⟩
      · obtain rfl := Option.some.inj ht
        exact hcreated
      · obtain rfl := Option.some.inj ht
        exact hmodified
  | ofText h =>
      obtain ⟨value, -, hd⟩ := Library.parse_eq_ok_iff.1 h
      exact dated_of_document hlib hd
  | ofBytes h =>
      obtain ⟨cs, -, value, -, hd⟩ := Library.parseBytes_eq_ok_iff.1 h
      exact dated_of_document hlib hd
  | ofValue h => exact dated_of_document hlib (Library.read_eq_ok_iff.1 h)

/-- An issued document whose integers can be written out can be written. -/
theorem Issued.writable (h : d.Issued lib half)
    (hshort : ∀ n ∈ d.integers, (Nat.toDigits 10 n.natAbs).length ≤ 4300) : d.Writable := by
  have hwritable : ∀ n ∈ d.integers, isWritable n = true :=
    fun n hn => (isWritable_iff n).2 (hshort n hn)
  have hdated := h.dated hlib
  refine ⟨fun entry hentry => ?_, fun entry hentry => ?_, hdated.created, hdated.modified⟩
  · exact hwritable _ (List.mem_append_left _ (List.mem_map_of_mem hentry))
  · have hlink : ∀ n ∈ entry.source :: entry.target :: entry.order.toList, isWritable n = true :=
      fun n hn => hwritable n (List.mem_append_right _ (List.mem_flatMap.2 ⟨entry, hentry, hn⟩))
    refine ⟨hlink _ (by simp), hlink _ (by simp), fun n hn => hlink n ?_⟩
    simp [Option.mem_def.1 hn]

end library

/-- **The text of a document is read again**, be it compact or indented: what is read has the same
timestamps, and it loads the same graph as the document itself, which is the graph of the nodes and
connections of the document. -/
theorem parse_render_issued (hreads : lib.Reads) (hprints : lib.Prints half)
    (h : d.Issued lib half) (hfinite : d.Finite)
    (hshort : ∀ n ∈ d.integers, (Nat.toDigits 10 n.natAbs).length ≤ 4300)
    (hhalf : (d.value lib.time).holds half = false) (indent : Option ℕ) :
    ∃ text d' g, lib.render d indent = .ok text ∧ lib.parse half text = .ok d' ∧
      d'.created = d.created ∧ d'.modified = d.modified ∧
      Graph.ofJson (.object d'.graphFields) = .ok g ∧
      Graph.ofJson (.object d.graphFields) = .ok g ∧
      Graph.Declared (d.nodes.map NodeEntry.node) (d.connections.map LinkEntry.link) g := by
  obtain ⟨g, hg⟩ := (h.dated hreads).graph
  have hwritable := h.writable hreads hshort
  obtain ⟨text, htext, hvalue⟩ := hprints _ indent (hwritable.short.readable lib.time) hhalf
  have hload : Graph.ofJson (.object d.graphFields) = .ok g := by
    rw [Graph.ofJson_graphFields, hg]
    rfl
  have hreload : Graph.ofJson (.object d.reread.graphFields) = .ok g := by
    rw [Graph.ofJson_graphFields, d.toGraph_reread, hg]
    rfl
  have hread : lib.parse half text = .ok d.reread :=
    Library.parse_eq_ok_iff.2 ⟨_, hvalue, document_printed hreads hwritable hfinite hg⟩
  exact ⟨text, d.reread, g, htext, hread, rfl, rfl, hreload, hload, Graph.declared_of_build hg⟩

/-- A text of a document with an alias, a quoted id, a coordinate in tenths and a timestamp with an
offset and a fraction. -/
def issuedText : String :=
  "\x7b\"nodes\": [\x7b\"id\": \"7\", \"type\": \"ACTION\", \"name\": \"\\u00e9\\n\", \"x\": 0.1,
    \"params\": [\x7b\x7d]\x7d, \x7b\"id\": 2, \"type\": \"SEQUENCE\", \"y\": -0.0\x7d],
    \"connections\": [\x7b\"from_id\": 2, \"to\": 7\x7d],
    \"createdAt\": \"2024-02-29T12:00:00.25+05:30\"\x7d"

/-- The document of the text. -/
def issuedDocument : Document where
  nodes := [
    { id := 7, kind := .action, name := some "é\n", x := 0.1, params := some [{}] },
    { id := 2, kind := .sequence, y := -0.0 }]
  connections := [{ source := 2, target := 7 }]
  created := some ⟨1709208000250000, some 330⟩

theorem parse_of_chars {s : String} {cs : List Char} (hs : s = String.ofList cs)
    (hmark : cs.head? ≠ some '\ufeff')
    (h : ((Json.parseChars Json.privateHalf cs).toOption.bind fun value =>
      ((Library.standard Json.privateHalf).document value).toOption) = some d) :
    parse s = .ok d := by
  obtain ⟨value, hvalue, hd⟩ := Option.bind_eq_some_iff.1 h
  refine Library.parse_eq_ok_iff.2 ⟨value, ?_, toOption_eq_some_iff.1 hd⟩
  rw [hs, Json.parse_ofList _ hmark, toOption_eq_some_iff.1 hvalue]

set_option maxRecDepth 2000 in
theorem parse_issuedText : parse issuedText = .ok issuedDocument :=
  parse_of_chars rfl (by decide) (by decide +kernel)

theorem parse_render_issued_issuedDocument :
    issuedDocument.Issued (.standard Json.privateHalf) Json.privateHalf ∧
      ∃ text d' g, (Library.standard Json.privateHalf).render issuedDocument (some 2) = .ok text ∧
        parse text = .ok d' ∧
        d'.created = issuedDocument.created ∧ d'.modified = issuedDocument.modified ∧
        Graph.ofJson (.object d'.graphFields) = .ok g ∧
        Graph.ofJson (.object issuedDocument.graphFields) = .ok g ∧
        Graph.Declared (issuedDocument.nodes.map NodeEntry.node)
          (issuedDocument.connections.map LinkEntry.link) g := by
  have hissued : issuedDocument.Issued (.standard Json.privateHalf) Json.privateHalf :=
    .ofText parse_issuedText
  refine ⟨hissued, parse_render_issued (Library.reads_standard _) (Library.prints_standard _) hissued
    ?_ (by decide) (by decide +kernel) (some 2)⟩
  unfold Finite
  decide +kernel

/-! ### Halves of surrogate pairs -/

/-- A document with half a surrogate pair in a text. -/
def halfText : String := "\x7b\"version\": \"\\ud800\"\x7d"

/-- The document of the text. -/
def halfDocument : Document where
  version := String.singleton Json.privateHalf

/-- **It is read, and cannot be printed.** -/
theorem not_render_halfDocument :
    halfDocument.Issued (.standard Json.privateHalf) Json.privateHalf ∧ halfDocument.Finite ∧
      (∀ n ∈ halfDocument.integers, (Nat.toDigits 10 n.natAbs).length ≤ 4300) ∧
      ∀ indent, (Library.standard Json.privateHalf).render halfDocument indent =
        .error .unencodableText := by
  have hread : parse halfText = .ok halfDocument :=
    parse_of_chars rfl (by decide) (by decide +kernel)
  have hhalf : (halfDocument.value Timestamp.document).holds Json.privateHalf = true := by
    decide +kernel
  exact ⟨.ofText hread, fun _ hentry => absurd hentry List.not_mem_nil, by decide,
    Library.print_standard_of_holds hhalf⟩

end BehaviorTree.Document
