import BehaviorTree.Proofs.Session.Visited
import BehaviorTree.Proofs.Validation

/-! # Importing a document

An import cancels the edit that waits, loads the graph, validates and saves it, and starts the
history anew.  Two of these steps may fail.  Validating reads repeat and retry counts as integers, and
refuses those with too many digits.  Saving prints the document, and a library prints no text with
half a surrogate pair, though it reads one.  By then the graph has been replaced.

So an import is all or nothing exactly if the graph of the document passes its validation and, in a
session with a slot, has finite coordinates and no half of a surrogate pair; or if what has been
replaced is what was there before (`importsWhole_iff`).  This is so with every library that reads and
prints single values as the laws say. -/

namespace BehaviorTree.Session

open BehaviorTree.Graph

variable {Time : Type} {s s' : Session Time} {m : Moment Time} {lib : Library} {half : Char}

/-- What a document is imported from. -/
inductive Source where
  | text (text : String)
  | bytes (bytes : List UInt8)

/-- The document that is read of a source with a library. -/
def Source.read (lib : Library) (half : Char) : Source → Except Fault Document
  | .text content => lib.parse half content
  | .bytes content => lib.parseBytes half content

section statement

variable (lib : Library) (half : Char)

/-- A session in which everything describes a graph that has been imported: the report is that of
the graph, the history has one entry, and the text of the slot is read as a document of it. -/
structure Imported (s s' : Session Time) (g : Graph) : Prop where
  graph : s'.graph = g
  report : g.validate true = .ok s'.report
  entries : s'.history.entries = [⟨"Import", g⟩]
  index : s'.history.index = 0
  slotName : s'.slotName = s.slotName
  slot : ∀ name ∈ s.slotName, ∃ slots slot d, s'.slots = some slots ∧
    slots.find? name = some slot ∧ lib.parse half slot.payload = .ok d ∧ d.toGraph = .ok g

/-- A session that has the graph, the report, the history, the waiting edit and the slots of
another. -/
structure Untouched (s s' : Session Time) : Prop where
  graph : s'.graph = s.graph
  report : s'.report = s.report
  history : s'.history = s.history
  debouncer : s'.debouncer = s.debouncer
  slots : s'.slots = s.slots
  slotName : s'.slotName = s.slotName

/-- An import is all or nothing: either it answers, and everything describes the document; or it
fails, and everything is as it was. -/
structure ImportsWhole (s : Session Time) (m : Moment Time) (read : Except Fault Document) :
    Prop where
  imported : ∀ s', s.run (importBy lib m read) = (.ok (), s') →
    ∃ d g, read = .ok d ∧ d.toGraph = .ok g ∧ Imported lib half s s' g
  untouched : ∀ fault s', s.run (importBy lib m read) = (.error fault, s') → s.Untouched s'

/-- The document of a session that has imported one. -/
def importedDocument (m : Moment Time) (d : Document) (g : Graph) : Document :=
  .ofGraph g (d.created.getD m.now) m.now

/-- If there is a slot for a document that is imported, it has no half of a surrogate pair. -/
def Printable (s : Session Time) (m : Moment Time) (d : Document) (g : Graph) : Prop :=
  ∀ name ∈ s.slotName, ((importedDocument m d g).value lib.time).holds half = false

end statement

/-- A graph can be loaded into a session and validated: the sizes that are logged can be written,
and the counts of its nodes read. -/
structure Accepted (g : Graph) : Prop where
  sizes : (loggedSizes g).all Text.isWritable = true
  counts : ∀ node ∈ g.nodes, Validation.Countable node

theorem accepted_iff {g : Graph} : Accepted g ↔
    (loggedSizes g).all Text.isWritable = true ∧ ∃ report, g.validate true = .ok report := by
  rw [exists_validate_iff]
  exact ⟨fun h => ⟨h.sizes, h.counts⟩, fun h => ⟨h.1, h.2⟩⟩

/-! ### Saving -/

section saving

variable (s : Session Time) (text : String)

@[simp] theorem persistedAs_graph : (s.persistedAs text).graph = s.graph := by
  unfold persistedAs
  split <;> rfl

@[simp] theorem persistedAs_report : (s.persistedAs text).report = s.report := by
  unfold persistedAs
  split <;> rfl

@[simp] theorem persistedAs_slotName : (s.persistedAs text).slotName = s.slotName := by
  unfold persistedAs
  split <;> rfl

variable {s text}

/-- The slot of a session that has been saved has the text it was saved as. -/
theorem Bound.find?_persistedAs (hb : s.Bound) {name : String} (hname : name ∈ s.slotName)
    (text : String) : ∃ slots slot, (s.persistedAs text).slots = some slots ∧
      slots.find? name = some slot ∧ slot.payload = text := by
  obtain ⟨slots, hslots⟩ := Option.isSome_iff_exists.1 (hb name hname).1
  have hpersisted : (s.persistedAs text).slots =
      some (slots.put (slots.savedAs name s.document text)) := by
    rw [persistedAs, hslots, Option.mem_def.1 hname]
  exact ⟨_, slots.savedAs name s.document text, hpersisted, Slots.find?_put_self _, rfl⟩

end saving

/-- The text of a document of a graph that was read is read as that graph exactly if the coordinates
of the graph are finite. -/
theorem exists_parse_iff_finite (hreads : lib.Reads) {g : Graph} (hg : g.Editable)
    (hkept : g.kept = g) {created modified : Timestamp} (hcreated : created.Valid)
    (hmodified : modified.Valid) {text : String} (hvalue : Json.parse half text =
      .ok ((Document.ofGraph g created modified).value lib.time).printed) :
    (∃ d, lib.parse half text = .ok d ∧ d.toGraph = .ok g) ↔ g.Finite := by
  have hgraph : (Document.ofGraph g created modified).toGraph = .ok g :=
    (toGraph_ofGraph hg.wellFormed created modified).trans (congrArg Except.ok hkept)
  rw [← Document.finite_iff hgraph]
  constructor
  · rintro ⟨d, hd, -⟩
    obtain ⟨value, hvalue', hread⟩ := Library.parse_eq_ok_iff.1 hd
    obtain rfl := Except.ok.inj (hvalue.symm.trans hvalue')
    exact Document.finite_of_ofFields_printed hreads (Document.ofFields_of_document_printed hread)
  · intro hfinite
    have hread := Document.document_printed hreads (hg.writable_ofGraph hcreated hmodified) hfinite
      hgraph
    exact ⟨_, Library.parse_eq_ok_iff.2 ⟨_, hvalue, hread⟩,
      (Document.toGraph_reread _).trans hgraph⟩

/-! ### What an import leaves -/

/-- A session whose graph has been replaced, but nothing else of what describes it. -/
def replaced (s : Session Time) (g : Graph) (created : Timestamp) : Session Time :=
  { s with debouncer := s.debouncer.cancel, graph := g, created := created }

/-- A session that has a new report, but has not been saved. -/
def validated (s : Session Time) (m : Moment Time) (report : Report) : Session Time :=
  { s with report := report, modified := m.now }

/-- A session in which everything has been brought into line with its graph, and that has been saved
as a text. -/
def described (s : Session Time) (m : Moment Time) (report : Report) (text : String) :
    Session Time :=
  ((s.validated m report).persistedAs text).restarted "Import"

/-- What follows a change validates the graph and saves it, or fails with the validation. -/
theorem run_afterChangeBy (s : Session Time) (m : Moment Time) :
    s.run (afterChangeBy lib m) = match s.graph.validate true with
      | .ok report => (s.validated m report).run (persistBy lib)
      | .error fault => (.error fault, s) := by
  have hrevalidate : s.run revalidate = match s.graph.validate true with
      | .ok report => (.ok (), { s with report := report })
      | .error fault => (.error fault, s) := by
    rw [revalidate, run_bind]
    change s.run (liftM (s.graph.validate true) >>= fun _ => _) = _
    rw [run_bind]
    cases s.graph.validate true <;> rfl
  rw [afterChangeBy, run_bind, hrevalidate]
  cases s.graph.validate true <;> rfl

/-- **What an import does**: it replaces the graph, and brings everything else into line with it. -/
theorem run_importBy (lib : Library) (s : Session Time) (m : Moment Time) {d : Document}
    {g : Graph} (hg : d.toGraph = .ok g) : s.run (importBy lib m (.ok d)) =
      if (loggedSizes g).all Text.isWritable then
        (s.replaced g (d.created.getD m.now)).run
          (afterChangeBy lib m >>= fun _ => restartHistory "Import")
      else (.error .integerTooLong, s.replaced g s.created) := by
  have hload : ∀ t : Session Time, t.run (load d) =
      (if (loggedSizes g).all Text.isWritable then .ok () else .error .integerTooLong,
        { t with graph := g }) := by
    intro t
    rw [load, hg]
    change t.run (modify _ >>= fun _ => _) = _
    rw [run_bind]
    change run { t with graph := g } _ = _
    split_ifs <;> rfl
  rw [importBy, run_bind]
  change s.run (modify _ >>= fun _ => _) = _
  rw [run_bind]
  change run { s with debouncer := s.debouncer.cancel } (load d >>= fun _ => _) = _
  rw [run_bind, hload]
  split_ifs <;> rfl

section accepted

variable {d : Document} {g : Graph} (hg : d.toGraph = .ok g)
  (hsizes : (loggedSizes g).all Text.isWritable = true)

include hg hsizes

/-- An import that fails with the validation leaves the graph replaced. -/
theorem run_importBy_of_not_validated {fault : Fault} (hvalidate : g.validate true = .error fault) :
    s.run (importBy lib m (.ok d)) = (.error fault, s.replaced g (d.created.getD m.now)) := by
  have hgraph : (s.replaced g (d.created.getD m.now)).graph.validate true = .error fault :=
    hvalidate
  rw [run_importBy lib s m hg, if_pos hsizes, run_bind, run_afterChangeBy, hgraph]

variable {report : Report} (hreport : g.validate true = .ok report) (hb : s.Bound)

include hreport hb

/-- An import that fails with the saving leaves the graph and its report replaced. -/
theorem run_importBy_of_not_printed {fault : Fault} {name : String} (hname : name ∈ s.slotName)
    (hrender : lib.render (importedDocument m d g) none = .error fault) :
    s.run (importBy lib m (.ok d)) =
      (.error fault, (s.replaced g (d.created.getD m.now)).validated m report) := by
  have hgraph : (s.replaced g (d.created.getD m.now)).graph.validate true = .ok report := hreport
  have hbound : ((s.replaced g (d.created.getD m.now)).validated m report).Bound := hb
  rw [run_importBy lib s m hg, if_pos hsizes, run_bind, run_afterChangeBy, hgraph]
  dsimp only
  rw [run_persistBy_of_error hbound hname hrender]

/-- An import that answers has brought everything into line with the graph. -/
theorem run_importBy_of_printed {text : String}
    (hrender : ∀ name ∈ s.slotName, lib.render (importedDocument m d g) none = .ok text) :
    s.run (importBy lib m (.ok d)) =
      (.ok (), (s.replaced g (d.created.getD m.now)).described m report text) := by
  have hgraph : (s.replaced g (d.created.getD m.now)).graph.validate true = .ok report := hreport
  have hbound : ((s.replaced g (d.created.getD m.now)).validated m report).Bound := hb
  rw [run_importBy lib s m hg, if_pos hsizes, run_bind, run_afterChangeBy, hgraph]
  dsimp only
  rw [run_persistBy_of_ok hbound hrender]
  rfl

end accepted

/-- An import that answers describes the document if its slot is read as the graph. -/
theorem imported_described_iff (hb : s.Bound) {g : Graph} {created : Timestamp} {report : Report}
    (hreport : g.validate true = .ok report) {text : String} :
    Imported lib half s ((s.replaced g created).described m report text) g ↔
      ∀ name ∈ s.slotName, ∃ d, lib.parse half text = .ok d ∧ d.toGraph = .ok g := by
  let t : Session Time := (s.replaced g created).validated m report
  have ht : t.Bound := hb
  constructor
  · intro himported name hname
    obtain ⟨slots, slot, d, hslots, hslot, hparse, hd⟩ := himported.slot name hname
    obtain ⟨slots', slot', hslots', hslot', hpayload⟩ := ht.find?_persistedAs hname text
    obtain rfl : slots' = slots := Option.some.inj (hslots'.symm.trans hslots)
    obtain rfl : slot' = slot := Option.some.inj (hslot'.symm.trans hslot)
    exact ⟨d, hpayload ▸ hparse, hd⟩
  · intro hread
    have hentries : (described (s.replaced g created) m report text).history.entries =
        [⟨"Import", (t.persistedAs text).graph⟩] := History.entries_record_reset _ _
    rw [t.persistedAs_graph] at hentries
    refine ⟨t.persistedAs_graph text, ?_, hentries, ?_, t.persistedAs_slotName text,
      fun name hname => ?_⟩
    · rw [hreport]
      exact congrArg Except.ok (t.persistedAs_report text).symm
    · exact (History.index_record _ _).trans (by rw [History.entries_record_reset]; rfl)
    · obtain ⟨slots, slot, hslots, hslot, hpayload⟩ := ht.find?_persistedAs hname text
      obtain ⟨d, hparse, hd⟩ := hread name hname
      exact ⟨slots, slot, d, hslots, hslot, hpayload ▸ hparse, hd⟩

/-- An import that fails after it has replaced the graph leaves a session untouched only if it has
replaced the graph by itself, and no edit waited. -/
theorem untouched_replaced_iff {g : Graph} (created : Timestamp) :
    s.Untouched (s.replaced g created) ↔ g = s.graph ∧ s.debouncer.pending = none := by
  constructor
  · intro h
    exact ⟨h.graph, (congrArg Debouncer.pending h.debouncer).symm⟩
  · rintro ⟨hgraph, hpending⟩
    refine ⟨hgraph, rfl, rfl, ?_, rfl, rfl⟩
    change s.debouncer.cancel = s.debouncer
    rw [Debouncer.cancel, ← hpending]

/-- If it has replaced the report too, this has to be the one that was there. -/
theorem untouched_validated_iff {g : Graph} {created : Timestamp} {report : Report} :
    s.Untouched ((s.replaced g created).validated m report) ↔
      g = s.graph ∧ s.debouncer.pending = none ∧ report = s.report := by
  rw [← and_assoc, ← untouched_replaced_iff created]
  exact ⟨fun h => ⟨⟨h.graph, rfl, h.history, h.debouncer, h.slots, h.slotName⟩, h.report⟩,
    fun h => ⟨h.1.graph, h.2, h.1.history, h.1.debouncer, h.1.slots, h.1.slotName⟩⟩

/-! ### Repeat counts of many digits -/

/-- A document with one decorator, whose repeat count has some digits. -/
def repeating (digits : ℕ) : Document where
  nodes := [⟨1, .decorator, some "", 0.0, 0.0, none, none, none, none, none,
    some (String.ofList (List.replicate digits '9')), none, none, none, none, none, none⟩]

/-- The text of a document whose repeat count has some digits. -/
def repeatingText (digits : ℕ) : String := (repeating digits).render none

/-- The text is read, whatever the number of digits. -/
theorem read_repeatingText (digits : ℕ) :
    (Source.text (repeatingText digits)).read (.standard Json.privateHalf) Json.privateHalf =
        .ok (repeating digits).reread ∧
      (repeating digits).reread.toGraph =
        .ok ⟨(repeating digits).nodes.map NodeEntry.node, [], 2⟩ := by
  have hw : (repeating digits).Writable := by
    refine ⟨?_, nofun, nofun, nofun⟩
    rintro entry (_ | ⟨_, ⟨⟩⟩)
    exact (by decide : Text.isWritable 1 = true)
  have hfinite : (repeating digits).Finite := by
    have hzero : (0.0 : Float).isFinite = true := by decide
    rintro entry (_ | ⟨_, ⟨⟩⟩)
    exact ⟨hzero, hzero⟩
  have hgraph : (repeating digits).toGraph = .ok
      ⟨(repeating digits).nodes.map NodeEntry.node, [], 2⟩ := rfl
  exact ⟨Document.parse_render hw hfinite hgraph none, (Document.toGraph_reread _).trans hgraph⟩

/-! ### When an import is all or nothing -/

/-- What is read of a source can be written, and its graph can be built. -/
theorem Source.writable_of_read (hreads : lib.Reads) {source : Source} {d : Document}
    (h : source.read lib half = .ok d) : d.Writable ∧ ∃ g, d.toGraph = .ok g := by
  cases source with
  | text content =>
      obtain ⟨value, -, hd⟩ := Library.parse_eq_ok_iff.1 h
      exact ⟨Document.writable_of_library_parse hreads h, Document.exists_toGraph_of_document hd⟩
  | bytes content =>
      obtain ⟨cs, -, value, -, hd⟩ := Library.parseBytes_eq_ok_iff.1 h
      exact ⟨Document.writable_of_library_parseBytes hreads h,
        Document.exists_toGraph_of_document hd⟩

theorem importsWhole_iff_of_ok {read : Except Fault Document}
    (h : s.run (importBy lib m read) = (.ok (), s')) : ImportsWhole lib half s m read ↔
      ∃ d g, read = .ok d ∧ d.toGraph = .ok g ∧ Imported lib half s s' g := by
  refine ⟨fun hwhole => hwhole.imported s' h,
    fun himported => ⟨fun s'' h' => ?_, fun _ s'' h' => ?_⟩⟩
  · rw [h, Prod.mk.injEq] at h'
    exact h'.2 ▸ himported
  · rw [h, Prod.mk.injEq] at h'
    cases h'.1

theorem importsWhole_iff_of_error {read : Except Fault Document} {fault : Fault}
    (h : s.run (importBy lib m read) = (.error fault, s')) :
    ImportsWhole lib half s m read ↔ s.Untouched s' := by
  refine ⟨fun hwhole => hwhole.untouched fault s' h,
    fun huntouched => ⟨fun s'' h' => ?_, fun _ s'' h' => ?_⟩⟩
  · rw [h, Prod.mk.injEq] at h'
    cases h'.1
  · rw [h, Prod.mk.injEq] at h'
    exact h'.2 ▸ huntouched

section laws

variable (hreads : lib.Reads) (hprints : lib.Prints half) (hrefuses : lib.Refuses half)

include hreads hprints in
/-- A document that can be printed is saved as a text that is read as its graph, if this is finite. -/
theorem exists_text_of_printable (hm : m.now.Valid) {d : Document} (hw : d.Writable) {g : Graph}
    (hg : d.toGraph = .ok g) (hsizes : (loggedSizes g).all Text.isWritable = true)
    (hprintable : Printable lib half s m d g) : ∃ text, ∀ name ∈ s.slotName,
      lib.render (importedDocument m d g) none = .ok text ∧
      ((∃ d', lib.parse half text = .ok d' ∧ d'.toGraph = .ok g) ↔ g.Finite) := by
  cases hname : s.slotName with
  | none => exact ⟨"", fun _ h => absurd h (by simp)⟩
  | some name =>
      have heditable := editable_of_toGraph hw hg hsizes
      have hcreated := valid_getD hw.created hm
      have hreadable := (heditable.writable_ofGraph hcreated hm).short.readable lib.time
      obtain ⟨text, hrender, hvalue⟩ := hprints _ none hreadable (hprintable name hname)
      exact ⟨text, fun _ _ => ⟨hrender,
        exists_parse_iff_finite hreads heditable (kept_of_toGraph hg) hcreated hm hvalue⟩⟩

include hreads hprints hrefuses in
/-- The import of a document is all or nothing exactly if everything can be brought into line with
its graph, or nothing has to be. -/
theorem importsWhole_ok_iff (hb : s.Bound) (hm : m.now.Valid) {d : Document} (hw : d.Writable)
    {g : Graph} (hg : d.toGraph = .ok g) : ImportsWhole lib half s m (.ok d) ↔
      (Accepted g ∧ Printable lib half s m d g ∧ ∀ name ∈ s.slotName, g.Finite) ∨
        (g = s.graph ∧ s.debouncer.pending = none ∧
          (Accepted g → ¬ Printable lib half s m d g ∧ g.validate true = .ok s.report)) := by
  by_cases hsizes : (loggedSizes g).all Text.isWritable = true
  · cases hvalidate : g.validate true with
    | ok report =>
        have haccepted : Accepted g := accepted_iff.2 ⟨hsizes, report, hvalidate⟩
        by_cases hprintable : Printable lib half s m d g
        · obtain ⟨text, htext⟩ := exists_text_of_printable hreads hprints hm hw hg hsizes hprintable
          have hrun := run_importBy_of_printed hg hsizes hvalidate hb
            fun name hname => (htext name hname).1
          have himported : Imported lib half s
              ((s.replaced g (d.created.getD m.now)).described m report text) g ↔
                ∀ name ∈ s.slotName, ∃ d', lib.parse half text = .ok d' ∧ d'.toGraph = .ok g :=
            imported_described_iff hb hvalidate
          rw [importsWhole_iff_of_ok hrun]
          simp only [haccepted, hprintable, true_and, not_true_eq_false, false_and, forall_const,
            and_false, or_false]
          constructor
          · rintro ⟨d', g', hd, hg', h⟩ name hname
            obtain rfl := Except.ok.inj hd
            obtain rfl := Except.ok.inj (hg.symm.trans hg')
            exact (htext name hname).2.1 (himported.1 h name hname)
          · exact fun h => ⟨d, g, rfl, hg,
              himported.2 fun name hname => (htext name hname).2.2 (h name hname)⟩
        · obtain ⟨name, hname, hhalf⟩ : ∃ name ∈ s.slotName,
              ((importedDocument m d g).value lib.time).holds half = true := by
            simpa [Printable] using hprintable
          obtain ⟨fault, hrender⟩ := hrefuses _ none hhalf
          rw [importsWhole_iff_of_error
            (run_importBy_of_not_printed hg hsizes hvalidate hb hname hrender),
            untouched_validated_iff]
          simp [haccepted, hprintable]
    | error fault =>
        have hrejected : ¬ Accepted g := by
          intro h
          obtain ⟨-, report, hreport⟩ := accepted_iff.1 h
          rw [hvalidate] at hreport
          cases hreport
        rw [importsWhole_iff_of_error (run_importBy_of_not_validated hg hsizes hvalidate),
          untouched_replaced_iff]
        simp [hrejected]
  · have hrun := run_importBy lib s m hg
    rw [if_neg hsizes] at hrun
    have hrejected : ¬ Accepted g := fun h => hsizes h.sizes
    rw [importsWhole_iff_of_error hrun, untouched_replaced_iff]
    simp [hrejected]

end laws

/-- **When an import is all or nothing**: with every library that satisfies the laws, and in every
session that has its slot in a store and under a clean name, as all visited sessions do, exactly if
the graph of the document can be loaded and validated and, where the session has a slot, printed and
read again; or if all that it replaces is what the session has, and no edit waits. -/
theorem importsWhole_iff (hreads : lib.Reads) (hprints : lib.Prints half)
    (hrefuses : lib.Refuses half) (hb : s.Bound) (hm : m.now.Valid) (source : Source) :
    ImportsWhole lib half s m (source.read lib half) ↔
      ∀ d g, source.read lib half = .ok d → d.toGraph = .ok g →
        (Accepted g ∧ Printable lib half s m d g ∧ ∀ name ∈ s.slotName, g.Finite) ∨
          (g = s.graph ∧ s.debouncer.pending = none ∧
            (Accepted g → ¬ Printable lib half s m d g ∧ g.validate true = .ok s.report)) := by
  cases hread : source.read lib half with
  | error fault =>
      have huntouched : s.Untouched s := ⟨rfl, rfl, rfl, rfl, rfl, rfl⟩
      refine iff_of_true ((importsWhole_iff_of_error rfl).2 huntouched) fun d g hd => ?_
      cases hd
  | ok d =>
      obtain ⟨hw, g, hg⟩ := Source.writable_of_read hreads hread
      rw [importsWhole_ok_iff hreads hprints hrefuses hb hm hw hg]
      constructor
      · intro hwhole d' g' hd hg'
        obtain rfl := Except.ok.inj hd
        obtain rfl := Except.ok.inj (hg.symm.trans hg')
        exact hwhole
      · exact fun hall => hall d g rfl hg

theorem importsWhole_iff_repeatingText : Visited (some emptyStore) started ∧
    ImportsWhole (.standard Json.privateHalf) Json.privateHalf started epoch
      ((Source.text (repeatingText 1)).read (.standard Json.privateHalf) Json.privateHalf) := by
  obtain ⟨hd, hg⟩ := read_repeatingText 1
  refine ⟨visited_started, (importsWhole_iff (Library.reads_standard _) (Library.prints_standard _)
    (Library.refuses_standard _) (visited_started.housed all_emptyStore).bound valid_epoch _).2
    fun d' g' hd' hg' => ?_⟩
  obtain rfl := Except.ok.inj (hd.symm.trans hd')
  obtain rfl := Except.ok.inj (hg.symm.trans hg')
  refine Or.inl ⟨⟨by decide, ?_⟩, fun _ _ => by decide, fun _ _ => ?_⟩
  · rintro node (_ | ⟨_, ⟨⟩⟩) detail
    cases detail <;> decide
  · rintro node (_ | ⟨_, ⟨⟩⟩)
    decide

/-- **An import may fail after it has replaced the graph.** -/
theorem not_importsWhole_repeatingText : Visited (some emptyStore) started ∧
    ¬ ImportsWhole (.standard Json.privateHalf) Json.privateHalf started epoch
      ((Source.text (repeatingText 4301)).read (.standard Json.privateHalf) Json.privateHalf) := by
  obtain ⟨hd, hg⟩ := read_repeatingText 4301
  refine ⟨visited_started, fun hwhole => ?_⟩
  have hb := (visited_started.housed all_emptyStore).bound
  have hw := (Source.writable_of_read (Library.reads_standard _) hd).1
  rw [hd, importsWhole_ok_iff (Library.reads_standard _) (Library.prints_standard _)
    (Library.refuses_standard _) hb valid_epoch hw hg] at hwhole
  rcases hwhole with ⟨haccepted, -⟩ | ⟨hsame, -⟩
  · exact Validation.not_countable_of_nines (by decide) rfl
      (haccepted.counts _ List.mem_cons_self)
  · have hnodes := congrArg (fun g => g.nodes.length) hsame
    revert hnodes
    decide +kernel

end BehaviorTree.Session
