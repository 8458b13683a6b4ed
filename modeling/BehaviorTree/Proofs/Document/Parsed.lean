import BehaviorTree.Proofs.Document.RoundTrip

/-! # Documents that were read

A document that was read of a text can be written and read again: its integers are short enough, its
timestamps valid (`writable_of_parse`), and its graph can be built (`exists_toGraph_of_document`).  An
integer may have been a number, a text or a truth value in the text. -/

namespace BehaviorTree

open BehaviorTree.Text

namespace Document

open Checked

variable {α : Type}

/-- A field that is read is there, or its value stands for an absent one. -/
theorem exists_of_field_eq_ok {spellings : List String} {absent : Checked α}
    {read : Json → Checked α} {fields : List (String × Json)} {a : α}
    (h : field spellings absent read fields = .ok a) :
    (∃ key v, Json.lookup? key fields = some v ∧ read v = .ok a) ∨ absent = .ok a := by
  unfold field at h
  split at h
  · rename_i key v hfind
    obtain ⟨key', -, hkey⟩ := List.exists_of_findSome?_eq_some hfind
    obtain ⟨v', hv', heq⟩ := Option.map_eq_some_iff.1 hkey
    obtain ⟨rfl, rfl⟩ := Prod.mk.inj heq
    exact Or.inl ⟨key', v', hv', mapError_eq_ok_iff.1 h⟩
  · exact Or.inr h

theorem exists_of_mem_answers {read : Json → Checked α} {value : Json} (hvalue : value.Readable)
    {answers : List α} (h : list read value = .ok answers) {a : α} (ha : a ∈ answers) :
    ∃ item : Json, item.Readable ∧ read item = .ok a := by
  unfold list at h
  split at h
  · rename_i items
    rw [Json.Readable, Json.readableItems_iff] at hvalue
    obtain ⟨⟨item, index⟩, hmem, hread⟩ := exists_of_mem_mapM h ha
    exact ⟨item, hvalue item (List.fst_mem_of_mem_zipIdx hmem), mapError_eq_ok_iff.1 hread⟩
  · cases h

theorem nullable_eq_ok {read : Json → Checked α} {value : Json} {a : α}
    (h : nullable read value = .ok (some a)) : read value = .ok a := by
  unfold nullable at h
  split at h
  · cases h
  · obtain ⟨b, hb, heq⟩ := map_eq_ok_iff.1 h
    rw [hb, Option.some.inj heq]

section library

variable {lib : Library} (hlib : lib.Reads)

include hlib

theorem isWritable_required {spellings : List String} {fields : List (String × Json)}
    (hfields : Json.Readable (.object fields)) {n : ℤ}
    (h : required spellings (integer lib) fields = .ok n) : isWritable n = true := by
  rcases exists_of_field_eq_ok h with ⟨key, v, hkey, hread⟩ | habsent
  · exact hlib.isWritable_integer (Json.readable_of_lookup? hfields hkey)
      (mapError_eq_ok_iff.1 hread)
  · cases habsent

omit hlib in
theorem fieldsOf_eq_ok {what : String} {value : Json} {fields : List (String × Json)}
    (h : fieldsOf what value = .ok fields) : value = .object fields := by
  unfold fieldsOf at h
  split at h
  · rw [Except.ok.inj h]
  · cases h

theorem isWritable_nodeEntry {value : Json} (hvalue : value.Readable) {entry : NodeEntry}
    (h : nodeEntry lib value = .ok entry) : isWritable entry.id = true := by
  unfold nodeEntry at h
  obtain ⟨members, hmembers, h⟩ := bind_eq_ok_iff.1 h
  rw [fieldsOf_eq_ok hmembers] at hvalue
  obtain ⟨id, hid, h⟩ := bind_eq_ok_iff.1 h
  have hentry : entry.id = id := by
    iterate 16 obtain ⟨_, -, h⟩ := bind_eq_ok_iff.1 h
    rw [← Except.ok.inj h]
  rw [hentry]
  exact isWritable_required hlib hvalue hid

theorem isWritable_linkEntry {value : Json} (hvalue : value.Readable) {entry : LinkEntry}
    (h : linkEntry lib value = .ok entry) : isWritable entry.source = true ∧
      isWritable entry.target = true ∧ ∀ n ∈ entry.order, isWritable n = true := by
  unfold linkEntry at h
  obtain ⟨fields, hfields, h⟩ := bind_eq_ok_iff.1 h
  rw [fieldsOf_eq_ok hfields] at hvalue
  obtain ⟨source, hsource, h⟩ := bind_eq_ok_iff.1 h
  obtain ⟨target, htarget, h⟩ := bind_eq_ok_iff.1 h
  obtain ⟨order, horder, h⟩ := bind_eq_ok_iff.1 h
  obtain ⟨fromPoint, -, h⟩ := bind_eq_ok_iff.1 h
  obtain ⟨toPoint, -, h⟩ := bind_eq_ok_iff.1 h
  obtain rfl := Except.ok.inj h
  refine ⟨isWritable_required hlib hvalue hsource, isWritable_required hlib hvalue htarget,
    fun n hn => ?_⟩
  obtain rfl : order = some n := hn
  rcases exists_of_field_eq_ok horder with ⟨key, v, hkey, hread⟩ | habsent
  · exact hlib.isWritable_integer (Json.readable_of_lookup? hvalue hkey)
      (mapError_eq_ok_iff.1 (nullable_eq_ok hread))
  · cases habsent

theorem valid_of_timestamp {spellings : List String} {fields : List (String × Json)}
    {o : Option Timestamp} (h : timestamp lib spellings fields = .ok o) : ∀ t ∈ o, t.Valid := by
  intro t ht
  obtain rfl : o = some t := ht
  rcases exists_of_field_eq_ok h with ⟨key, v, -, hread⟩ | habsent
  · exact hlib.valid_timestamp (mapError_eq_ok_iff.1 (nullable_eq_ok hread))
  · cases habsent

omit hlib in
theorem exists_of_mem_listField {read : Json → Checked α} {key : String}
    {fields : List (String × Json)} (hfields : Json.Readable (.object fields)) {answers : List α}
    (h : default [key] [] (list read) fields = .ok answers) {a : α} (ha : a ∈ answers) :
    ∃ item : Json, item.Readable ∧ read item = .ok a := by
  rcases exists_of_field_eq_ok h with ⟨key, v, hkey, hread⟩ | habsent
  · exact exists_of_mem_answers (Json.readable_of_lookup? hfields hkey) hread ha
  · rw [← Except.ok.inj habsent] at ha
    cases ha

variable {d : Document}

theorem writable_of_ofFields {fields : List (String × Json)}
    (hfields : Json.Readable (.object fields)) (h : ofFields lib fields = .ok d) : d.Writable := by
  obtain ⟨nodes, hnodes, h⟩ := bind_eq_ok_iff.1 h
  obtain ⟨connections, hconnections, h⟩ := bind_eq_ok_iff.1 h
  obtain ⟨version, -, h⟩ := bind_eq_ok_iff.1 h
  obtain ⟨created, hcreated, h⟩ := bind_eq_ok_iff.1 h
  obtain ⟨modified, hmodified, h⟩ := bind_eq_ok_iff.1 h
  obtain rfl := Except.ok.inj h
  refine ⟨fun entry hentry => ?_, fun entry hentry => ?_, valid_of_timestamp hlib hcreated,
    valid_of_timestamp hlib hmodified⟩
  · obtain ⟨item, hitem, hread⟩ := exists_of_mem_listField hfields hnodes hentry
    exact isWritable_nodeEntry hlib hitem hread
  · obtain ⟨item, hitem, hread⟩ := exists_of_mem_listField hfields hconnections hentry
    exact isWritable_linkEntry hlib hitem hread

omit hlib in
/-- Reading a document value builds its graph. -/
theorem exists_toGraph_of_document {value : Json} (h : lib.document value = .ok d) :
    ∃ g, d.toGraph = .ok g := by
  unfold Library.document at h
  split at h
  · obtain ⟨d', -, h⟩ := bind_eq_ok_iff.1 h
    obtain ⟨g, hg, h⟩ := bind_eq_ok_iff.1 h
    obtain rfl := Except.ok.inj h
    exact ⟨g, hg⟩
  · cases h

omit hlib in
/-- What is read of a document value is read of its fields. -/
theorem exists_of_document_eq_ok {value : Json} (h : lib.document value = .ok d) :
    ∃ fields, value = .object fields ∧ ofFields lib fields = .ok d := by
  unfold Library.document at h
  split at h
  · obtain ⟨d', hd', h⟩ := bind_eq_ok_iff.1 h
    obtain ⟨g, -, h⟩ := bind_eq_ok_iff.1 h
    obtain rfl := Except.ok.inj h
    exact ⟨_, rfl, mapError_eq_ok_iff.1 hd'⟩
  · cases h

theorem writable_of_document {value : Json} (hvalue : value.Readable)
    (h : lib.document value = .ok d) : d.Writable := by
  obtain ⟨fields, rfl, hfields⟩ := exists_of_document_eq_ok h
  exact writable_of_ofFields hlib hvalue hfields

/-- **A document that is read of a text can be written.** -/
theorem writable_of_library_parse {half : Char} {s : String} (h : lib.parse half s = .ok d) :
    d.Writable := by
  obtain ⟨value, hvalue, hd⟩ := Library.parse_eq_ok_iff.1 h
  exact writable_of_document hlib (Json.readable_of_parse hvalue) hd

/-- So can a document that is read of bytes. -/
theorem writable_of_library_parseBytes {half : Char} {bytes : List UInt8}
    (h : lib.parseBytes half bytes = .ok d) : d.Writable := by
  obtain ⟨cs, -, value, hvalue, hd⟩ := Library.parseBytes_eq_ok_iff.1 h
  exact writable_of_document hlib (Json.readable_of_parseChars hvalue) hd

end library

/-! ### The standard library -/

/-- **A document that is read of a text can be written, and its graph can be built.** -/
theorem writable_of_parse {s : String} (h : parse s = .ok d) :
    d.Writable ∧ ∃ g, d.toGraph = .ok g := by
  obtain ⟨value, -, hd⟩ := Library.parse_eq_ok_iff.1 h
  exact ⟨writable_of_library_parse (Library.reads_standard _) h, exists_toGraph_of_document hd⟩

/-- So can a document that is read of bytes. -/
theorem writable_of_parseBytes {bytes : List UInt8} (h : parseBytes bytes = .ok d) :
    d.Writable ∧ ∃ g, d.toGraph = .ok g := by
  obtain ⟨cs, -, value, -, hd⟩ := Library.parseBytes_eq_ok_iff.1 h
  exact ⟨writable_of_library_parseBytes (Library.reads_standard _) h, exists_toGraph_of_document hd⟩

end Document
end BehaviorTree
