import BehaviorTree.Proofs.Document.Loaded
import BehaviorTree.Proofs.Document.Parsed
import BehaviorTree.Proofs.Graph.Declared
import BehaviorTree.Proofs.Json.LongNumerals

/-! # Readings of documents

A reading settles if it answers a document that can be loaded, or refuses what it is given with a
code of its own.  Two faults come before a document value is there and are neither: bytes that are
no text in their encoding, and an integer that is too long to be converted, wherever the reader
comes to one (`settles_iff`). -/

namespace BehaviorTree.Document

open BehaviorTree.Text Json

/-- The codes of what a document is refused for. -/
def importCodes : List String := ["E3001", "E3002", "E3003", "E3004", "E3005"]

theorem code_mem_importCodes (failure : ImportFailure) : failure.code ∈ importCodes := by
  cases failure <;> simp [ImportFailure.code, importCodes]

/-- A reading answers a document that is loaded in turn, or a refusal with one of the codes. -/
def Settles (read : Except Fault Document) : Prop :=
  (∃ d, read = .ok d ∧ ∃ g, Graph.ofJson (.object d.graphFields) = .ok g) ∨
    ∃ failure, read = .error (.importing failure) ∧ failure.code ∈ importCodes

theorem settles_importing (failure : ImportFailure) : Settles (.error (.importing failure)) :=
  Or.inr ⟨failure, rfl, code_mem_importCodes failure⟩

/-- Any other fault does not settle what to do with a document. -/
theorem not_settles_of_ne {fault : Fault} (h : ∀ failure, fault ≠ .importing failure) :
    ¬ Settles (.error fault) := by
  rintro (⟨d, hok, -⟩ | ⟨failure, herror, -⟩)
  · cases hok
  · exact h failure (Except.error.inj herror)

/-- The refusal of a graph that can be written names no number that is too long. -/
theorem isWritable_of_toGraph {d : Document} (hd : d.Writable) {failure : ImportFailure}
    (h : d.toGraph = .error failure) : ∀ n ∈ failure.ids, isWritable n = true := by
  obtain ⟨code, hrefused⟩ := Graph.build_eq_error_iff.1 h
  refine hrefused.isWritable ?_ ?_
  · intro id hid
    obtain ⟨node, hnode, rfl⟩ := List.mem_map.1 hid
    obtain ⟨entry, hentry, rfl⟩ := List.mem_map.1 hnode
    exact hd.nodes entry hentry
  · intro link hlink
    obtain ⟨entry, hentry, rfl⟩ := List.mem_map.1 hlink
    obtain ⟨hsource, htarget, -⟩ := hd.connections entry hentry
    exact ⟨hsource, htarget⟩

section library

variable {lib : Library} {half : Char} (hlib : lib.Reads)

include hlib

/-- Neither does that of a document of a text. -/
theorem read_eq_of_readable {value : Json} (hvalue : value.Readable) :
    lib.read value = (lib.document value).mapError .importing := by
  unfold Library.read
  cases h : lib.document value with
  | ok d => rfl
  | error failure =>
      refine congrArg Except.error (Fault.raised_of_writable ?_)
      unfold Library.document at h
      split at h
      · rcases bind_eq_error_iff.1 h with h | ⟨d, hd, h⟩
        · obtain ⟨⟨place, problem⟩, -, rfl⟩ := mapError_eq_error_iff.1 h
          exact List.forall_mem_nil _
        · have hwritable := writable_of_ofFields hlib hvalue (mapError_eq_ok_iff.1 hd)
          rcases bind_eq_error_iff.1 h with h | ⟨g, -, h⟩
          · exact isWritable_of_toGraph hwritable h
          · cases h
      · obtain rfl := Except.error.inj h
        exact List.forall_mem_nil _

/-- **A value that was read of a text settles**: its graph is built while it is read, so it can be
loaded. -/
theorem settles_read {value : Json} (hvalue : value.Readable) : Settles (lib.read value) := by
  rw [read_eq_of_readable hlib hvalue]
  cases h : lib.document value with
  | error failure => exact settles_importing failure
  | ok d =>
      obtain ⟨g, hg⟩ := exists_toGraph_of_document h
      refine Or.inl ⟨d, rfl, g, ?_⟩
      rw [Graph.ofJson_graphFields, hg]
      rfl

/-- What becomes of a text settles, unless it holds an integer that is too long. -/
theorem settles_bind_iff (cs : List Char) {read : Except ReadError Json}
    (hread : ∀ value, read = .ok value → value.Readable) :
    Settles (read.mapError (readFault cs) >>= lib.read) ↔ ∀ n, read ≠ .error (.longNumeral n) := by
  cases read with
  | ok value => exact iff_of_true (settles_read hlib (hread value rfl)) nofun
  | error e =>
      cases e with
      | malformed problem offset => exact iff_of_true (settles_importing _) nofun
      | longNumeral n =>
          have hfault : readFault cs (.longNumeral n) = .numeralTooLong n := rfl
          exact iff_of_false (not_settles_of_ne (by simp [hfault])) fun h => h n rfl

/-- The fault of a text is a refusal, or that of an integer that is too long. -/
theorem fault_of_bind {cs : List Char} {read : Except ReadError Json}
    (hread : ∀ value, read = .ok value → value.Readable) {fault : Fault}
    (h : read.mapError (readFault cs) >>= lib.read = .error fault) :
    (∃ failure, fault = .importing failure) ∨ ∃ n, fault = .numeralTooLong n := by
  cases read with
  | ok value =>
      change lib.read value = .error fault at h
      rw [read_eq_of_readable hlib (hread value rfl)] at h
      cases hvalue : lib.document value with
      | ok d =>
          rw [hvalue] at h
          cases h
      | error failure =>
          rw [hvalue] at h
          exact Or.inl ⟨failure, (Except.error.inj h).symm⟩
  | error e =>
      cases e with
      | malformed problem offset => exact Or.inl ⟨_, (Except.error.inj h).symm⟩
      | longNumeral n => exact Or.inr ⟨n, (Except.error.inj h).symm⟩

theorem settles_parse_iff (s : String) :
    Settles (lib.parse half s) ↔ ∀ n, ¬ ReachesLong half s.toList n := by
  rw [Library.parse, settles_bind_iff hlib _ fun _ => readable_of_parse]
  exact forall_congr' fun n => not_congr parse_eq_longNumeral_iff

theorem settles_parseBytes_iff (bytes : List UInt8) : Settles (lib.parseBytes half bytes) ↔
    ∃ cs, decodeBytes? half bytes = some cs ∧ ∀ n, ¬ ReachesLong half cs n := by
  unfold Library.parseBytes
  cases hcs : decodeBytes? half bytes with
  | none =>
      refine iff_of_false (not_settles_of_ne (by simp)) ?_
      rintro ⟨cs, hnone, -⟩
      cases hnone
  | some cs =>
      have hreadable : ∀ value, parseChars half cs = .ok value → value.Readable :=
        fun _ => readable_of_parseChars
      refine (settles_bind_iff hlib cs hreadable).trans ⟨fun h => ⟨cs, rfl, fun n hn => ?_⟩, ?_⟩
      · exact h n (parseChars_eq_longNumeral_iff.2 hn)
      · rintro ⟨cs', hsame, h⟩ n hn
        cases hsame
        exact h n (parseChars_eq_longNumeral_iff.1 hn)

theorem fault_of_parseBytes {bytes : List UInt8} {fault : Fault}
    (h : lib.parseBytes half bytes = .error fault) : (∃ failure, fault = .importing failure) ∨
      fault = .undecodableBytes ∨ ∃ n, fault = .numeralTooLong n := by
  unfold Library.parseBytes at h
  cases hcs : decodeBytes? half bytes with
  | none =>
      rw [hcs] at h
      exact Or.inr (Or.inl (Except.error.inj h).symm)
  | some cs =>
      rw [hcs] at h
      exact (fault_of_bind hlib (fun _ => readable_of_parseChars) h).imp_right Or.inr

end library

/-- **Every reading settles, but for two kinds of input**: a text that is accepted up to an integer
with more digits than are read, and bytes that are no text.  There are no other faults.  This is so
with every library, and halves of surrogate pairs make no difference. -/
theorem settles_iff {lib : Library} (hlib : lib.Reads) (half : Char) (s : String)
    (bytes : List UInt8) :
    (Settles (lib.parse half s) ↔ ∀ n, ¬ ReachesLong half s.toList n) ∧
    (Settles (lib.parseBytes half bytes) ↔
      ∃ cs, decodeBytes? half bytes = some cs ∧ ∀ n, ¬ ReachesLong half cs n) ∧
    ∀ fault, lib.parse half s = .error fault ∨ lib.parseBytes half bytes = .error fault →
      (∃ failure, fault = .importing failure) ∨ fault = .undecodableBytes ∨
        ∃ n, fault = .numeralTooLong n := by
  refine ⟨settles_parse_iff hlib s, settles_parseBytes_iff hlib bytes, ?_⟩
  rintro fault (h | h)
  · exact (fault_of_bind hlib (fun _ => readable_of_parse) h).imp_right Or.inr
  · exact fault_of_parseBytes hlib h

/-- Half a surrogate pair between quotes, as three bytes, is a text, which is refused as a document. -/
theorem settles_iff_half : (Library.standard privateHalf).Reads ∧
    Settles (parseBytes [0x22, 0xed, 0xa0, 0x80, 0x22]) ∧
    parseBytes [0x22, 0xed, 0xa0, 0x80, 0x22] = .error (.importing .notObject) := by
  have hlib := Library.reads_standard privateHalf
  have hdecode : decodeBytes? privateHalf [0x22, 0xed, 0xa0, 0x80, 0x22] =
      some ['"', privateHalf, '"'] := by decide +kernel
  have hread : (parseChars privateHalf ['"', privateHalf, '"']).toOption.isSome = true := by
    decide +kernel
  obtain ⟨-, hbytes, -⟩ := settles_iff hlib privateHalf "" [0x22, 0xed, 0xa0, 0x80, 0x22]
  refine ⟨hlib, hbytes.2 ⟨_, hdecode, fun n hn => ?_⟩, by decide +kernel⟩
  rw [parseChars_eq_longNumeral_iff.2 hn] at hread
  cases hread

/-- An integer that is too long and a single byte that starts no character do not settle. -/
theorem not_settles_nines :
    ¬ Settles (parse (String.ofList (List.replicate (numeralLimit + 1) '9'))) ∧
      ¬ Settles (parseBytes [0xff]) := by
  constructor
  · intro h
    have hlong : LongInteger (List.replicate (numeralLimit + 1) '9') [] := by
      refine ⟨fun c hc => ?_, ?_, ?_, nofun, rfl, rfl⟩
      · rw [List.eq_of_mem_replicate hc]
        rfl
      · simp [List.replicate_succ]
      · simp
    refine (settles_parse_iff (Library.reads_standard _) _).1 h (numeralLimit + 1)
      (reachesLong_of_startsLong ?_)
    exact ⟨false, _, [], by simp, hlong, List.length_replicate⟩
  · intro h
    obtain ⟨cs, hcs, -⟩ := (settles_parseBytes_iff (Library.reads_standard _) _).1 h
    have hnone : decodeBytes? privateHalf [0xff] = none := by decide
    rw [hnone] at hcs
    cases hcs

end BehaviorTree.Document
