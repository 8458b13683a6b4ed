import BehaviorTree.Proofs.Decimal.Integers
import BehaviorTree.Proofs.Graph.Loading
import BehaviorTree.Proofs.Json.Readable

/-! # Ids that can be written

The ids of a graph are read from numbers, texts and truth values.  A text holds no longer numerals
than may be written (`Json.Readable`), a double is below a power of two, and a text that is read as an
integer has few enough digits.  So each id of a document can be written again
(`Graph.isWritable_integer`), and with it whatever is said about the document. -/

namespace BehaviorTree.Graph

open BehaviorTree.Text BehaviorTree.Decimal
open BehaviorTree.Json (lookup?)

/-! ### Integers -/

theorem required_eq_ok_iff {α : Type} {o : Option α} {a : α} : required o = .ok a ↔ o = some a := by
  cases o <;> simp [required]

theorem isWritable_truncate? {x : Float} {n : ℤ} (h : truncate? x = some n) :
    isWritable n = true := by
  obtain ⟨e, he, hlt⟩ := exists_lt_of_truncate? h
  have hplaces : 53 + e ≤ numeralLimit := by unfold numeralLimit; omega
  have hrange : 2 ^ (53 + e) ≤ 10 ^ numeralLimit :=
    (Nat.pow_le_pow_left (by decide) _).trans (Nat.pow_le_pow_right (by decide) hplaces)
  exact (isWritable_iff_lt n).2 (hlt.trans_le hrange)

theorem isWritable_natOfDigits {digits : List ℕ} (h : ∀ d ∈ digits, d < 10) {n : ℕ}
    (hn : natOfDigits digits = .ok n) : isWritable n = true := by
  unfold natOfDigits at hn
  split_ifs at hn with hempty hlong
  obtain rfl := Except.ok.inj hn
  exact isWritable_ofDigits h (not_lt.1 hlong)

theorem isWritable_toInt {s : String} {n : ℤ} (h : toInt s = .ok n) : isWritable n = true := by
  unfold toInt at h
  dsimp only at h
  split at h
  · split at h
    · rename_i digits hdigits
      obtain ⟨m, hm, h⟩ := bind_eq_ok_iff.1 h
      have hlt : ∀ d ∈ digits, d < 10 := by
        intro d hd
        obtain ⟨c, hc⟩ := (value_of_allDigits? hdigits).2 d hd
        exact digit?_lt c d hc
      have hwritable := isWritable_natOfDigits hlt hm
      obtain rfl := Except.ok.inj h
      split_ifs
      · rwa [isWritable_neg]
      · exact hwritable
    · cases h
  · cases h

/-- **An integer that is read of a value** can be written. -/
theorem isWritable_integer {value : Json} (hvalue : value.Readable) {n : ℤ}
    (h : integer value = .ok n) : isWritable n = true := by
  unfold integer at h
  split at h
  · obtain rfl := Except.ok.inj h
    exact hvalue
  · split_ifs at h
    exact isWritable_truncate? (required_eq_ok_iff.1 h)
  · rename_i b
    obtain rfl := Except.ok.inj h
    cases b <;> decide
  · rename_i s
    cases hs : toInt s with
    | error fault =>
        rw [hs] at h
        cases h
    | ok m =>
        rw [hs] at h
        obtain rfl := Except.ok.inj h
        exact isWritable_toInt hs
  · cases h

/-! ### Nodes and links -/

variable {fields : List (String × Json)}

theorem isWritable_integerAt (hfields : Json.Readable (.object fields)) {key : String} {n : ℤ}
    (h : integerAt key fields = .ok n) : isWritable n = true := by
  obtain ⟨value, hvalue, h⟩ := bind_eq_ok_iff.1 h
  exact isWritable_integer (Json.readable_of_lookup? hfields (required_eq_ok_iff.1 hvalue)) h

theorem id_of_detailOf {node read : Node} {d : Detail} (h : detailOf fields node d = .ok read) :
    read.id = node.id := by
  unfold detailOf at h
  split at h
  · rw [← Except.ok.inj h]
  · obtain ⟨text, -, h⟩ := bind_eq_ok_iff.1 h
    rw [← Except.ok.inj h]
    cases d <;> rfl

theorem id_of_foldlM_detailOf {details : List Detail} {node read : Node}
    (h : details.foldlM (detailOf fields) node = .ok read) : read.id = node.id := by
  induction details generalizing node with
  | nil => rw [← Except.ok.inj h]
  | cons d details ih =>
      obtain ⟨next, hnext, h⟩ := bind_eq_ok_iff.1 h
      exact (ih h).trans (id_of_detailOf hnext)

theorem isWritable_nodeOf {value : Json} (hvalue : value.Readable) {node : Node}
    (h : nodeOf value = .ok node) : isWritable node.id = true := by
  obtain ⟨fields, hfields, h⟩ := bind_eq_ok_iff.1 h
  rw [fieldsOf_eq_ok_iff.1 hfields] at hvalue
  obtain ⟨id, hid, h⟩ := bind_eq_ok_iff.1 h
  have hnode : node.id = id := by
    iterate 10 obtain ⟨_, -, h⟩ := bind_eq_ok_iff.1 h
    exact id_of_foldlM_detailOf h
  rw [hnode]
  exact isWritable_integerAt hvalue hid

theorem isWritable_linkOf {value : Json} (hvalue : value.Readable) {link : Link}
    (h : linkOf value = .ok link) :
    isWritable link.source = true ∧ isWritable link.target = true := by
  obtain ⟨fields, hfields, h⟩ := bind_eq_ok_iff.1 h
  rw [fieldsOf_eq_ok_iff.1 hfields] at hvalue
  obtain ⟨source, hsource, h⟩ := bind_eq_ok_iff.1 h
  obtain ⟨target, htarget, h⟩ := bind_eq_ok_iff.1 h
  obtain ⟨_, -, h⟩ := bind_eq_ok_iff.1 h
  obtain ⟨_, -, h⟩ := bind_eq_ok_iff.1 h
  obtain ⟨_, -, h⟩ := bind_eq_ok_iff.1 h
  obtain rfl := Except.ok.inj h
  exact ⟨isWritable_integerAt hvalue hsource, isWritable_integerAt hvalue htarget⟩

/-! ### Documents -/

theorem readable_itemsOf {value : Json} (hvalue : value.Readable) {items : List Json}
    (h : itemsOf value = .ok items) : ∀ item ∈ items, item.Readable := by
  unfold itemsOf at h
  split at h
  · obtain rfl := Except.ok.inj h
    rwa [Json.Readable, Json.readableItems_iff] at hvalue
  · obtain rfl := Except.ok.inj h
    exact List.forall_mem_map.2 fun _ _ => trivial
  · obtain rfl := Except.ok.inj h
    exact List.forall_mem_map.2 fun _ _ => trivial
  · cases h

theorem readable_topItems (hfields : Json.Readable (.object fields)) {key : String}
    {items : List Json} (h : topItems key fields = .ok items) : ∀ item ∈ items, item.Readable := by
  unfold topItems at h
  split at h
  · obtain rfl := Except.ok.inj h
    exact List.forall_mem_nil _
  · rename_i value hvalue
    split_ifs at h
    · exact readable_itemsOf (Json.readable_of_lookup? hfields hvalue) h
    · obtain rfl := Except.ok.inj h
      exact List.forall_mem_nil _

theorem isWritable_nodesOf (hfields : Json.Readable (.object fields)) {nodes : List Node}
    (h : nodesOf fields = .ok nodes) : ∀ node ∈ nodes, isWritable node.id = true := by
  intro node hnode
  obtain ⟨items, hitems, h⟩ := bind_eq_ok_iff.1 h
  obtain ⟨item, hitem, hread⟩ := exists_of_mem_mapM h hnode
  exact isWritable_nodeOf (readable_topItems hfields hitems item hitem) hread

theorem isWritable_linksOf (hfields : Json.Readable (.object fields)) {links : List Link}
    (h : linksOf fields = .ok links) :
    ∀ link ∈ links, isWritable link.source = true ∧ isWritable link.target = true := by
  intro link hlink
  obtain ⟨items, hitems, h⟩ := bind_eq_ok_iff.1 h
  obtain ⟨item, hitem, hread⟩ := exists_of_mem_mapM h hlink
  exact isWritable_linkOf (readable_topItems hfields hitems item hitem) hread

end BehaviorTree.Graph
