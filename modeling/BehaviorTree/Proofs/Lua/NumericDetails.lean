import BehaviorTree.Proofs.Graph.WellFormed
import BehaviorTree.Proofs.Lua.Descriptors
import BehaviorTree.Proofs.Lua.Separators
import BehaviorTree.Proofs.Validation.Numbers

/-! # Numeric details

What is written for a detail that a validation does not warn of.  It should be a number within the
bound of the detail or a descriptor with a key that is defined (`Leaf.Fits`), and it is exactly if
the text is a reference as it stands or reads as a finite number after trimming
(`Exporter.detail_fits_iff`).  The validation trims a text before it looks for the mark of a
reference and passes over blank ones, so a reference with a blank at an end and a blank text are
written as texts without a warning, and so is a numeral past the range of doubles.  Nor does it look
at separators, which keep a number from being read (`Separated`). -/

namespace BehaviorTree.Lua

open BehaviorTree.Text BehaviorTree.Decimal BehaviorTree.Validation

/-- What a detail with a number should be written as. -/
def Leaf.Fits (r : Resolver) (d : Detail) : Leaf → Prop
  | .scalar (.number x) => d.Admits x
  | .descriptor key _ => r.isKnown key = true
  | _ => False

/-! ### Texts that are no warning -/

/-- What a validation does not compare with the range of a number, or finds to be in it. -/
def Unwarned (d : Detail) (text : String) : Prop :=
  text = "" ∨ isReference text = true ∨ isInRange d text.toList = .ok true

/-- How such a text starts, if it is not empty. -/
theorem Unwarned.head {d : Detail} (hd : d ∈ numericDetails) {text : String} (h : Unwarned d text) :
    ∀ c ∈ text.toList.head?, c = '@' ∨ c = '-' ∨ isDigit c = true := by
  intro c hc
  rcases h with rfl | href | hrange
  · cases hc
  · obtain ⟨key, hkey⟩ := exists_of_isReference href
    rw [hkey] at hc
    exact Or.inl (Option.some.inj hc).symm
  · obtain ⟨x, hx, -⟩ := exists_signed_of_isInRange hd hrange
    obtain ⟨first, rest, hfirst, hdigit⟩ := hx.head
    rw [hfirst] at hc
    obtain rfl := Option.some.inj hc
    exact Or.inr hdigit.symm

theorem head?_trim (text : String) :
    (trim text).toList.head? = (text.toList.dropWhile isBlank).head? := by
  rw [toList_trim, head?_trimChars]

/-- A text that is not blank at its start starts as after trimming. -/
theorem mem_head?_trim {text : String} {c : Char} (h : c ∈ text.toList.head?)
    (hc : isBlank c = false) : c ∈ (trim text).toList.head? := by
  rw [head?_trim]
  cases htext : text.toList with
  | nil =>
      rw [htext] at h
      cases h
  | cons first rest =>
      rw [htext] at h
      obtain rfl := Option.some.inj h
      rw [List.dropWhile_cons_of_neg (by simp [hc])]
      rfl

section starts

variable {text : String}
  (h : ∀ c ∈ (trim text).toList.head?, c = '@' ∨ c = '-' ∨ isDigit c = true)
include h

theorem isEscaped_of_head : isEscaped text = false := by
  by_contra hescaped
  rw [Bool.not_eq_false] at hescaped
  unfold isEscaped at hescaped
  split at hescaped
  · rename_i rest htext
    have hmem := mem_head?_trim (c := '\\') (by rw [htext]; rfl) (by decide)
    exact absurd (h _ hmem) (by decide)
  · cases hescaped

theorem boolean?_of_head : boolean? text = none := by
  have hne : ∀ word letter letters, word = String.ofList (letter :: letters) →
      letter.isAlpha = true → text.toLower ≠ word := by
    rintro _ letter letters rfl hletter he
    have hlower : text.toList.map Char.toLower = letter :: letters := by
      rw [← String.toList_map]
      exact (congrArg String.toList he).trans String.toList_ofList
    obtain ⟨first, rest, hfirst, rfl, -⟩ := List.map_eq_cons_iff.1 hlower
    have halpha := isAlpha_of_toLower hletter
    obtain ⟨hblank, hdigit⟩ := isBlank_isDigit_of_isAlpha halpha
    rcases h first (mem_head?_trim (by rw [hfirst]; rfl) hblank) with rfl | rfl | hc
    · exact absurd halpha (by decide)
    · exact absurd halpha (by decide)
    · rw [hdigit] at hc
      cases hc
  unfold boolean?
  rw [if_neg (hne "true" _ _ rfl (by decide)), if_neg (hne "false" _ _ rfl (by decide))]

/-- Such a text stands for a number or for itself. -/
theorem leafOf_of_head {e : Exporter} (href : isReference text = false) {leaf : Leaf}
    (hleaf : e.leafOf text = .ok leaf) : ∃ x?, number? text = .ok x? ∧
      leaf = match x? with
        | some x => .scalar (.number x)
        | none => .scalar (.text text) := by
  rw [Exporter.leafOf, Resolver.resolve_of_not_isReference href,
    if_neg (by simp [isEscaped_of_head h])] at hleaf
  obtain ⟨s, hs, hleaf⟩ := bind_eq_ok_iff.1 hleaf
  obtain ⟨x?, hx, hs⟩ := bind_eq_ok_iff.1 hs
  obtain rfl := Except.ok.inj hleaf
  refine ⟨x?, hx, ?_⟩
  cases x? with
  | some x =>
      obtain rfl := Except.ok.inj hs
      rfl
  | none =>
      rw [boolean?_of_head h] at hs
      obtain rfl := Except.ok.inj hs
      rfl

end starts

/-- The leaf of a reference is a descriptor. -/
theorem exists_descriptor_of_reference {e : Exporter} {text : String}
    (href : isReference text = true) {leaf : Leaf} (h : e.leafOf text = .ok leaf) :
    ∃ default, leaf = .descriptor (dropFirst text) default := by
  rw [Exporter.leafOf, Resolver.resolve_of_isReference href] at h
  unfold Leaf.ofResolved at h
  split at h
  · rename_i hliteral
    cases hliteral
  · rename_i hresolved
    obtain ⟨rfl, -⟩ := Resolved.reference.inj hresolved
    exact ⟨_, (Except.ok.inj h).symm⟩
  · rename_i hresolved
    obtain ⟨rfl, -⟩ := Resolved.reference.inj hresolved
    split_ifs at h
    · exact ⟨_, (Except.ok.inj h).symm⟩
    · obtain ⟨s, -, h⟩ := bind_eq_ok_iff.1 h
      exact ⟨_, (Except.ok.inj h).symm⟩

/-! ### Numbers -/

/-- After trimming, white space is no matter when a double is read. -/
theorem toFloat?_trim (text : String) :
    toFloat? (trim text) = (ungroup? false (trim text).toList).bind (readSigned? digit?) := by
  simp only [toFloat?, trimChars_isSpace_trim, Option.bind_eq_bind]

/-- A number that is in range is read alike, and written if it is finite. -/
theorem number?_of_signed {text : String} {x : Float} (h : SignedNumeral (trim text).toList x)
    {x? : Option Float} (hok : number? text = .ok x?) :
    toFloat? (trim text) = some x ∧ x? = if x.isFinite then some x else none := by
  refine ⟨h.toFloat?_eq (trimChars_isSpace_trim text), ?_⟩
  obtain ⟨w, hw, hx⟩ := h.read
  rw [toList_trim] at hw hx
  unfold number? at hok
  dsimp only at hok
  rw [hw.read] at hok
  dsimp only at hok
  rw [hx] at hok
  split_ifs at hok with hseparators hinf
  · obtain rfl := Except.ok.inj hok
    rw [if_neg]
    intro hfinite
    rw [isInf_of_isFinite hfinite] at hinf
    cases hinf
  · obtain rfl := Except.ok.inj hok
    have hnan : x.isNaN = false :=
      hx ▸ isNaN_signed (isNaN_of_sign? (sign?_toFloat w)) _
    rw [if_pos (isFinite_of_not hnan (by simpa using hinf))]

/-- What is empty or starts with the mark of a reference is no number. -/
theorem readUnsigned?_of_mark {cs : List Char} (h : ∀ c ∈ cs.head?, c = '@') :
    takeSign cs = (false, cs) ∧ readUnsigned? digit? cs = none ∧ named? cs = none := by
  cases cs with
  | nil => exact ⟨rfl, rfl, by decide⟩
  | cons c rest =>
      obtain rfl := h c rfl
      have hdigit : digit? '@' = none := by decide
      exact ⟨rfl, by simp [readUnsigned?, spanDigits, hdigit], named?_of_head (by decide)⟩

theorem readSigned?_of_mark {cs : List Char} (h : ∀ c ∈ cs.head?, c = '@') :
    readSigned? digit? cs = none := by
  obtain ⟨hsign, hread, hname⟩ := readUnsigned?_of_mark h
  simp [readSigned?, hsign, hread, hname]

theorem number?_of_mark {text : String} (h : ∀ c ∈ (trim text).toList.head?, c = '@') :
    number? text = .ok none ∧ toFloat? (trim text) = none := by
  constructor
  · rw [toList_trim] at h
    obtain ⟨hsign, hread, -⟩ := readUnsigned?_of_mark h
    simp only [number?, hsign, hread]
  · rw [toFloat?_trim, Option.bind_eq_none_iff]
    intro plain hplain
    refine readSigned?_of_mark ?_
    -- Underscores are left out, but not the first character.
    cases htext : (trim text).toList with
    | nil =>
        rw [htext] at hplain
        obtain rfl := Option.some.inj hplain
        nofun
    | cons c rest =>
        rw [htext] at hplain h
        obtain rfl := h c rfl
        unfold ungroup? at hplain
        rw [if_neg (by decide)] at hplain
        obtain ⟨_, -, rfl⟩ := Option.map_eq_some_iff.1 hplain
        rintro _ ⟨⟩
        rfl

/-! ### Separators -/

/-- The text that a scalar is read from when an attribute text is written: the default of a
reference, if it has one, or the text itself. -/
def scalarText? (r : Resolver) (text : String) : Option String :=
  if isReference text then r.default? (dropFirst text) else some text

/-- An attribute is written unless the number that stands for it is between separators. -/
theorem exists_leafOf_iff {e : Exporter} {text : String}
    (hescaped : isReference text = false → isEscaped text = false) :
    (∃ leaf, e.leafOf text = .ok leaf) ↔ ∀ s ∈ scalarText? e.resolver text, ¬ Separated s := by
  have htext : (e.resolver.resolve text).text? = scalarText? e.resolver text := by
    unfold scalarText?
    by_cases href : isReference text = true
    · rw [if_pos href, Resolver.resolve_of_isReference href]
      rfl
    · rw [Bool.not_eq_true] at href
      rw [if_neg (by simp [href]), Resolver.resolve_of_not_isReference href,
        if_neg (by simp [hescaped href])]
      rfl
  rw [← htext]
  exact (e.readsIf_leafOf text).exists_iff

/-! ### Details -/

/-- **A text that is no warning** fits exactly if it is a reference as it stands, or a finite number
after trimming; otherwise it is written as a text. -/
theorem leafOf_fits_iff {e : Exporter} {d : Detail} (hd : d ∈ numericDetails) {text : String}
    (hknown : isReference text = true → e.resolver.isKnown (dropFirst text) = true)
    (hunwarned : Unwarned d (trim text)) {leaf : Leaf} (h : e.leafOf text = .ok leaf) :
    (leaf.Fits e.resolver d ↔
      isReference text = true ∨ ∃ x, toFloat? (trim text) = some x ∧ x.isFinite = true) ∧
    (¬ leaf.Fits e.resolver d → leaf = .scalar (.text text)) := by
  by_cases href : isReference text = true
  · have hfits : leaf.Fits e.resolver d := by
      obtain ⟨default, rfl⟩ := exists_descriptor_of_reference href h
      exact hknown href
    exact ⟨iff_of_true hfits (Or.inl href), fun hcon => absurd hfits hcon⟩
  · rw [Bool.not_eq_true] at href
    obtain ⟨x?, hx, rfl⟩ := leafOf_of_head (hunwarned.head hd) href h
    -- Where the range is not looked at, the trimmed text is empty or starts with a mark.
    have hmark : (∀ c ∈ (trim text).toList.head?, c = '@') →
        x? = none ∧ toFloat? (trim text) = none := fun hmark => by
      obtain ⟨hnumber, hfloat⟩ := number?_of_mark hmark
      exact ⟨Except.ok.inj (hx.symm.trans hnumber), hfloat⟩
    rcases hunwarned with hempty | hreference | hrange
    · obtain ⟨rfl, hfloat⟩ := hmark (by simp [hempty])
      simp [Leaf.Fits, href, hfloat]
    · obtain ⟨key, hkey⟩ := exists_of_isReference hreference
      obtain ⟨rfl, hfloat⟩ := hmark (by simp [hkey])
      simp [Leaf.Fits, href, hfloat]
    · obtain ⟨x, hsigned, hadmits⟩ := exists_signed_of_isInRange hd hrange
      obtain ⟨hfloat, rfl⟩ := number?_of_signed hsigned hx
      by_cases hfinite : x.isFinite = true
      · simp [Leaf.Fits, href, hfloat, hfinite, hadmits]
      · simp [Leaf.Fits, href, hfloat, hfinite]

/-- The keys of the details are those of numbers, and each belongs to one of them only. -/
theorem detailKeys_injective {d d' : Detail} {key : String} (h : (d, key) ∈ detailKeys)
    (h' : (d', key) ∈ detailKeys) : d' = d := by
  have hall : ∀ pair ∈ detailKeys, ∀ pair' ∈ detailKeys, pair'.2 = pair.2 → pair'.1 = pair.1 := by
    decide
  exact hall _ h _ h' rfl

theorem Exporter.exists_leafOf_of_head {e : Exporter} {node : Node} {entries : Table Leaf}
    (h : e.head node = .ok entries) {d : Detail} {key : String} (hkey : (d, key) ∈ detailKeys)
    (hne : node.detailText d ≠ "") : ∃ leaf, e.leafOf (node.detailText d) = .ok leaf := by
  unfold head at h
  obtain ⟨_, -, h⟩ := bind_eq_ok_iff.1 h
  obtain ⟨_, -, h⟩ := bind_eq_ok_iff.1 h
  obtain ⟨_, -, h⟩ := bind_eq_ok_iff.1 h
  obtain ⟨_, hdetails, -⟩ := bind_eq_ok_iff.1 h
  obtain ⟨_, -, hentry⟩ := exists_mem_of_mapM hdetails hkey
  change attributeEntry key (node.detailText d) e.leafOf = .ok _ at hentry
  rw [attributeEntry, if_neg (by simpa using hne)] at hentry
  obtain ⟨leaf, hleaf, -⟩ := bind_eq_ok_iff.1 hentry
  exact ⟨leaf, hleaf⟩

/-- A body has one entry under the key of a detail that is not empty. -/
theorem Exporter.exists_detail_of_bodyOn {e : Exporter} {main : Bool} {path : List Int} {node : Node}
    {body : Table Leaf} (hbody : e.bodyOn main path node = .ok body) {d : Detail} {key : String}
    (hkey : (d, key) ∈ detailKeys) (hne : node.detailText d ≠ "") :
    ∃ leaf, e.leafOf (node.detailText d) = .ok leaf ∧
      ∀ value, (Key.named key, value) ∈ body ↔ value = .leaf leaf := by
  have hnames : ∀ pair ∈ detailKeys, pair.2 ∉
      ["type", "name", "func", "params", "policy", "subtree_name", "children"] := by decide
  have hname := hnames _ hkey
  obtain ⟨entries, bodies, hentries, -, -, rfl⟩ := bodyOn_eq_ok_iff.1 hbody
  obtain ⟨leaf, hleaf⟩ := exists_leafOf_of_head hentries hkey hne
  refine ⟨leaf, hleaf, fun value => ?_⟩
  have hchildren : (Key.named key, value) ∉ childrenEntry bodies := by
    unfold childrenEntry
    split_ifs
    · nofun
    · intro hmem
      obtain ⟨hsame, -⟩ := Prod.mk.inj (List.mem_singleton.1 hmem)
      exact hname (by simp [Key.named.inj hsame])
  rw [List.mem_append, or_iff_left hchildren, mem_head_iff hentries]
  constructor
  · intro hputs
    generalize hplace : Key.named key = place at hputs
    cases hputs with
    | detail hkey' hne' hleaf' =>
        obtain rfl := Key.named.inj hplace
        obtain rfl := detailKeys_injective hkey hkey'
        rw [Except.ok.inj (hleaf.symm.trans hleaf')]
    | _ => exact absurd (Key.named.inj hplace) (fun he => hname (by simp [he]))
  · rintro rfl
    exact .detail hkey hne hleaf

/-- A detail that no warning is about is a reference to a key that is defined, or a text that is
compared with no range or in range. -/
theorem unwarned_of_warnings {g : Graph} {report : Report} (h : g.validate true = .ok report)
    {node : Node} (hnode : node ∈ g.nodes) {d : Detail} (hd : d ∈ numericDetails)
    (hw : ∀ issue ∈ report.warnings, issue.node = node.id →
      issue.cause.place? = some (.text (.detail d)) →
        issue.code ≠ "W2101" ∧ issue.code ≠ "W2102") :
    (isReference (node.detailText d) = true →
      (Resolver.ofGraph g).isKnown (dropFirst (node.detailText d)) = true) ∧
    Unwarned d (trim (node.detailText d)) := by
  have hplace : ∀ d ∈ numericDetails, Attribute.detail d ∈ referenceAttributes := by decide
  have hwarned : ∀ {cause}, Warned g node cause → cause.place? = some (.text (.detail d)) →
      cause.code ≠ "W2101" ∧ cause.code ≠ "W2102" := fun hcause =>
    hw ⟨node.id, _⟩ ((Graph.mem_warnings_iff h).2 ⟨node, hnode, rfl, hcause⟩) rfl
  constructor
  · intro href
    by_contra hunknown
    rw [Bool.not_eq_true] at hunknown
    exact (hwarned (.reference (hplace d hd) href hunknown) rfl).2 rfl
  · unfold Unwarned
    by_contra hcon
    rw [not_or, not_or] at hcon
    obtain ⟨hne, href, hrange⟩ := hcon
    obtain ⟨b, hb⟩ := exists_isInRange_iff.2 (Graph.exists_validate_iff.1 ⟨report, h⟩ node hnode d)
    cases b with
    | true => exact hrange hb
    | false => exact (hwarned (.number hd hne (by simpa using href) hb) rfl).1 rfl

/-- **What a detail is written as** that no warning is about.  It can be written unless the number
that stands for it is between separators, and in a table it fits exactly if its text is a reference
as it stands, or a finite number after trimming; otherwise it is written as a text. -/
theorem Exporter.detail_fits_iff {g : Graph} {report : Report}
    (hreport : g.validate true = .ok report) {node : Node} (hnode : node ∈ g.nodes) {d : Detail}
    {key : String} (hkey : (d, key) ∈ detailKeys) (hne : node.detailText d ≠ "")
    (hw : ∀ issue ∈ report.warnings, issue.node = node.id →
      issue.cause.place? = some (.text (.detail d)) →
        issue.code ≠ "W2101" ∧ issue.code ≠ "W2102") (modulePath : String) :
    ((∃ leaf, (Exporter.ofGraph g modulePath).leafOf (node.detailText d) = .ok leaf) ↔
      ∀ s ∈ scalarText? (Resolver.ofGraph g) (node.detailText d), ¬ Separated s) ∧
    ∀ main path body, (Exporter.ofGraph g modulePath).bodyOn main path node = .ok body →
      ∃ leaf, (∀ value, (Key.named key, value) ∈ body ↔ value = .leaf leaf) ∧
        (leaf.Fits (Resolver.ofGraph g) d ↔ isReference (node.detailText d) = true ∨
          ∃ x, toFloat? (trim (node.detailText d)) = some x ∧ x.isFinite = true) ∧
        (¬ leaf.Fits (Resolver.ofGraph g) d → leaf = .scalar (.text (node.detailText d))) := by
  have hnumeric : ∀ pair ∈ detailKeys, pair.1 ∈ numericDetails := by decide
  have hd := hnumeric _ hkey
  obtain ⟨hknown, hunwarned⟩ := unwarned_of_warnings hreport hnode hd hw
  refine ⟨exists_leafOf_iff fun _ => isEscaped_of_head (hunwarned.head hd), ?_⟩
  intro main path body hbody
  obtain ⟨leaf, hleaf, hentry⟩ := exists_detail_of_bodyOn hbody hkey hne
  exact ⟨leaf, hentry, leafOf_fits_iff hd hknown hunwarned hleaf⟩

/-! ### A rest -/

/-- A decorator that waits as long as a text says. -/
def restNode (text : String) : Node :=
  { id := 1, kind := .decorator, name := "Rest", decorator := some .wait, waitDuration := some text }

/-- A rest, and a blackboard with a key for its length. -/
def restGraph (text : String) : Graph where
  nodes := [restNode text, { id := 2, kind := .blackboard, fields := some [⟨"pause", "2", ""⟩] }]
  nextId := 3

theorem wellFormed_restGraph (text : String) : (restGraph text).WellFormed where
  ids_nodup := by simp [restGraph, restNode]
  ids_lt := by simp [restGraph, restNode]
  joined := by simp [restGraph]
  edges_nodup := by simp [restGraph]
  contiguous := fun _ => .refl _

/-- What is written for a rest. -/
def restBody (leaf : Leaf) : Table Leaf :=
  [leafEntry "type" (.member .nodeType "WAIT"), leafEntry "name" (.scalar (.text "Rest")),
    leafEntry "wait_duration" leaf]

theorem bodyOn_restNode {text : String} (hne : text ≠ "") {leaf : Leaf}
    (h : (Exporter.ofGraph (restGraph text) "").leafOf text = .ok leaf) :
    (Exporter.ofGraph (restGraph text) "").bodyOn false [1] (restNode text) =
      .ok (restBody leaf) := by
  have hwait : Exporter.attributeEntry "wait_duration" ((restNode text).detailText .waitDuration)
      (Exporter.ofGraph (restGraph text) "").leafOf = .ok [leafEntry "wait_duration" leaf] := by
    change Exporter.attributeEntry "wait_duration" text _ = _
    rw [Exporter.attributeEntry, if_neg (by simpa using hne), h]
    rfl
  refine Exporter.bodyOn_of_childless ?_ (Graph.children_of_none (List.forall_mem_nil _))
  unfold Exporter.head
  simp only [detailKeys, List.mapM_cons, List.mapM_nil, hwait]
  rfl

/-- A rest of half a second. -/
theorem Exporter.detail_fits_iff_rest :
    ((∃ leaf, (Exporter.ofGraph (restGraph "0.5") "").leafOf
        ((restNode "0.5").detailText .waitDuration) = .ok leaf) ↔
      ∀ s ∈ scalarText? (Resolver.ofGraph (restGraph "0.5"))
        ((restNode "0.5").detailText .waitDuration), ¬ Separated s) ∧
    ∃ leaf, (∀ value, (Key.named "wait_duration", value) ∈ restBody (.scalar (.number 0.5)) ↔
        value = .leaf leaf) ∧
      (leaf.Fits (Resolver.ofGraph (restGraph "0.5")) .waitDuration ↔
        isReference ((restNode "0.5").detailText .waitDuration) = true ∨
          ∃ x, toFloat? (trim ((restNode "0.5").detailText .waitDuration)) = some x ∧
            x.isFinite = true) ∧
      (¬ leaf.Fits (Resolver.ofGraph (restGraph "0.5")) .waitDuration →
        leaf = .scalar (.text ((restNode "0.5").detailText .waitDuration))) := by
  have hreport : (restGraph "0.5").validate true = .ok {} := by decide
  have hnode : restNode "0.5" ∈ (restGraph "0.5").nodes := .head _
  have hkey : (Detail.waitDuration, "wait_duration") ∈ detailKeys := by decide
  have hleaf : (Exporter.ofGraph (restGraph "0.5") "").leafOf "0.5" =
      .ok (.scalar (.number 0.5)) := by
    decide
  obtain ⟨hwritten, hfits⟩ :=
    Exporter.detail_fits_iff hreport hnode hkey (by decide) (by decide) ""
  exact ⟨hwritten, hfits _ _ _ (bodyOn_restNode (by decide) hleaf)⟩

/-- **A blank in front of a reference** is no warning, and a text is written. -/
theorem Exporter.detail_unfit :
    (restGraph " @pause").WellFormed ∧ (restGraph " @pause").validate true = .ok {} ∧
      restNode " @pause" ∈ (restGraph " @pause").nodes ∧
      (Exporter.ofGraph (restGraph " @pause") "").bodyOn false [1] (restNode " @pause") =
        .ok (restBody (.scalar (.text " @pause"))) ∧
      ¬ Leaf.Fits (Resolver.ofGraph (restGraph " @pause")) .waitDuration
        (.scalar (.text " @pause")) := by
  have hleaf : (Exporter.ofGraph (restGraph " @pause") "").leafOf " @pause" =
      .ok (.scalar (.text " @pause")) := by
    decide +kernel
  exact ⟨wellFormed_restGraph _, by decide, .head _, bodyOn_restNode (by decide) hleaf, id⟩

end BehaviorTree.Lua
