import BehaviorTree.Graph.Basic

/-!
# Names of copies

A copy of `Attack` is named `Attack_copy`, a copy of that `Attack_copy2`, and so on. The series of a
name is told from its suffix, and the first free member of the series from the suffix on is taken.
The digits of a suffix may come from any script, and a line feed at the very end of a name is not
part of it.
-/

namespace BehaviorTree

open BehaviorTree.Text

/-- The suffix of copies. -/
def copySuffix : List Char := "_copy".toList

/-- A name split into the base of its series and the digits behind the suffix, if it is the name of
a copy. The base is not empty and holds no line feed. -/
def splitCopy? (cs : List Char) : Option (List Char × List Char) :=
  let line := dropFinalNewline cs
  let digits := (line.reverse.takeWhile isDigit).reverse
  let head := line.take (line.length - digits.length)
  let base := head.take (head.length - copySuffix.length)
  if copySuffix.isSuffixOf head && !base.isEmpty && !base.contains '\n' then some (base, digits)
  else none

/-- A member of the series of a base; the first has no number. -/
def copyName (base : String) (member : Nat) : Except Fault String :=
  if member ≤ 1 then .ok (base ++ "_copy")
  else match ofNat? member with
    | some digits => .ok (base ++ "_copy" ++ digits)
    | none => .error .integerTooLong

/-- The first member of a series, from a given one on, that is not taken. A taken member is struck
off, since no later member has its name. -/
def firstFree (base : String) (member : Nat) (taken : List String) : Except Fault String :=
  match copyName base member with
  | .error fault => .error fault
  | .ok name =>
    if name ∈ taken then firstFree base (member + 1) (taken.erase name) else .ok name
termination_by taken.length
decreasing_by
  have := List.length_erase_of_mem ‹name ∈ taken›
  have := List.length_pos_of_mem ‹name ∈ taken›
  omega

/-- The base of the series that the copies of a name belong to, and the first member to try. -/
def copySeries (name : String) : Except Fault (String × Nat) :=
  match splitCopy? name.toList with
  | none => .ok (name, 1)
  | some (base, []) => .ok (String.ofList base, 2)
  | some (base, digits) =>
    match allDigits? digit? digits with
    | none => .ok (String.ofList base, 2)
    | some values =>
      match natOfDigits values with
      | .ok n => .ok (String.ofList base, n + 1)
      | .error (.tooLong count) => .error (.numeralTooLong count)
      | .error .malformed => .ok (String.ofList base, 2)

/-- The name that a copy of a node of the given name gets. -/
def Graph.uniqueCopyName (g : Graph) (name : String) : Except Fault String := do
  let (base, member) ← copySeries name
  firstFree base member (g.nodes.map (·.name))

/-! ### Checks -/

example : copySeries "Attack" = .ok ("Attack", 1) := by decide
example : copySeries "Attack_copy" = .ok ("Attack", 2) := by decide
example : copySeries "Attack_copy_copy07" = .ok ("Attack_copy", 8) := by decide
example : copySeries "_copy3" = .ok ("_copy3", 1) := by decide
example : firstFree "a" 1 ["a_copy2", "a_copy"] = .ok "a_copy3" := by decide +kernel

end BehaviorTree
