import BehaviorTree.Document.Coercion
import BehaviorTree.Fault
import BehaviorTree.Json.Writer

/-!
# Libraries of documents

The schema of documents says which fields there are and of which types. How a single value becomes
one of a type, what a timestamp is written as and how a document value is printed is up to the
library that the schema is written with. A `Library` is what is used of it.

* `Library.standard`: the library as it is.
* `Library.plain`: the library as it is for texts without halves of surrogate pairs.
-/

namespace BehaviorTree

/-- What the schema of documents takes from the library it is written with. -/
structure Library where
  /-- The integer that a value stands for. -/
  integer : Json → Except ValueProblem Int
  /-- The double that a value stands for. -/
  double : Json → Except ValueProblem Float
  /-- The text that a value stands for. -/
  text : Json → Except ValueProblem String
  /-- The timestamp that a value stands for. -/
  timestamp : Json → Except ValueProblem Timestamp
  /-- The text of a timestamp. -/
  time : Timestamp → String
  /-- The text of a value, compact or with a width of indentation. -/
  print : Json → Option Nat → Except Fault String

namespace Library

/-- The library as it is for texts without halves of surrogate pairs, which it prints all. -/
def plain : Library where
  integer := Coercion.integer
  double := Coercion.double
  text := Coercion.text
  timestamp := Coercion.timestamp
  time := Timestamp.document
  print value indent := .ok (value.render indent)

/-- The library as it is. It does not print a text with half a surrogate pair, which `half` stands
for. -/
def standard (half : Char) : Library :=
  { plain with
    print := fun value indent =>
      if value.holds half then .error .unencodableText else plain.print value indent }

end Library
end BehaviorTree
