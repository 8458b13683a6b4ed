import BehaviorTree.Keyed

/-!
# Command-line arguments

Arguments are options and operands. A long option starts with two dashes and has its value behind an
equals sign or in the next argument; short options are single letters behind one dash, which may
stand together, and the rest of the argument or the next argument is the value of the last. Two
dashes alone end the options.

* `OptionForm`: an option that is known.
* `Arguments.read?`: the options and operands of a list of arguments, unless it is not well formed.
-/

namespace BehaviorTree.CommandLine

/-- An option that is known: the key under which it is found, its long and short names, and whether
it takes a value. -/
structure OptionForm where
  key : String
  long : String
  short : Option Char := none
  takesValue : Bool := false
  deriving DecidableEq, Repr

/-- The options that were given, with their values, and the operands. -/
structure Arguments where
  options : List (String × String) := []
  operands : List String := []
  deriving DecidableEq, Repr, Inhabited

namespace Arguments

/-- The value of an option; of several the last counts. -/
def value? (a : Arguments) (key : String) : Option String :=
  Keyed.value? key a.options.reverse

/-- Whether an option was given. -/
def has (a : Arguments) (key : String) : Bool := (a.value? key).isSome

/-- What one argument says: options with their values, and perhaps one whose value is the next
argument. -/
structure Given where
  options : List (String × String)
  awaiting : Option String := none
  deriving DecidableEq, Repr

/-- The long name of an argument, and the value behind its equals sign. -/
def splitLong (cs : List Char) : List Char × Option String :=
  let name := cs.takeWhile (· ≠ '=')
  (name, if name.length < cs.length then some (String.ofList (cs.drop (name.length + 1))) else none)

/-- Reads an argument that starts with two dashes. -/
def readLong? (forms : List OptionForm) (cs : List Char) : Option Given := do
  let (name, value?) := splitLong cs
  let form ← forms.find? fun form => form.long = String.ofList name
  match form.takesValue, value? with
  | true, some value => some { options := [(form.key, value)] }
  | true, none => some { options := [], awaiting := some form.key }
  | false, none => some { options := [(form.key, "")] }
  | false, some _ => none

/-- Reads the letters behind a single dash. -/
def readShort? (forms : List OptionForm) : List Char → Option Given
  | [] => some { options := [] }
  | c :: rest => do
    let form ← forms.find? fun form => form.short = some c
    if form.takesValue then
      if rest.isEmpty then some { options := [], awaiting := some form.key }
      else some { options := [(form.key, String.ofList rest)] }
    else
      let more ← readShort? forms rest
      some { more with options := (form.key, "") :: more.options }

/-- Reads an argument that starts with a dash. -/
def readOption? (forms : List OptionForm) : List Char → Option Given
  | '-' :: '-' :: cs => readLong? forms ('-' :: '-' :: cs)
  | cs => readShort? forms (cs.drop 1)

/-- Whether an argument is an option: it starts with a dash and goes on. -/
def isOption (arg : String) : Bool :=
  match arg.toList with
  | '-' :: _ :: _ => true
  | _ => false

/-- Reads arguments. Options may stand among the operands when `mixed` is set; otherwise the first
operand ends the options. -/
def read? (forms : List OptionForm) (mixed : Bool) : List String → Option Arguments
  | [] => some {}
  | arg :: rest =>
    if arg = "--" then some { operands := rest }
    else if !isOption arg then
      if mixed then
        (read? forms mixed rest).map fun a => { a with operands := arg :: a.operands }
      else some { operands := arg :: rest }
    else
      match readOption? forms arg.toList with
      | none => none
      | some ⟨options, none⟩ =>
        (read? forms mixed rest).map fun a => { a with options := options ++ a.options }
      | some ⟨options, some key⟩ =>
        match rest with
        | [] => none
        | value :: rest =>
          (read? forms mixed rest).map fun a =>
            { a with options := options ++ (key, value) :: a.options }

end Arguments
end BehaviorTree.CommandLine
