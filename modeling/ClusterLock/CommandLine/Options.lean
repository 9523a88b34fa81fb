/-
  Options on a command line. A word is an option by its long name after two hyphens or by its
  letter after one; a value stands in the same word or is the next word, and no option is given
  twice. An option that waits for its value is settled when the next option comes or at the end.
-/
namespace ClusterLock

/-- Why a command line is not accepted, or what it asks for instead of being run. -/
inductive UsageError
  | invalidSubcommand
  | unknownArgument
  | missingRequired
  | missingSubcommand
  | conflict
  | missingValue
  | tooManyValues
  | help
  | version
  | helpOnNothing
deriving DecidableEq, Repr

/-- Asking for help or for the version is no error. -/
def UsageError.exitCode : UsageError → Nat
  | help | version => 0
  | _ => 2

/-- What an option does when it is met. -/
inductive OptionKind
  | value
  | flag
  | help
  | version
deriving DecidableEq, Repr

structure OptionSpec (ι : Type) where
  id : ι
  long : String
  letter : Option Char := none
  kind : OptionKind := .value

/-- A word by its form. -/
inductive WordForm
  | escape
  | long (name : String) (value : Option String)
  | letters (cs : List Char)
  | plain
deriving DecidableEq, Repr

/-- Cuts at the first equals sign. -/
def cutAtEquals (cs : List Char) : List Char × Option (List Char) :=
  match cs.span (· ≠ '=') with
  | (name, _ :: value) => (name, some value)
  | (name, []) => (name, none)

def WordForm.of (word : String) : WordForm :=
  match word.toList with
  | ['-', '-'] => .escape
  | '-' :: '-' :: cs =>
    let (name, value) := cutAtEquals cs
    .long (String.ofList name) (value.map String.ofList)
  | '-' :: c :: cs => .letters (c :: cs)
  | _ => .plain

/-- The options met so far. -/
structure Given (ι : Type) where
  /-- The options with their values, in the order in which they were settled. -/
  settled : List (ι × String) := []
  /-- The option met last, if it is not settled: its value may still be to come. -/
  pending : Option (ι × Option String) := none

namespace Given

variable {ι : Type} [DecidableEq ι]

/-- Whether the next plain word is the value of an option. -/
def awaits (g : Given ι) : Option ι :=
  match g.pending with
  | some (id, none) => some id
  | _ => none

def value? (g : Given ι) (id : ι) : Option String := g.settled.lookup id

def has (g : Given ι) (id : ι) : Bool := (g.value? id).isSome

/-- Adds an option, which must not be there yet. -/
def add (g : Given ι) (id : ι) (v : String) : Except UsageError (Given ι) :=
  if g.has id then .error .conflict else .ok { g with settled := g.settled ++ [(id, v)] }

/-- Settles the option met last. -/
def settle (g : Given ι) : Except UsageError (Given ι) :=
  match g.pending with
  | none => .ok g
  | some (_, none) => .error .missingValue
  | some (id, some v) => { g with pending := none }.add id v

/-- Meets an option, perhaps with a value in the same word. -/
def meet (g : Given ι) (spec : OptionSpec ι) (v : Option String) :
    Except UsageError (Given ι) := do
  match spec.kind, v with
  | .value, some v => (← g.settle).add spec.id v
  | .value, none => pure { ← g.settle with pending := some (spec.id, none) }
  | _, some _ => .error .tooManyValues
  | .flag, none => (← g.settle).add spec.id ""
  | .help, none => let _ ← g.settle; .error .help
  | .version, none => let _ ← g.settle; .error .version

/-- Meets the options whose letters stand in one word. -/
def meetLetters (specs : List (OptionSpec ι)) : List Char → Given ι → Except UsageError (Given ι)
  | [], g => .ok g
  | c :: cs, g =>
    match specs.find? (·.letter == some c) with
    | none => .error .unknownArgument
    | some spec =>
      if spec.kind = .value then
        match cs with
        | [] => g.meet spec none
        | '=' :: v => g.meet spec (some (String.ofList v))
        | v => g.meet spec (some (String.ofList v))
      else do meetLetters specs cs (← g.meet spec none)

end Given

/-- Where the options of a command end. -/
inductive Stop
  | atEnd
  | atSubcommand (name : String) (rest : List String)

variable {ι : Type} [DecidableEq ι]

/-- The options up to the first of the given subcommands or to the end. A plain word that
belongs to no option is an error, and so is one after two hyphens. -/
def readOptions (specs : List (OptionSpec ι)) (subcommands : List String) :
    List String → Bool → Given ι → Except UsageError (Given ι × Stop)
  | [], _, g => .ok (g, .atEnd)
  | word :: words, escaped, g =>
    let stray : UsageError :=
      if subcommands.isEmpty ∨ (escaped ∧ word ∈ subcommands) then .unknownArgument
      else .invalidSubcommand
    if escaped then .error stray
    else if g.awaits.isNone ∧ word ∈ subcommands then .ok (g, .atSubcommand word words)
    else match WordForm.of word with
      | .escape => readOptions specs subcommands words true g
      | .long name v =>
        match specs.find? (·.long == name) with
        | none => .error .unknownArgument
        | some spec => do readOptions specs subcommands words false (← g.meet spec v)
      | .letters cs => do
        readOptions specs subcommands words false (← g.meetLetters specs cs)
      | .plain =>
        match g.awaits with
        | some id =>
          readOptions specs subcommands words false { g with pending := some (id, some word) }
        | none => .error stray

end ClusterLock
