import ClusterLock.Json.Draft
import ClusterLock.Text.Quoted

/-
  Reading drafts as values of a wanted shape. A reader takes a draft and answers a value or the
  first problem in the order of the text. `Fields` describes a structure with declared fields:
  it is read from an object with each field once, or from an array with the fields in order.
-/
namespace ClusterLock

/-- The text of a float in a message: the fewest digits that read back, with a point; very
small and very large ones have an exponent of at least two digits with a sign. -/
def floatMessage (negative : Bool) : Binary64 → String
  | .infinite => if negative then "-inf" else "inf"
  | .finite m p =>
    let d := Binary64.shortest m p
    let ds := digitsOfNat d.digits
    let point := d.scale + ds.length
    let sign := if negative then "-" else ""
    if d.digits = 0 then sign ++ "0.0"
    else if -4 ≤ point - 1 ∧ point - 1 < 16 then
      let text := d.positional
      sign ++ (if 0 ≤ d.scale then text ++ ".0" else text)
    else
      let e := point - 1
      let es := digitsOfNat e.natAbs
      let es := if es.length < 2 then '0' :: es else es
      let body := match ds with
        | [c] => [c]
        | c :: r => c :: '.' :: r
        | [] => []
      sign ++ String.ofList (body ++ 'e' :: (if e < 0 then '-' else '+') :: es)

def Numeral.Reading.describe : Numeral.Reading → String
  | .integer n => "integer " ++ graved (toString n)
  | .float negative m => "floating point " ++ graved (floatMessage negative m)

namespace Draft

/-- What a draft is said to be when it is not what is wanted. -/
def describe : Draft → Except Fault String
  | null => .ok "null"
  | bool b => .ok ("boolean " ++ graved (if b then "true" else "false"))
  | number n => match n.reading? with
    | some r => .ok r.describe
    | none => .error .numberOutOfRange
  | text s => s.map fun s => "string " ++ quoted s
  | array _ _ => .ok "sequence"
  | object _ _ => .ok "map"
  | broken flaw => .error flaw.strict

/-- The problem of a draft that is not what is wanted. -/
def unexpected (wanted : String) (d : Draft) : ReadError :=
  match d.describe with
  | .ok found => .mismatch (.invalidType found wanted)
  | .error f => .fault f

end Draft

/-- A way to read drafts as values. -/
abbrev Reader (α : Type) := Draft → Except ReadError α

namespace Reader

/-- Passes over a value. -/
def skip : Reader Unit := fun d =>
  match d.skim with
  | some f => .error (.fault f)
  | none => .ok ()

def text : Reader String
  | .text (.ok s) => .ok s
  | d => .error (d.unexpected "a string")

def bool : Reader Bool
  | .bool b => .ok b
  | d => .error (d.unexpected "a boolean")

/-- Nothing for null. -/
def optional {α : Type} (read : Reader α) : Reader (Option α)
  | .null => .ok none
  | d => (read d).map some

/-- The items of an array from one of them on. -/
def items {α : Type} (read : Reader α) : List Draft → Option Flaw → Except ReadError (List α)
  | [], none => .ok []
  | [], some flaw => .error (.fault flaw.strict)
  | d :: ds, stop => do
    let v ← read d
    let vs ← items read ds stop
    pure (v :: vs)

def list {α : Type} (read : Reader α) : Reader (List α)
  | .array ds stop => items read ds stop
  | d => .error (d.unexpected "a sequence")

/-- The members of an object in order, each taken into account by `visit`. -/
def members {σ : Type} (visit : σ → String → Draft → Except ReadError σ) :
    List (Written × Draft) → Option Flaw → σ → Except ReadError σ
  | [], none, s => .ok s
  | [], some flaw, _ => .error (.fault flaw.strict)
  | (.error f, _) :: _, _, _ => .error (.fault f)
  | (.ok key, d) :: ms, stop, s => do
    let s ← visit s key d
    members visit ms stop s

/-- An object, whose kind is called `wanted` when something else is found. -/
def object {σ : Type} (wanted : String) (visit : σ → String → Draft → Except ReadError σ)
    (s : σ) : Reader σ
  | .object ms stop => members visit ms stop s
  | d => .error (d.unexpected wanted)

end Reader

/-- A declared field: how it is read, and its value when it is not there, if it may be missing. -/
structure FieldShape (α : Type) where
  name : String
  read : Reader α
  absent : Option α := none

/-- The values of fields by name, in the order in which they were read. -/
abbrev Filled (α : Type) := List (String × α)

namespace FieldShape

variable {α : Type}

/-- Takes a member into account: a declared field must not be there twice, and other members
are passed over. -/
def visit (shapes : List (FieldShape α)) (filled : Filled α) (key : String) (d : Draft) :
    Except ReadError (Filled α) :=
  match shapes.find? (·.name == key) with
  | none => (Reader.skip d).map fun _ => filled
  | some shape =>
    if (filled.lookup key).isSome then .error (.mismatch (.duplicateField key))
    else (shape.read d).map fun v => filled ++ [(key, v)]

/-- The fields in the order of declaration, those that may be missing filled in. -/
def gather (filled : Filled α) : List (FieldShape α) → Except ReadError (List α)
  | [] => .ok []
  | shape :: shapes =>
    match filled.lookup shape.name, shape.absent with
    | some v, _ => (gather filled shapes).map (v :: ·)
    | none, some v => (gather filled shapes).map (v :: ·)
    | none, none => .error (.mismatch (.missingField shape.name))

/-- The fault of an array that goes on after the last field. -/
def surplus : List Draft → Option Flaw → Option Fault
  | .broken flaw :: _, _ =>
    some (if flaw.strict = .trailingComma then .trailingComma else .trailingCharacters)
  | _ :: _, _ => some .trailingCharacters
  | [], some flaw =>
    some (if flaw.strict = .endOfList then .endOfList else .trailingCharacters)
  | [], none => none

/-- The fields in the order of declaration from the items of an array. `n` of them have been
read; `wanted` is what the length should have been. -/
def inOrder (wanted : String) (stop : Option Flaw) :
    Nat → List (FieldShape α) → List Draft → Except ReadError (List α)
  | _, [], ds =>
    match surplus ds stop with
    | some f => .error (.fault f)
    | none => .ok []
  | n, shape :: shapes, d :: ds => do
    let v ← shape.read d
    let vs ← inOrder wanted stop (n + 1) shapes ds
    pure (v :: vs)
  | n, shape :: shapes, [] =>
    match stop, shape.absent with
    | some flaw, _ => .error (.fault flaw.strict)
    | none, some v => (inOrder wanted none n shapes []).map (v :: ·)
    | none, none => .error (.mismatch (.invalidLength n wanted))

/-- The fields of a structure with the given title, in the order of declaration. -/
def readAll (title : String) (shapes : List (FieldShape α)) : Reader (List α)
  | .object ms stop => do
    let filled ← Reader.members (visit shapes) ms stop []
    gather filled shapes
  | .array ds stop => inOrder s!"struct {title} with {shapes.length} elements" stop 0 shapes ds
  | d => .error (d.unexpected ("struct " ++ title))

end FieldShape

/-- Reads a text that holds one value and nothing else. -/
def Reader.run {α : Type} (read : Reader α) (cs : List Char) : Except ReadError α := do
  let (d, rest) := Draft.ofText cs
  let v ← read d
  match rest with
  | none => pure v
  | some rest =>
    if (skipBlanks rest).isEmpty then pure v else .error (.fault .trailingCharacters)

/-- A text that holds one value of any shape. -/
def Json.read (cs : List Char) : Except ReadError Json :=
  Reader.run (fun d => (d.whole nestingLimit).mapError .fault) cs

end ClusterLock
