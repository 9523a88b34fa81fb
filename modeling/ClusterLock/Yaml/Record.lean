import ClusterLock.Yaml.Value

/-
  Records in YAML values. A record is a table with its members under their names, or the list of
  all its members in order; a member that is absent is null.
-/
namespace ClusterLock.Yaml

/-- Reads a value of some type, if it has the shape for it. -/
abbrev Shape (α : Type) := Value → Option α

namespace Shape

variable {α : Type}

def text : Shape String
  | .text s => some s
  | _ => none

def truth : Shape Bool
  | .bool b => some b
  | _ => none

/-- What may be absent. -/
def orAbsent (shape : Shape α) : Shape (Option α)
  | .null => some none
  | v => (shape v).map some

/-- A list of items of one shape. -/
def listOf (shape : Shape α) : Shape (List α)
  | .list items => items.mapM shape
  | _ => none

/-- A list that is empty if it is absent. -/
def listOrAbsent (shape : Shape α) : Shape (List α)
  | .null => some []
  | v => listOf shape v

end Shape

/-- The value under a name. -/
def Value.member (name : String) (entries : List (Value × Value)) : Value :=
  match entries.find? fun e => e.1.same (.text name) with
  | some e => e.2
  | none => .null

/-- The members of a record in the order of their names. -/
def members? (names : List String) : Value → Option (List Value)
  | .table entries => some (names.map fun name => Value.member name entries)
  | .list items => if items.length = names.length then some items else none
  | .null => some (names.map fun _ => .null)
  | _ => none

end ClusterLock.Yaml
