import ClusterLock.Config.Setting

/-
  TOML values and the tables of a document while it is read. A table knows how it came to be,
  because only some tables may be added to later.
-/
namespace ClusterLock.Toml

/-- How a table came to be: as a part of a longer path, by its own header, or by a key with
points. -/
inductive Origin
  | implied | header | dotted
deriving DecidableEq, Repr

inductive Value
  | scalar (s : Setting)
  | array (items : List Value)
  /-- A table between braces, which is complete. -/
  | inline (entries : List (String × Value))
  | table (origin : Origin) (entries : List (String × Value))
  /-- The tables of one name, the last first. -/
  | tables (reversed : List (List (String × Value)))

abbrev Entries := List (String × Value)

def put (key : String) (v : Value) (es : Entries) : Entries :=
  if (es.lookup key).isSome then es.map fun e => if e.1 = key then (key, v) else e
  else es ++ [(key, v)]

/-- The entries of a table in which a path goes on, and how to put changed ones back. `dotted`
says that the path is a key with points, which may not go into a table with a header. -/
def into (dotted : Bool) (key : String) (es : Entries) : Option (Entries × (Entries → Value)) :=
  match es.lookup key with
  | none => some ([], .table (if dotted then .dotted else .implied))
  | some (.table origin inner) =>
    if dotted ∧ origin = .header then none else some (inner, .table origin)
  | some (.tables (last :: earlier)) =>
    if dotted then none else some (last, fun es => .tables (es :: earlier))
  | _ => none

/-- Changes the entries at the end of a path. -/
def descend (dotted : Bool) (change : Entries → Option Entries) :
    List String → Entries → Option Entries
  | [], es => change es
  | key :: path, es => do
    let (inner, back) ← into dotted key es
    let inner ← descend dotted change path inner
    pure (put key (back inner) es)

/-- Adds an entry that is not there yet. -/
def addNew (key : String) (v : Value) (es : Entries) : Option Entries :=
  if (es.lookup key).isSome then none else some (es ++ [(key, v)])

/-- Opens the table of a header, which must not have been opened before. -/
def openTable (key : String) (es : Entries) : Option Entries :=
  match es.lookup key with
  | none => some (put key (.table .header []) es)
  | some (.table .implied inner) => some (put key (.table .header inner) es)
  | _ => none

/-- Begins one more table of a name. -/
def openNext (key : String) (es : Entries) : Option Entries :=
  match es.lookup key with
  | none => some (put key (.tables [[]]) es)
  | some (.tables ts) => some (put key (.tables ([] :: ts)) es)
  | _ => none

mutual

/-- A value as a setting. -/
def Value.setting : Value → Setting
  | .scalar s => s
  | .array _ => .list
  | .inline es => .table (settings es)
  | .table _ es => .table (settings es)
  | .tables _ => .list

def settings : List (String × Value) → List (String × Setting)
  | [] => []
  | (k, v) :: es => (k, v.setting) :: settings es

end

end ClusterLock.Toml
