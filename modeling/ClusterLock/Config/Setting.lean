import ClusterLock.Number.Binary64
import ClusterLock.Logging.Settings

/-
  Settings as a tree. Tables are merged key by key and anything else takes the place of what
  was there; a path leads through tables, which are made on the way. `at?_assignAt` says that
  what is put at a path is found there.
-/
namespace ClusterLock

/-- A setting. Nothing is ever read from inside a list, so a list keeps no items. -/
inductive Setting
  | nil
  | bool (b : Bool)
  | int (n : Int)
  | real (x : Real64)
  | text (s : String)
  | list
  | table (entries : List (String × Setting))
deriving Repr

namespace Setting

instance : Inhabited Setting := ⟨nil⟩

/-- The entries of a table; anything else has none. -/
def entries : Setting → List (String × Setting)
  | table es => es
  | _ => []

end Setting

/-- Puts a value under a key: in place of the one that is there, or at the end. -/
def putEntry (key : String) (v : Setting) : List (String × Setting) → List (String × Setting)
  | [] => [(key, v)]
  | (k, w) :: es => if k = key then (key, v) :: es else (k, w) :: putEntry key v es

@[simp] theorem lookup_putEntry_self (key : String) (v : Setting) (es : List (String × Setting)) :
    (putEntry key v es).lookup key = some v := by
  induction es with
  | nil => simp [putEntry]
  | cons e es ih =>
    obtain ⟨k, w⟩ := e
    unfold putEntry
    split
    · simp
    · rename_i h
      have hb : (key == k) = false := by simpa using fun h' => h h'.symm
      simp [List.lookup_cons, hb, ih]

theorem lookup_putEntry_of_ne {key k : String} (h : k ≠ key) (v : Setting)
    (es : List (String × Setting)) : (putEntry key v es).lookup k = es.lookup k := by
  induction es with
  | nil =>
    have hb : (k == key) = false := by simpa using h
    simp [putEntry, List.lookup_cons, hb]
  | cons e es ih =>
    obtain ⟨a, w⟩ := e
    unfold putEntry
    split
    · rename_i ha
      have hb : (k == key) = false := by simpa using h
      simp [List.lookup_cons, ha, hb]
    · simp [List.lookup_cons, ih]

mutual

/-- What becomes of an old setting when a new one is put in its place. -/
def Setting.replacing : Setting → Setting → Setting
  | .table es, old => .table (mergeEntries es old.entries)
  | v, _ => v

/-- Merges entries one by one into those that are there. -/
def mergeEntries : List (String × Setting) → List (String × Setting) → List (String × Setting)
  | [], base => base
  | (k, v) :: es, base =>
    mergeEntries es (putEntry k (v.replacing ((base.lookup k).getD .nil)) base)

end

/-- A step of a path: into a table, or into a list. -/
inductive PathStep
  | key (name : String)
  | index
deriving DecidableEq, Repr

namespace Setting

/-- Puts a setting at a path. -/
def assignAt (v : Setting) : List PathStep → Setting → Setting
  | [], old => v.replacing old
  | .key k :: path, old =>
    .table (putEntry k (assignAt v path ((old.entries.lookup k).getD nil)) old.entries)
  | .index :: _, _ => list

/-- The setting that a chain of keys leads to. -/
def at? : List String → Setting → Option Setting
  | [], s => some s
  | k :: path, s => (s.entries.lookup k).bind (at? path)

theorem at?_assignAt (v : Setting) (keys : List String) (old : Setting)
    (h : ∀ es, v ≠ table es) : at? keys (assignAt v (keys.map .key) old) = some v := by
  induction keys generalizing old with
  | nil =>
    cases v with
    | table es => exact absurd rfl (h es)
    | _ => simp [assignAt, replacing, at?]
  | cons k keys ih => simp [assignAt, at?, entries, ih]

/-- A setting as a text. Numbers have no exponent; lists and tables are no texts. -/
def text? : Setting → Option String
  | text s => some s
  | bool b => some (if b then "true" else "false")
  | int n => some (toString n)
  | real x => some x.toText
  | _ => none

/-- A setting as a truth value: numbers are true unless zero, and texts by a few words. -/
def bool? : Setting → Option Bool
  | bool b => some b
  | int n => some (n ≠ 0)
  | real x => some (!x.isZero)
  | text s =>
    let word := lowerAscii s
    if word ∈ ["1", "true", "on", "yes"] then some true
    else if word ∈ ["0", "false", "off", "no"] then some false
    else none
  | _ => none

end Setting

/-- The characters of a key in a path. -/
def isKeyChar (c : Char) : Bool := c.isAlphanum || c = '_' || c = '-'

/-- An index between brackets, after the opening one, and the rest. -/
def skipIndex? (cs : List Char) : Option (List Char) :=
  let cs := cs.dropWhile fun c => c = ' ' || c = '\t'
  let ds := match cs with
    | '-' :: r => r
    | r => r
  let (digits, rest) := ds.span Char.isDigit
  match rest.dropWhile fun c => c = ' ' || c = '\t' with
  | ']' :: r => if digits.isEmpty then none else some r
  | _ => none

/-- The steps after the first key of a path. The fuel bounds their number. -/
def pathSteps? : Nat → List Char → Option (List PathStep)
  | _, [] => some []
  | 0, _ => none
  | fuel + 1, '.' :: cs =>
    let (name, rest) := cs.span isKeyChar
    if name.isEmpty then none
    else (pathSteps? fuel rest).map (.key (String.ofList name) :: ·)
  | fuel + 1, '[' :: cs => do
    let rest ← skipIndex? cs
    (pathSteps? fuel rest).map (.index :: ·)
  | _, _ => none

/-- The path that a key spells: names between points, and indices between brackets. A key that
spells none stands for itself. -/
def pathOfKey (key : String) : List PathStep :=
  let cs := key.toList
  (pathSteps? (cs.length + 1) ('.' :: cs)).getD [.key key]

/-- Adds the entries of a source to the settings, each at the path that its key spells. -/
def addSource (entries : List (String × Setting)) (settings : Setting) : Setting :=
  entries.foldl (fun s (k, v) => v.assignAt (pathOfKey k) s) settings

end ClusterLock
