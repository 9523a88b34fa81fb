import ClusterLock.Config.Ini
import ClusterLock.FileTree
import ClusterLock.Json.Shape
import ClusterLock.Toml.Document
import ClusterLock.Yaml.Document

/-
  Files with settings. The format goes by the extension. Every format gives a table of settings
  or fails; what the table holds depends on the values alone.
-/
namespace ClusterLock

mutual

/-- A JSON value as a setting. -/
def Setting.ofJson : Json → Setting
  | .null => .nil
  | .bool b => .bool b
  | .number n =>
    match n.reading? with
    | some (.integer i) => .int i
    | some (.float negative m) => .real (.signed negative m)
    | none => .nil
  | .text s => .text s
  | .array _ => .list
  | .object ms => .table (settingsOfMembers ms [])

/-- Members as entries, the last of a name only. -/
def settingsOfMembers :
    List (String × Json) → List (String × Setting) → List (String × Setting)
  | [], es => es
  | (k, v) :: ms, es => settingsOfMembers ms (putEntry k (Setting.ofJson v) es)

end

/-- A YAML value as the name of a setting. -/
def keyOfYaml? : Yaml.Value → Option String
  | .text s => some s
  | .int n => some (toString n)
  | .bool b => some (if b then "true" else "false")
  | .real s => some s
  | _ => none

mutual

/-- A YAML value as a setting. A number must be spelt with digits. -/
def Setting.ofYaml? : Yaml.Value → Option Setting
  | .null => some .nil
  | .bool b => some (.bool b)
  | .int n => some (.int n)
  | .real s => (Real64.read? s.toList).map .real
  | .text s => some (.text s)
  | .list items => if allSettings items then some .list else none
  | .table entries => (settingsOfEntries entries []).map .table

def allSettings : List Yaml.Value → Bool
  | [] => true
  | v :: items => (Setting.ofYaml? v).isSome && allSettings items

/-- Entries whose keys are names, the last of a name only. -/
def settingsOfEntries :
    List (Yaml.Value × Yaml.Value) → List (String × Setting) → Option (List (String × Setting))
  | [], es => some es
  | (k, v) :: entries, es => do
    let key ← keyOfYaml? k
    let value ← Setting.ofYaml? v
    settingsOfEntries entries (putEntry key value es)

end

inductive Format
  | toml | json | yaml | ini
deriving DecidableEq, Repr

namespace Format

/-- The extensions of each format, in the order in which they are tried. -/
def extensions : List (String × Format) :=
  [("toml", toml), ("json", json), ("yaml", yaml), ("yml", yaml), ("ini", ini)]

def readJson (cs : List Char) : Option (List (String × Setting)) :=
  match Json.read cs with
  | .ok (.object ms) => some (settingsOfMembers ms [])
  | _ => none

/-- One document that is a table, or no document. -/
def readYaml (cs : List Char) : Option (List (String × Setting)) :=
  match Yaml.documents cs with
  | .ok [] => some []
  | .ok [.table entries] => settingsOfEntries entries []
  | _ => none

/-- The settings of a text. -/
def read : Format → List Char → Option (List (String × Setting))
  | toml, cs => Toml.read cs
  | json, cs => readJson cs
  | yaml, cs => readYaml cs
  | ini, cs => Ini.read cs

end Format

/-- The text of a file without the mark of its byte order. -/
def Content.fileText (c : Content) : List Char :=
  match c.readLossy with
  | '\ufeff' :: cs => cs
  | cs => cs

/-- The file with settings that a name stands for: the file of that name if it has a known
extension, else the first that adds one to the name. -/
def findSettings (t : FileTree) (name : String) : Option (Format × Content) :=
  match t.read? name with
  | some c => do
    let format ← Format.extensions.lookup ((extension? name).getD "")
    pure (format, c)
  | none =>
    if (fileName? name).isNone then none
    else Format.extensions.findSome? fun (ext, format) =>
      (t.read? (trimPath name ++ "." ++ ext)).map fun c => (format, c)

/-- The settings in the file that a name stands for; no file means no settings. Nothing if the
file is malformed. -/
def fileEntries (t : FileTree) (name : String) : Option (List (String × Setting)) :=
  match findSettings t name with
  | none => some []
  | some (format, c) => format.read c.fileText

end ClusterLock
