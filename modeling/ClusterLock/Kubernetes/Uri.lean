/-
  Addresses, and the paths that lead to API objects. An address has a scheme and an authority, or
  only one of them and a path; its fragment is dropped. What may stand where is laid down by
  character classes. The path of objects is made of their group, version and plural.
-/
namespace ClusterLock

/-- The characters that a path may hold. -/
def isPathChar (c : Char) : Bool :=
  let n := c.toNat
  0x7f ≤ n || n = 0x21 || (0x24 ≤ n && n ≤ 0x3b) || n = 0x3d || (0x40 ≤ n && n ≤ 0x5f) ||
    (0x61 ≤ n && n ≤ 0x7a) || n = 0x7c || n = 0x7e || c = '"' || c = '\x7b' || c = '\x7d'

/-- The characters that may stand between the question mark and the hash sign. -/
def isQueryChar (c : Char) : Bool :=
  let n := c.toNat
  n = 0x21 || (0x24 ≤ n && n ≤ 0x3b) || n = 0x3d || 0x3f ≤ n

/-- A target in parts: the path, and the query with its question mark. -/
def splitTarget (target : List Char) : List Char × List Char :=
  let (path, rest) := target.span fun c => c ≠ '?' && c ≠ '#'
  (path, rest.takeWhile (· ≠ '#'))

/-- The path and the query of a target, if all their characters may stand where they stand. -/
def readTarget? (target : List Char) : Option (List Char × List Char) :=
  let (path, query) := splitTarget target
  if path.all isPathChar && query.tail.all isQueryChar then some (path, query) else none

structure Uri where
  scheme : Option String
  authority : List Char
  path : List Char
  query : List Char
deriving DecidableEq, Repr

namespace Uri

/-- What the text of an address may take up, in bytes. -/
def maxLength : Nat := 65534

def maxSchemeLength : Nat := 64

def isSchemeChar (c : Char) : Bool := c.isAlphanum || c ∈ ['+', '-', '.', '~']

/-- The characters of an authority, those that structure it and the percent sign left out. -/
def isAuthorityChar (c : Char) : Bool :=
  c.isAlphanum || c ∈ ['!', '$', '&', '\'', '(', ')', '*', '+', ',', '-', '.', ';', '=', '_', '~']

/-- The characters that end an authority. -/
def endsAuthority (c : Char) : Bool := c ∈ ['/', '?', '#']

/-- What has been seen of an authority. -/
structure Scan where
  /-- Colons that may stand before a port. -/
  colons : Nat := 0
  opened : Bool := false
  closed : Bool := false
  /-- A percent sign that may stand in the name of a host. -/
  percent : Bool := false
  last : Option Char := none

/-- What comes before an at sign is about a user and lifts the limits on the host's name; an
address in brackets has colons of its own. -/
def Scan.step (s : Scan) (c : Char) : Option Scan :=
  let s := { s with last := some c }
  match c with
  | ':' => if s.colons ≥ 8 then none else some { s with colons := s.colons + 1 }
  | '[' => if s.percent ∨ s.opened then none else some { s with opened := true }
  | ']' =>
    if !s.opened ∨ s.closed then none
    else some { s with closed := true, colons := 0, percent := false }
  | '@' => some { s with colons := 0, percent := false }
  | '%' => some { s with percent := true }
  | c => if isAuthorityChar c then some s else none

/-- Whether an authority may end here. -/
def Scan.mayEnd (s : Scan) : Bool :=
  s.opened == s.closed && s.colons ≤ 1 && s.last != some '@' && !s.percent

/-- The authority at the front, and the rest. -/
def splitAuthority? (cs : List Char) : Option (List Char × List Char) := do
  let (authority, rest) := cs.span fun c => !endsAuthority c
  let scan ← authority.foldlM Scan.step {}
  if scan.mayEnd then some (authority, rest) else none

/-- The scheme at the front, and the rest. Two schemes have their names in any case. -/
def splitScheme (cs : List Char) : Option String × List Char :=
  let (name, rest) := cs.span isSchemeChar
  match rest with
  | ':' :: '/' :: '/' :: rest =>
    let lower := String.ofList (name.map Char.toLower)
    if lower ∈ ["http", "https"] then (some lower, rest)
    else if cs.length ≤ 3 then (none, cs)
    else (some (String.ofList name), rest)
  | _ => (none, cs)

/-- The address that a text spells. -/
def read? (s : String) : Option Uri :=
  let cs := s.toList
  if s.isEmpty ∨ s.utf8ByteSize > maxLength then none
  else if cs = ['*'] then some ⟨none, [], cs, []⟩
  else if cs.head? = some '/' then
    (readTarget? cs).map fun (path, query) => ⟨none, [], path, query⟩
  else do
    let (scheme, rest) := splitScheme cs
    let (authority, rest) ← splitAuthority? rest
    match scheme with
    | none => if rest.isEmpty then some ⟨none, authority, [], []⟩ else none
    | some name =>
      if authority.isEmpty ∨ name.length > maxSchemeLength then none
      else (readTarget? rest).map fun (path, query) => ⟨scheme, authority, path, query⟩

/-- The address as a text. One with a scheme has a path. -/
def text (u : Uri) : String :=
  let path := if u.scheme.isSome ∧ u.path.isEmpty then ['/'] else u.path
  (u.scheme.map (· ++ "://")).getD "" ++ String.ofList (u.authority ++ path ++ u.query)

end Uri

/-- A kind of object. The core group has the empty name. -/
structure Resource where
  group : String
  version : String
  kind : String
  plural : String
deriving DecidableEq, Repr

namespace Resource

/-- The version, after its group if that has a name. -/
def apiVersion (r : Resource) : String :=
  if r.group.isEmpty then r.version else r.group ++ "/" ++ r.version

/-- The path of all objects of the kind, in one namespace if one is given. -/
def path (r : Resource) (ns : Option String) : String :=
  let root := if r.group.isEmpty then "/api/" else "/apis/"
  let place := match ns with
    | some ns => "namespaces/" ++ ns ++ "/"
    | none => ""
  root ++ r.apiVersion ++ "/" ++ place ++ r.plural

end Resource

def configMaps : Resource := ⟨"", "v1", "ConfigMap", "configmaps"⟩

end ClusterLock
