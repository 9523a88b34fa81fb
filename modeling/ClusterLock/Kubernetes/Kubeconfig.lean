import ClusterLock.FileTree
import ClusterLock.Kubernetes.Uri
import ClusterLock.Text.Utf16
import ClusterLock.Yaml.Document
import ClusterLock.Yaml.Record

/-
  Kubeconfig files. They name clusters, users and contexts; a context says which cluster to use
  as which user. Several files are read as one, in which the first entry of a name counts
  (`find?_mergeNamed`). What a context leads to is an `Access`.
-/
namespace ClusterLock

/-
  Data in base 64: groups of four letters, the last of which may be filled up with one or two
  signs of equality. The bits that a filled group has too many are zero.
-/
namespace Base64

/-- The six bits that a letter stands for. -/
def letterValue? (c : Char) : Option Nat :=
  if c.isUpper then some (c.toNat - 'A'.toNat)
  else if c.isLower then some (c.toNat - 'a'.toNat + 26)
  else if c.isDigit then some (c.toNat - '0'.toNat + 52)
  else if c = '+' then some 62
  else if c = '/' then some 63
  else none

/-- A letter whose lowest bits, those below `unit`, are zero. -/
def isLetter (unit : Nat) (c : Char) : Bool := (letterValue? c).any (· % unit == 0)

/-- Whether a text is one in base 64. -/
def isEncoded : List Char → Bool
  | [] => true
  | [a, b, '=', '='] => isLetter 1 a && isLetter 16 b
  | [a, b, c, '='] => isLetter 1 a && isLetter 1 b && isLetter 4 c
  | a :: b :: c :: d :: rest => [a, b, c, d].all (isLetter 1) && isEncoded rest
  | _ => false

example : isEncoded "YWJj".toList = true := by decide
example : isEncoded "YWI=".toList = true := by decide
example : isEncoded "YWJ=".toList = false := by decide

end Base64

/-- An entry of a kubeconfig file. -/
structure Named (α : Type) where
  name : String
  entry : Option α
deriving Repr

structure ServerEntry where
  server : Option String
  authorityFile : Option String
  authorityData : Option String
  proxy : Option String
deriving DecidableEq, Repr

/-- What a user is known by. -/
structure UserEntry where
  username : Option String := none
  password : Option String := none
  token : Option String := none
  tokenFile : Option String := none
  /-- The user to act as. -/
  impersonated : Option String := none
  impersonatedGroups : List String := []
deriving DecidableEq, Repr

structure ContextEntry where
  server : String
  user : Option String
  ns : Option String
deriving DecidableEq, Repr

structure Kubeconfig where
  kind : Option String := none
  apiVersion : Option String := none
  servers : List (Named ServerEntry) := []
  users : List (Named UserEntry) := []
  contexts : List (Named ContextEntry) := []
  currentContext : Option String := none
deriving Repr

/-- Why kubeconfig files lead to no cluster. -/
inductive KubeconfigError
  | unreadable (path : String)
  | malformed
  | kindMismatch
  | apiVersionMismatch
  | noCurrentContext
  | unknownContext (name : String)
  | unknownServer (name : String)
  | noAddress
  | badAddress
  | badProxy
  | badAuthority
deriving DecidableEq, Repr

def KubeconfigError.message : KubeconfigError → String
  | unreadable path => "failed to read kubeconfig from '" ++ path ++ "'"
  | malformed => "failed to parse kubeconfig YAML"
  | kindMismatch => "kubeconfigs with mismatching kind cannot be merged"
  | apiVersionMismatch => "kubeconfigs with mismatching api version cannot be merged"
  | noCurrentContext => "failed to determine current context"
  | unknownContext name => "failed to load current context: " ++ name
  | unknownServer name => "failed to load the cluster of context: " ++ name
  | noAddress => "cluster url is missing on selected cluster"
  | badAddress => "failed to parse cluster url"
  | badProxy => "failed to parse proxy url"
  | badAuthority => "failed to load certificate authority"

open Yaml (Shape members?)

/-- Entries of a list under a name each. -/
def Named.shape {α : Type} (entryName : String) (entry : Shape α) : Shape (Named α) := fun v => do
  match ← members? ["name", entryName] v with
  | [name, v] => pure ⟨← Shape.text name, ← Shape.orAbsent entry v⟩
  | _ => none

/-- Extensions are not looked at beyond their names. -/
def extensions : Shape (Option (List (Named Unit))) :=
  .orAbsent (.listOf (Named.shape "extension" fun _ => some ()))

def ServerEntry.shape : Shape ServerEntry := fun v => do
  match ← members? ["server", "insecure-skip-tls-verify", "certificate-authority",
    "certificate-authority-data", "proxy-url", "disable-compression", "tls-server-name",
    "extensions"] v with
  | [server, unverified, file, data, proxy, uncompressed, tlsName, more] =>
    let optional := Shape.orAbsent Shape.text
    let _ ← Shape.orAbsent Shape.truth unverified
    let _ ← Shape.orAbsent Shape.truth uncompressed
    let _ ← optional tlsName
    let _ ← extensions more
    pure ⟨← optional server, ← optional file, ← optional data, ← optional proxy⟩
  | _ => none

def UserEntry.shape : Shape UserEntry := fun v => do
  match ← members? ["username", "password", "token", "tokenFile", "client-certificate",
    "client-certificate-data", "client-key", "client-key-data", "as", "as-groups",
    "auth-provider", "exec"] v with
  | [username, password, token, tokenFile, cert, certData, key, keyData, other, groups, _, _] =>
    let optional := Shape.orAbsent Shape.text
    let _ ← [cert, certData, key, keyData].mapM optional
    pure { username := ← optional username, password := ← optional password,
           token := ← optional token, tokenFile := ← optional tokenFile,
           impersonated := ← optional other,
           impersonatedGroups := ← Shape.listOrAbsent Shape.text groups }
  | _ => none

def ContextEntry.shape : Shape ContextEntry := fun v => do
  match ← members? ["cluster", "user", "namespace", "extensions"] v with
  | [server, user, ns, more] =>
    let _ ← extensions more
    pure ⟨← Shape.text server, ← Shape.orAbsent Shape.text user, ← Shape.orAbsent Shape.text ns⟩
  | _ => none

namespace Kubeconfig

/-- Colours and extensions, which are of no use here. -/
def preferences : Shape Unit := fun v => do
  match ← members? ["colors", "extensions"] v with
  | [colors, more] => do
    let _ ← Shape.orAbsent Shape.truth colors
    let _ ← extensions more
  | _ => none

def shape : Shape Kubeconfig := fun v => do
  match ← members? ["preferences", "clusters", "users", "contexts", "current-context",
    "extensions", "kind", "apiVersion"] v with
  | [prefs, servers, users, contexts, current, more, kind, apiVersion] =>
    let optional := Shape.orAbsent Shape.text
    let _ ← Shape.orAbsent preferences prefs
    let _ ← extensions more
    pure { servers := ← Shape.listOrAbsent (Named.shape "cluster" ServerEntry.shape) servers
           users := ← Shape.listOrAbsent (Named.shape "user" UserEntry.shape) users
           contexts := ← Shape.listOrAbsent (Named.shape "context" ContextEntry.shape) contexts
           currentContext := ← optional current
           kind := ← optional kind, apiVersion := ← optional apiVersion }
  | _ => none

/-- Whether two values are there and differ. -/
def differ (a b : Option String) : Bool := a.isSome && b.isSome && a != b

/-- The entries, and those of a second list whose names are new. -/
def mergeNamed {α : Type} (first second : List (Named α)) : List (Named α) :=
  first ++ second.filter fun x => first.all (·.name != x.name)

/-- One kubeconfig from two, of which the first comes first. -/
def merge (a b : Kubeconfig) : Except KubeconfigError Kubeconfig :=
  if differ a.kind b.kind then .error .kindMismatch
  else if differ a.apiVersion b.apiVersion then .error .apiVersionMismatch
  else .ok
    { kind := a.kind <|> b.kind, apiVersion := a.apiVersion <|> b.apiVersion
      servers := mergeNamed a.servers b.servers, users := mergeNamed a.users b.users
      contexts := mergeNamed a.contexts b.contexts
      currentContext := a.currentContext <|> b.currentContext }

/-- The first entry of a name. -/
def find? {α : Type} (entries : List (Named α)) (name : String) : Option (Named α) :=
  entries.find? (·.name == name)

theorem find?_mergeNamed {α : Type} (first second : List (Named α)) (name : String) :
    find? (mergeNamed first second) name = (find? first name <|> find? second name) := by
  unfold find? mergeNamed
  rw [List.find?_append]
  cases h : first.find? (·.name == name) with
  | some e => rfl
  | none =>
    have hn : ∀ x ∈ first, x.name ≠ name := by simpa using h
    simp only [Option.none_or]
    induction second with
    | nil => rfl
    | cons y ys ih =>
      by_cases hy : y.name = name
      · have hnew : first.all (·.name != y.name) = true := by simpa [hy] using hn
        rw [List.filter_cons, if_pos hnew, List.find?_cons_of_pos (by simpa using hy),
          List.find?_cons_of_pos (by simpa using hy)]
        rfl
      · rw [List.find?_cons_of_neg (by simpa using hy), ← ih, List.filter_cons]
        split
        · rw [List.find?_cons_of_neg (by simpa using hy)]
        · rfl

/-- Files that entries of a file mention are looked for beside it. -/
def mentionedFrom (path : String) (k : Kubeconfig) : Kubeconfig :=
  { k with
    servers := k.servers.map fun n => { n with
      entry := n.entry.map fun e =>
        { e with authorityFile := e.authorityFile.map (siblingPath path) } }
    users := k.users.map fun n => { n with
      entry := n.entry.map fun e => { e with tokenFile := e.tokenFile.map (siblingPath path) } } }

/-- The kubeconfig in a text, which may have several documents. -/
def ofText (path : String) (cs : List Char) : Except KubeconfigError Kubeconfig := do
  match Yaml.documents cs with
  | .error _ => .error .malformed
  | .ok docs => match docs.mapM shape with
    | none => .error .malformed
    | some ks => ks.foldlM (fun a b => merge a (b.mentionedFrom path)) {}

/-- The kubeconfig in a file. -/
def readFile (t : FileTree) (path : String) : Except KubeconfigError Kubeconfig :=
  match (t.read? path).bind Content.readMarked? with
  | none => .error (.unreadable path)
  | some cs => ofText path cs

/-- The files to read: those that a variable names with colons between them, else one in the
home directory. -/
def paths (env : List (String × String)) : List String :=
  let named := (partsOf ':' ((env.lookup "KUBECONFIG").getD "")).filter (· ≠ "")
  if named.isEmpty then
    match env.lookup "HOME" with
    | some "" => [".kube/config"]
    | home => [home.getD "" ++ "/.kube/config"]
  else named

/-- The files that the entries mention. -/
def mentioned (k : Kubeconfig) : List String :=
  k.servers.filterMap (fun n => n.entry.bind (·.authorityFile)) ++
    k.users.filterMap fun n => n.entry.bind (·.tokenFile)

/-- All kubeconfig files as one. -/
def read (t : FileTree) (env : List (String × String)) : Except KubeconfigError Kubeconfig :=
  (paths env).foldlM (fun k path => do merge k (← readFile t path)) {}

end Kubeconfig

/-- Where a context leads, and as whom. -/
structure Access where
  server : Uri
  ns : String
  proxy : Option Uri
  user : UserEntry
deriving DecidableEq, Repr

namespace Access

/-- The namespace of a context that names none. -/
def defaultNs : String := "default"

/-- The variables that name a proxy, in the order in which they count. -/
def proxyVariables : List String := ["HTTP_PROXY", "http_proxy", "HTTPS_PROXY", "https_proxy"]

/-- The proxy to use, if one is named. -/
def proxyText (e : ServerEntry) (env : List (String × String)) : Option String :=
  (e.proxy :: proxyVariables.map fun name => env.lookup name).findSome? fun p => p.filter (· ≠ "")

/-- Whether the certificates of a cluster can be had, if it has some of its own. -/
def hasAuthority (t : FileTree) (e : ServerEntry) : Bool :=
  match e.authorityData, e.authorityFile with
  | some data, _ => Base64.isEncoded data.toList
  | none, some file => (t.read? file).isSome
  | none, none => true

/-- Where a context leads. No name stands for the current context; a user need not be listed. -/
def ofContext (t : FileTree) (env : List (String × String)) (name : Option String)
    (k : Kubeconfig) : Except KubeconfigError Access := do
  let some name := name <|> k.currentContext | .error .noCurrentContext
  let some context := (Kubeconfig.find? k.contexts name).bind (·.entry)
    | .error (.unknownContext name)
  let some entry := (Kubeconfig.find? k.servers context.server).bind (·.entry)
    | .error (.unknownServer context.server)
  let some address := entry.server | .error .noAddress
  let some server := Uri.read? address | .error .badAddress
  if !hasAuthority t entry then .error .badAuthority
  let proxy ← match proxyText entry env with
    | none => pure none
    | some p => match Uri.read? p with
      | some u => pure (some u)
      | none => .error .badProxy
  let user := (context.user.bind (Kubeconfig.find? k.users)).bind (·.entry)
  pure ⟨server, context.ns.getD defaultNs, proxy, user.getD {}⟩

/-- The characters of a header's value. -/
def isHeaderChar (c : Char) : Bool := (' ' ≤ c && c < '\x7f') || c = '\t'

/-- Whether requests can be made: there is no proxy, the token can be read if it is in a file,
and the names to act under fit into headers. -/
def isUsable (t : FileTree) (a : Access) : Bool :=
  let u := a.user
  let known := (u.username.isSome && u.password.isSome) || u.token.isSome
  let token := known || u.tokenFile.all fun file => match (t.read? file).map Content.read with
    | some (.ok _) => true
    | _ => false
  a.proxy.isNone && token &&
    (u.impersonated.toList ++ u.impersonatedGroups).all (·.toList.all isHeaderChar)

end Access

end ClusterLock
