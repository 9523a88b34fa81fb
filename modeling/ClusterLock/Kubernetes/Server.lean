import ClusterLock.Json.Printer
import ClusterLock.Kubernetes.Transport
import ClusterLock.Text.Segments

/-
  An API server. It keeps ConfigMaps by namespace and name, creates one only if there is none
  of that name, and adds metadata of its own; other objects can only be fetched by their path.
  Before it does any of this it looks for a reply that has been laid down for the request.
-/
namespace ClusterLock

/-- A reply that is laid down for requests of one method or of any, for so many of them. -/
structure Script where
  method : Option Method := none
  times : Option Nat := some 1
  reply : Reply

structure ApiServer where
  /-- The ConfigMaps by namespace and name. -/
  configMaps : List ((String × String) × Json) := []
  objects : List (String × Json) := []
  scripts : List Script := []
  /-- The requests so far. -/
  requests : List Request := []

/-- A value with the members of its objects in the order of their names, the last of a name
only. -/
def sortMembers (ms : List (String × Json)) : List (String × Json) :=
  let last := ms.reverse.foldl (fun kept (k, v) =>
    if (kept.lookup k).isSome then kept else (k, v) :: kept) []
  last.mergeSort fun a b => a.1 ≤ b.1

mutual

def Json.sorted : Json → Json
  | .array items => .array (sortedItems items)
  | .object members => .object (sortMembers (sortedMembers members))
  | v => v

def sortedItems : List Json → List Json
  | [] => []
  | v :: items => v.sorted :: sortedItems items

def sortedMembers : List (String × Json) → List (String × Json)
  | [] => []
  | (k, v) :: members => (k, v.sorted) :: sortedMembers members

end

/-- A reply that holds a value. -/
def Reply.ofJson (status : Nat) (j : Json) : Reply := .response status (.text j.sorted.compact)

/-- A reply that reports a failure. -/
def Reply.failure (status : Nat) (reason : String) : Reply :=
  .ofJson status (.object [("kind", .text "Status"), ("apiVersion", .text "v1"),
    ("metadata", .object []), ("status", .text "Failure"),
    ("message", .text ("fake api server: " ++ reason)), ("reason", .text reason),
    ("code", .ofNat status)])

/-- A member put in place of the one of that name, or added. -/
def setMember (key : String) (v : Json) (members : List (String × Json)) : List (String × Json) :=
  members.filter (·.1 != key) ++ [(key, v)]

/-- A ConfigMap with the metadata that the server adds. -/
def stored (ns name : String) (body : Json) : Json :=
  let metadata := match body.member? "metadata" with
    | some (.object ms) => ms
    | _ => []
  let metadata := setMember "namespace" (.text ns) metadata
  let metadata := setMember "uid" (.text ("uid-" ++ name)) metadata
  let metadata := setMember "resourceVersion" (.text "1") metadata
  match body with
  | .object ms => .object (setMember "metadata" (.object metadata) ms)
  | _ => .object [("metadata", .object metadata)]

/-- The place of a ConfigMap that a path names. -/
def configMapPath? (path : String) : Option (String × String) :=
  match partsOf '/' path with
  | ["", "api", "v1", "namespaces", ns, "configmaps", name] => some (ns, name)
  | _ => none

/-- The namespace whose ConfigMaps a path names. -/
def configMapsPath? (path : String) : Option String :=
  match partsOf '/' path with
  | ["", "api", "v1", "namespaces", ns, "configmaps"] => some ns
  | _ => none

namespace ApiServer

/-- What the server does with a request of its own accord. -/
def serve (q : Request) (s : ApiServer) : Reply × ApiServer :=
  match q.method with
  | .get =>
    let found := match configMapPath? q.path with
      | some key => s.configMaps.lookup key
      | none => s.objects.lookup q.path
    match found with
    | some v => (.ofJson 200 v, s)
    | none => (.failure 404 "NotFound", s)
  | .post =>
    match configMapsPath? q.path with
    | none => (.failure 405 "MethodNotAllowed", s)
    | some ns =>
      let body := q.body.getD .null
      let name := (((body.member? "metadata").getD .null).member? "name").bind Json.text?
      let name := name.getD ""
      if (s.configMaps.lookup (ns, name)).isSome then (.failure 409 "AlreadyExists", s)
      else
        let v := stored ns name body
        (.ofJson 201 v, { s with configMaps := s.configMaps ++ [((ns, name), v)] })
  | .delete =>
    match configMapPath? q.path with
    | none => (.failure 405 "MethodNotAllowed", s)
    | some key =>
      match s.configMaps.lookup key with
      | some v =>
        (.ofJson 200 v, { s with configMaps := s.configMaps.filter (·.1 != key) })
      | none => (.failure 404 "NotFound", s)

/-- The first reply laid down for a method, and what is left to be used. -/
def takeScript (m : Method) : List Script → Option (Reply × List Script)
  | [] => none
  | script :: scripts =>
    if script.method.all (· == m) then
      some (script.reply, match script.times with
        | none => script :: scripts
        | some n => if n ≤ 1 then scripts else { script with times := some (n - 1) } :: scripts)
    else (takeScript m scripts).map fun (reply, rest) => (reply, script :: rest)

def handle (q : Request) (s : ApiServer) : Reply × ApiServer :=
  let s := { s with requests := s.requests ++ [q] }
  match takeScript q.method s.scripts with
  | some (reply, scripts) => (reply, { s with scripts })
  | none => serve q s

end ApiServer

/-- The transport to a server. -/
def serverTransport : Transport ApiServer := ⟨ApiServer.handle⟩

end ClusterLock
