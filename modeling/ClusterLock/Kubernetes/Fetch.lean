import ClusterLock.Journal
import ClusterLock.Kubernetes.Transport

/-
  Fetching the object that stands for a cluster. The object may be of any kind: its metadata names
  the cluster, and its version and kind count if it says both.
-/
namespace ClusterLock

/-- An object of any kind: its metadata, and its version and kind if it says both. -/
structure AnyObject where
  types : Option (String × String)
  metadata : Metadata
deriving DecidableEq, Repr

namespace AnyObject

/-- What has been read of an object: its metadata and its other members. -/
structure Parts where
  metadata : Option Metadata := none
  others : List (String × Json) := []

def visit (p : Parts) (key : String) (d : Draft) : Except ReadError Parts :=
  if key = "metadata" then
    if p.metadata.isSome then .error (.mismatch (.duplicateField key))
    else (Metadata.read d).map fun m => { p with metadata := some m }
  else
    match d.whole (nestingLimit - 1) with
    | .ok v => .ok { p with others := p.others ++ [(key, v)] }
    | .error f => .error (.fault f)

/-- The value of the only member of that name, if it is a text. -/
def onlyText? (others : List (String × Json)) (key : String) : Option String :=
  match others.filter (·.1 == key) with
  | [(_, v)] => v.text?
  | _ => none

def types? (others : List (String × Json)) : Option (String × String) := do
  let apiVersion ← onlyText? others "apiVersion"
  let kind ← onlyText? others "kind"
  pure (apiVersion, kind)

def read : Reader AnyObject := fun d => do
  let p ← Reader.object "struct DynamicObject" visit {} d
  pure ⟨types? p.others, p.metadata.getD {}⟩

end AnyObject

/-- The cluster that an object of the given version and kind stands for. -/
def Metadata.cluster (m : Metadata) (apiVersion kind : String) : Except Failure Cluster :=
  Cluster.validate ⟨m.ns.getD "", m.name.getD "", m.uid.getD "", apiVersion, kind⟩

/-- The cluster that an object stands for. What the object says of its kind counts more than
the kind it was asked for as. -/
def AnyObject.cluster (o : AnyObject) (r : Resource) : Except Failure Cluster :=
  match o.types with
  | some (apiVersion, kind) => o.metadata.cluster apiVersion kind
  | none => o.metadata.cluster r.apiVersion r.kind

/-- The part of the program that the note on a fetched object comes from. -/
def fetchTarget : Target := "cpinit_kube::cluster"

/-- The note on a fetched object: the name it has, or else the stem its name is made from. -/
def fetchedNote (ns : String) (o : AnyObject) : Note :=
  let m := o.metadata
  let uid := match m.uid with
    | some uid => "Some(" ++ quoted uid ++ ")"
    | none => "None"
  ⟨.debug, fetchTarget, "Fetched cluster",
    [⟨"namespace", ns, false⟩, ⟨"cluster_name", (m.name <|> m.generateName).getD "", false⟩,
      ⟨"uid", uid, false⟩]⟩

/-- The cluster that the object of that namespace and name stands for. -/
def fetchCluster {σ : Type} (t : Transport σ) (r : Resource) (ns name : String)
    (s : Session σ) : Except Failure Cluster × Session σ :=
  let (answer, state) := t.ask (Transport.getRequest r ns name) AnyObject.read s.state
  match answer with
  | .error e =>
    (.error (.client s!"failed to get {r.kind} {ns}/{name}: {e.message}"), { s with state })
  | .ok o => (o.cluster r, ⟨state, s.journal.write (fetchedNote ns o)⟩)

end ClusterLock
