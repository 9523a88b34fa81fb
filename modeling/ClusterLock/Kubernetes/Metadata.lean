import ClusterLock.JsonForm

/-
  API objects as JSON. Of an object's metadata only what names it and its owners is kept, but
  every declared member must have its type, or a wider one where it says so: times
  (`Metadata.visit`) and binary data (`ObjectShape.configMap`) may be any texts. Of repeated
  members the last one counts; absent and null ones are not set.
-/
namespace ClusterLock

/-- What names an object, and its owners. -/
structure Metadata where
  ns : Option String := none
  name : Option String := none
  uid : Option String := none
  generateName : Option String := none
  owners : Option (List OwnerRef) := none
deriving DecidableEq, Repr

namespace Reader

/-- A member that must have its type but is not kept. -/
def checked {α : Type} (read : Reader α) : Reader Unit := fun d =>
  (optional read d).map fun _ => ()

/-- An object with texts only. -/
def textMap : Reader Unit :=
  object "a map" (fun _ _ d => (text d).map fun _ => ()) ()

/-- Any object; `wanted` is what it is called. -/
def anyObject (wanted : String) : Reader Unit := object wanted (fun _ _ d => skip d) ()

/-- A whole number of 64 bits. -/
def int64 : Reader Int
  | .number n =>
    match n.reading? with
    | some (.integer i) =>
      if i < Int.pow 2 63 then .ok i
      else .error (.mismatch (.invalidValue (Numeral.Reading.describe (.integer i)) "i64"))
    | _ => .error (Draft.unexpected "i64" (.number n))
  | d => .error (d.unexpected "i64")

end Reader

def OwnerRef.visit (o : OwnerRef) (key : String) (d : Draft) : Except ReadError OwnerRef :=
  let text := (Reader.optional Reader.text d).map (·.getD "")
  match key with
  | "apiVersion" => text.map fun apiVersion => { o with apiVersion }
  | "kind" => text.map fun kind => { o with kind }
  | "name" => text.map fun name => { o with name }
  | "uid" => text.map fun uid => { o with uid }
  | "controller" | "blockOwnerDeletion" => (Reader.checked Reader.bool d).map fun _ => o
  | _ => (Reader.skip d).map fun _ => o

/-- An owner in an object's metadata; members that are not set are empty. -/
def OwnerRef.readMember : Reader OwnerRef :=
  Reader.object "OwnerReference" OwnerRef.visit ⟨"", "", "", ""⟩

namespace Metadata

/-- A member of the metadata. Wider than the declared types: a time is any text, whether it spells
a moment or not, and an entry of the managed fields is any object, whatever its members. -/
def visit (m : Metadata) (key : String) (d : Draft) : Except ReadError Metadata :=
  let text := Reader.optional Reader.text d
  match key with
  | "namespace" => text.map fun ns => { m with ns }
  | "name" => text.map fun name => { m with name }
  | "uid" => text.map fun uid => { m with uid }
  | "generateName" => text.map fun generateName => { m with generateName }
  | "ownerReferences" =>
    (Reader.optional (Reader.list OwnerRef.readMember) d).map fun owners => { m with owners }
  | "resourceVersion" | "selfLink" | "creationTimestamp" | "deletionTimestamp" =>
    text.map fun _ => m
  | "annotations" | "labels" => (Reader.checked Reader.textMap d).map fun _ => m
  | "finalizers" => (Reader.checked (Reader.list Reader.text) d).map fun _ => m
  | "generation" | "deletionGracePeriodSeconds" =>
    (Reader.checked Reader.int64 d).map fun _ => m
  | "managedFields" =>
    (Reader.checked (Reader.list (Reader.anyObject "ManagedFieldsEntry")) d).map fun _ => m
  | _ => (Reader.skip d).map fun _ => m

def read : Reader Metadata := Reader.object "ObjectMeta" visit {}

end Metadata

/-- A kind of object whose declared members are checked when it is read. -/
structure ObjectShape where
  apiVersion : String
  kind : String
  /-- The members beside the metadata. -/
  parts : List (String × Reader Unit) := []

namespace ObjectShape

/-- A text that must be the given one. -/
def constant (wanted : String) : Reader Unit := fun d => do
  let s ← Reader.text d
  if s = wanted then pure ()
  else .error (.mismatch (.invalidValue ("string " ++ quoted s) wanted))

def visit (shape : ObjectShape) (m : Metadata) (key : String) (d : Draft) :
    Except ReadError Metadata :=
  match key with
  | "apiVersion" => (constant shape.apiVersion d).map fun _ => m
  | "kind" => (constant shape.kind d).map fun _ => m
  | "metadata" => (Reader.optional Metadata.read d).map (·.getD {})
  | key =>
    match shape.parts.lookup key with
    | some read => (Reader.checked read d).map fun _ => m
    | none => (Reader.skip d).map fun _ => m

/-- The metadata of an object of that kind. -/
def read (shape : ObjectShape) : Reader Metadata := Reader.object shape.kind shape.visit {}

/-- ConfigMaps. Wider than the declared types: binary data are any texts, whether they are in base
64 or not. -/
def configMap : ObjectShape where
  apiVersion := "v1"
  kind := "ConfigMap"
  parts := [("data", Reader.textMap), ("binaryData", Reader.textMap),
    ("immutable", fun d => (Reader.bool d).map fun _ => ())]

/-- A kind whose objects have a specification and a status. -/
def withSpec (apiVersion kind : String) : ObjectShape where
  apiVersion
  kind
  parts := [("spec", Reader.anyObject (kind ++ "Spec")),
    ("status", Reader.anyObject (kind ++ "Status"))]

/-- The kinds that are known by their declaration. -/
def all : List ObjectShape :=
  [configMap, withSpec "v1" "Namespace", withSpec "v1" "Pod", withSpec "apps/v1" "Deployment",
    withSpec "batch/v1" "Job",
    ⟨"rbac.authorization.k8s.io/v1", "ClusterRole",
      [("aggregationRule", Reader.anyObject "AggregationRule"),
        ("rules", fun d => (Reader.list (Reader.anyObject "PolicyRule") d).map fun _ => ())]⟩]

end ObjectShape

end ClusterLock
