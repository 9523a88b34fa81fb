import ClusterLock.Json.Printer
import ClusterLock.Json.Shape
import ClusterLock.Failure

/-
  Clusters, owner references and lock records as JSON: how they are written, and the shapes
  from which they are read.
-/
namespace ClusterLock

def Cluster.toJson (c : Cluster) : Json :=
  .object [("namespace", .text c.ns), ("name", .text c.name), ("uid", .text c.uid),
    ("apiVersion", .text c.apiVersion), ("kind", .text c.kind)]

def OwnerRef.toJson (o : OwnerRef) : Json :=
  .object [("apiVersion", .text o.apiVersion), ("kind", .text o.kind), ("name", .text o.name),
    ("uid", .text o.uid)]

def LockRecord.toJson (r : LockRecord) : Json :=
  .object [("namespace", .text r.ns), ("name", .text r.name),
    ("ownerReferences", .array (r.owners.map OwnerRef.toJson))]

/-- A declared field that holds a text. -/
def textField (name : String) : FieldShape String := ⟨name, Reader.text, none⟩

/-- The error for a number of values other than that of the declared fields. Reading all fields
gives one value for each, so it never comes up. -/
def fieldCount (title : String) : ReadError :=
  .mismatch (.invalidLength 0 ("struct " ++ title))

def Cluster.fields : List (FieldShape String) :=
  ["namespace", "name", "uid", "apiVersion", "kind"].map textField

def Cluster.read : Reader Cluster := fun d => do
  match ← FieldShape.readAll "ClusterIdentity" fields d with
  | [ns, name, uid, apiVersion, kind] => pure ⟨ns, name, uid, apiVersion, kind⟩
  | _ => .error (fieldCount "ClusterIdentity")

def OwnerRef.fields : List (FieldShape String) :=
  ["apiVersion", "kind", "name", "uid"].map textField

def OwnerRef.read : Reader OwnerRef := fun d => do
  match ← FieldShape.readAll "OwnerReference" fields d with
  | [apiVersion, kind, name, uid] => pure ⟨apiVersion, kind, name, uid⟩
  | _ => .error (fieldCount "OwnerReference")

/-- A field of a lock record. -/
inductive LockRecord.FieldValue
  | text (s : String)
  | owners (l : List OwnerRef)

namespace LockRecord

/-- The owners may be left out, which means that there are none. -/
def fields : List (FieldShape FieldValue) :=
  [⟨"namespace", fun d => (Reader.text d).map .text, none⟩,
    ⟨"name", fun d => (Reader.text d).map .text, none⟩,
    ⟨"ownerReferences", fun d => (Reader.list OwnerRef.read d).map .owners, some (.owners [])⟩]

def read : Reader LockRecord := fun d => do
  match ← FieldShape.readAll "LockRecord" fields d with
  | [.text ns, .text name, .owners owners] => pure ⟨ns, name, owners⟩
  | _ => .error (fieldCount "LockRecord")

end LockRecord

end ClusterLock
