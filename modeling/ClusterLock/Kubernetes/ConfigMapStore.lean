import ClusterLock.Kubernetes.Transport
import ClusterLock.RecordStore

/-
  Lock records as ConfigMaps, and the store that keeps them behind an API server. A record takes
  only the metadata: its namespace, its name and its owners. Read back, a ConfigMap that names no
  namespace belongs to the one it was asked for in.
-/
namespace ClusterLock

/-- The ConfigMap of a record. -/
def LockRecord.configMap (r : LockRecord) : Json :=
  .object [("apiVersion", .text "v1"), ("kind", .text "ConfigMap"),
    ("metadata", .object [("name", .text r.name), ("namespace", .text r.ns),
      ("ownerReferences", .array (r.owners.map OwnerRef.toJson))])]

/-- The record that a ConfigMap in the given namespace stands for. -/
def Metadata.lockRecord (m : Metadata) (ns : String) : LockRecord :=
  ⟨m.ns.getD ns, m.name.getD "", m.owners.getD []⟩

/-- The metadata that the ConfigMap of a record has. -/
def LockRecord.metadata (r : LockRecord) : Metadata :=
  { ns := some r.ns, name := some r.name, owners := some r.owners }

@[simp] theorem LockRecord.lockRecord_metadata (r : LockRecord) (ns : String) :
    r.metadata.lockRecord ns = r := rfl

/-- A text as the record of a ConfigMap. -/
def LockRecord.readConfigMap (ns : String) : Reader LockRecord := fun d =>
  (ObjectShape.configMap.read d).map (·.lockRecord ns)

/-- The part of the program that the notes of the store come from. -/
def storeTarget : Target := "cpinit_kube::store"

namespace ConfigMapStore

variable {σ : Type} (t : Transport σ)

def get (ns name : String) (s : σ) : Except StoreError LockRecord × σ :=
  let (answer, s) := t.ask (Transport.getRequest configMaps ns name)
    (LockRecord.readConfigMap ns) s
  (answer.mapError (ApiError.classify ns name), s)

def create (r : LockRecord) (s : σ) : Except StoreError LockRecord × σ :=
  let (answer, s) := t.ask (Transport.createRequest configMaps r.ns r.configMap)
    (LockRecord.readConfigMap r.ns) s
  (answer.mapError (ApiError.classify r.ns r.name), s)

def delete (ns name : String) (s : σ) : Except StoreError Unit × σ :=
  let (answer, s) := t.ask (Transport.deleteRequest configMaps ns name) readDeleted s
  (answer.mapError (ApiError.classify ns name), s)

def announce : StoreCall → List Note
  | .get .. => []
  | .create r => [⟨.debug, storeTarget, "Creating lock configmap",
      [⟨"namespace", r.ns, false⟩, ⟨"name", r.name, false⟩]⟩]
  | .delete ns name => [⟨.debug, storeTarget, "Deleting lock configmap",
      [⟨"namespace", ns, false⟩, ⟨"name", name, false⟩]⟩]

end ConfigMapStore

def configMapStore {σ : Type} (t : Transport σ) : RecordStore σ where
  get := ConfigMapStore.get t
  create := ConfigMapStore.create t
  delete := ConfigMapStore.delete t
  announce := ConfigMapStore.announce

end ClusterLock
