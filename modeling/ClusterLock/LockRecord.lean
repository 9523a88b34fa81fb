import ClusterLock.Cluster

/-
  Lock records. The presence of a record is the lock; it holds nothing but references to the
  objects that own it, so that it can be collected together with them.
-/
namespace ClusterLock

/-- A reference to the object that owns a record. -/
structure OwnerRef where
  apiVersion : String
  kind : String
  name : String
  uid : String
deriving DecidableEq, Repr

structure LockRecord where
  ns : String
  name : String
  owners : List OwnerRef
deriving DecidableEq, Repr

/-- The reference to the cluster's own object. -/
def Cluster.owner (c : Cluster) : OwnerRef := ⟨c.apiVersion, c.kind, c.name, c.uid⟩

namespace LockRecord

/-- The record that locks a cluster. -/
def forCluster (c : Cluster) : LockRecord := ⟨c.ns, c.lockName, [c.owner]⟩

/-- Some owner has the given uid. -/
def ownedBy (r : LockRecord) (uid : String) : Bool := r.owners.any (·.uid == uid)

@[simp] theorem ownedBy_forCluster (c : Cluster) (uid : String) :
    (forCluster c).ownedBy uid = (c.uid == uid) := by
  simp [ownedBy, forCluster, Cluster.owner]

end LockRecord

end ClusterLock
