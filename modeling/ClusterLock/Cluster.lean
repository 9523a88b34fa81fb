/-
  Clusters as the lock knows them. A cluster is named by five texts; the lock works with it only
  if none of them is empty. Its lock record is called `<uid>-controlplane`.
-/
namespace ClusterLock

/-- What identifies a cluster and the object that stands for it. -/
structure Cluster where
  ns : String
  name : String
  uid : String
  apiVersion : String
  kind : String
deriving DecidableEq, Repr

/-- What the name of every lock record ends in. -/
def lockSuffix : String := "-controlplane"

/-- The name of the lock record of the cluster with the given uid. -/
def lockName (uid : String) : String := uid ++ lockSuffix

namespace Cluster

/-- The name of the record that locks the cluster. -/
def lockName (c : Cluster) : String := ClusterLock.lockName c.uid

/-- The five texts under the names that messages use. -/
def parts (c : Cluster) : List (String × String) :=
  [("namespace", c.ns), ("name", c.name), ("uid", c.uid), ("apiVersion", c.apiVersion),
    ("kind", c.kind)]

/-- The names of the texts that are empty. -/
def missing (c : Cluster) : List String :=
  (c.parts.filter (·.2.isEmpty)).map (·.1)

/-- No text is empty. -/
def Complete (c : Cluster) : Prop :=
  c.ns ≠ "" ∧ c.name ≠ "" ∧ c.uid ≠ "" ∧ c.apiVersion ≠ "" ∧ c.kind ≠ ""

instance (c : Cluster) : Decidable c.Complete := by unfold Complete; infer_instance

theorem missing_eq_nil_iff (c : Cluster) : c.missing = [] ↔ c.Complete := by
  simp [missing, parts, Complete]

end Cluster

end ClusterLock
