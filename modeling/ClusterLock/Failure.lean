import ClusterLock.LockRecord

/-
  What can go wrong: a store call that fails (`StoreError`), and a failure outside the store
  (`Failure`). Each error is a cause; `message` is its wording.
-/
namespace ClusterLock

/-- Why a store call failed. The first two are ordinary answers of a store that works. -/
inductive StoreError
  | notFound (ns name : String)
  | alreadyExists (ns name : String)
  | unavailable (reason : String)
  | rejected (code : Nat) (reason message : String)
  | other (reason : String)
deriving DecidableEq, Repr

namespace StoreError

def message : StoreError → String
  | notFound ns name => s!"record '{ns}/{name}' not found"
  | alreadyExists ns name => s!"record '{ns}/{name}' already exists"
  | unavailable reason => "store unavailable: " ++ reason
  | rejected code reason message => s!"request rejected ({code} {reason}): {message}"
  | other reason => "store error: " ++ reason

def isNotFound : StoreError → Bool
  | notFound .. => true
  | _ => false

def isAlreadyExists : StoreError → Bool
  | alreadyExists .. => true
  | _ => false

end StoreError

/-- A failure to come by a cluster or a store. -/
inductive Failure
  | invalidIdentity (what : String)
  | client (what : String)
  | store (cause : StoreError)
deriving DecidableEq, Repr

def Failure.message : Failure → String
  | invalidIdentity what => "invalid cluster identity: " ++ what
  | client what => "client error: " ++ what
  | store cause => cause.message

/-- A cluster that the lock can work with, or what it lacks. -/
def Cluster.validate (c : Cluster) : Except Failure Cluster :=
  match c.missing with
  | [] => .ok c
  | lacking => .error (.invalidIdentity ("missing " ++ ", ".intercalate lacking))

end ClusterLock
