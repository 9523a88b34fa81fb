import ClusterLock.Locker

/-
  Lock calls that get in each other's way. A contested store is one in memory that others use too
  and that can fail. What happens to a call is queued by its kind: first another party may act,
  then the call may be answered by an error without being made. Over any store, calls go side by
  side: in a round each call takes its turn; in a race every call has probed before any of them
  goes on.
-/
namespace ClusterLock

/-- What another party does to the store. -/
inductive Intrusion
  | create (record : LockRecord)
  | delete (ns name : String)
deriving DecidableEq, Repr

/-- The store after another party has acted, whether or not the act succeeds. -/
def Intrusion.apply (m : MemoryStore) : Intrusion → MemoryStore
  | create r => (m.create r).2
  | delete ns name => (m.delete ns name).2

/-- The first entry queued for a kind of call, and the queue without it. -/
def takeFor {α : Type} (kind : CallKind) : List (CallKind × α) → Option α × List (CallKind × α)
  | [] => (none, [])
  | (k, a) :: queue =>
    if k = kind then (some a, queue)
    else let (found, queue) := takeFor kind queue; (found, (k, a) :: queue)

structure Contested where
  inner : MemoryStore := ∅
  intrusions : List (CallKind × Intrusion) := []
  /-- No error in an entry means that the call goes through. -/
  faults : List (CallKind × Option StoreError) := []
  /-- The calls made so far. -/
  calls : List StoreCall := []

namespace Contested

/-- What happens before a call: it is noted down, the other party acts, and the fault is drawn. -/
def meet (q : StoreCall) (s : Contested) : Option StoreError × Contested :=
  let (intrusion, intrusions) := takeFor q.kind s.intrusions
  let (fault, faults) := takeFor q.kind s.faults
  (fault.join,
    { inner := (intrusion.map (·.apply s.inner)).getD s.inner
      intrusions, faults, calls := s.calls ++ [q] })

/-- A call that goes through unless a fault is drawn for it. -/
def attempt {α : Type} (q : StoreCall) (act : MemoryStore → Except StoreError α × MemoryStore)
    (s : Contested) : Except StoreError α × Contested :=
  match meet q s with
  | (some e, s) => (.error e, s)
  | (none, s) => let (answer, inner) := act s.inner; (answer, { s with inner })

end Contested

def contestedStore : RecordStore Contested where
  get ns name := Contested.attempt (.get ns name) (MemoryStore.get ns name)
  create r := Contested.attempt (.create r) (MemoryStore.create r)
  delete ns name := Contested.attempt (.delete ns name) (MemoryStore.delete ns name)

/-! ## Calls side by side -/

variable {σ : Type}

/-- One turn of each call, in order. -/
def round (store : RecordStore σ) : List LockCall → Session σ → List LockCall × Session σ
  | [], s => ([], s)
  | call :: calls, s =>
    let (call, s) := call.step store s
    let (calls, s) := round store calls s
    (call :: calls, s)

/-- The beginnings of `n` calls on one cluster by lockers without a scope. -/
def startAll (verb : Verb) (c : Cluster) : Nat → Session σ → List LockCall × Session σ
  | 0, s => ([], s)
  | n + 1, s =>
    let (call, s) := ({} : Locker).start verb c s
    let (calls, s) := startAll verb c n s
    (call :: calls, s)

/-- So many calls on one cluster such that every one probes before any of them goes on. -/
def race (store : RecordStore σ) (verb : Verb) (c : Cluster) (n : Nat) (s : Session σ) :
    List LockCall × Session σ :=
  let (calls, s) := startAll verb c n s
  let (calls, s) := round store calls s
  round store calls s

/-- The number of calls that were granted. -/
def winners (calls : List LockCall) : Nat := calls.countP (·.granted)

end ClusterLock
