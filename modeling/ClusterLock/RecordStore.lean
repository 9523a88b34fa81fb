import ClusterLock.Journal

/-
  Record stores. A store is asked one of three questions (`StoreCall`); over a state `σ` it
  answers each, and may say something about it beforehand. A lock call looks only at whether
  the answer is good or which error it is (`RecordStore.verdict`).
-/
namespace ClusterLock

inductive StoreCall
  | get (ns name : String)
  | create (record : LockRecord)
  | delete (ns name : String)
deriving DecidableEq, Repr

/-- The three kinds of call. -/
inductive CallKind
  | get | create | delete
deriving DecidableEq, Repr

namespace StoreCall

def kind : StoreCall → CallKind
  | get .. => .get
  | create _ => .create
  | delete .. => .delete

/-- The namespace and the name that the call is about. -/
def subject : StoreCall → String × String
  | get ns name => (ns, name)
  | create r => (r.ns, r.name)
  | delete ns name => (ns, name)

end StoreCall

/-- A store of records over states `σ`. Creating fails if the record is there already. -/
structure RecordStore (σ : Type) where
  get : String → String → σ → Except StoreError LockRecord × σ
  create : LockRecord → σ → Except StoreError LockRecord × σ
  delete : String → String → σ → Except StoreError Unit × σ
  /-- What the store says when a call reaches it. -/
  announce : StoreCall → List Note := fun _ => []

/-- An answer less the record that comes with it. -/
def forget {α : Type} : Except StoreError α → Except StoreError Unit
  | .ok _ => .ok ()
  | .error e => .error e

/-- The answer to a call, as far as a lock call looks at it, and the state afterwards. -/
def RecordStore.verdict {σ : Type} (store : RecordStore σ) (q : StoreCall) (s : σ) :
    Except StoreError Unit × σ :=
  match q with
  | .get ns name => let (a, s') := store.get ns name s; (forget a, s')
  | .create r => let (a, s') := store.create r s; (forget a, s')
  | .delete ns name => store.delete ns name s

end ClusterLock
