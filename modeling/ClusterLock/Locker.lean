import ClusterLock.MemoryStore

/-
  The lock itself. Acquiring probes for the record and creates it if the probe finds none; the
  create alone decides who holds the lock. Releasing probes and deletes what is there. A call
  goes on in turns of one store call each (`LockCall.step`), so that calls can be interleaved;
  `Locker.run` takes one call to its end.
-/
namespace ClusterLock

/-- What can be asked of a locker. -/
inductive Verb
  | acquire | release | probe
deriving DecidableEq, Repr

/-- How a call ended. -/
inductive Outcome
  | acquire (outcome : AcquireOutcome)
  | release (outcome : ReleaseOutcome)
  | found (present : Bool)
  | unreadable (cause : StoreError)
deriving DecidableEq, Repr

namespace Outcome

/-- The answer that the caller gets: an error is a plain no. -/
def granted : Outcome → Bool
  | acquire o => o == .acquired
  | release o => o != .error
  | found present => present
  | unreadable _ => false

/-- The counter that the call raises; probes are not counted. -/
def counter? : Outcome → Option Counter
  | acquire o => some (.acquire o)
  | release o => some (.release o)
  | _ => none

end Outcome

/-- How far a call has come. -/
inductive Phase
  | probing
  | deciding
  | finished (outcome : Outcome)
deriving DecidableEq, Repr

/-- The part of the program that the notes of a lock call come from. -/
def lockTarget : Target := "cpinit_lock::service"

namespace Verb

def note (level : Level) (message : String) : Note := ⟨level, lockTarget, message, []⟩

def errorNote (message cause : String) : Note :=
  ⟨.error, lockTarget, message, [⟨"error", cause, false⟩]⟩

/-- How a call begins: one on an incomplete cluster is over at once. -/
def start (verb : Verb) (c : Cluster) : Phase × List Note :=
  match verb, c.validate with
  | acquire, .ok _ => (.probing, [])
  | acquire, .error e =>
    (.finished (.acquire .error),
      [errorNote "Refusing to lock cluster with incomplete identity" e.message])
  | release, .ok _ =>
    (.probing, [note .debug "Checking for existence of control plane lock record"])
  | release, .error e =>
    (.finished (.release .error),
      [errorNote "Refusing to unlock cluster with incomplete identity" e.message])
  | probe, _ => (.probing, [])

/-- What follows from the answer to the probe. -/
def afterProbe (verb : Verb) (answer : Except StoreError Unit) : Phase × List Note :=
  match verb, answer with
  | acquire, .ok () =>
    (.finished (.acquire .held), [note .debug "Control plane lock record already exists"])
  | acquire, .error (.notFound ..) =>
    (.deciding, [note .info "Attempting to create control plane lock record"])
  | acquire, .error e =>
    (.finished (.acquire .error),
      [errorNote "Error checking for control plane lock record existence" e.message])
  | release, .ok () => (.deciding, [])
  | release, .error (.notFound ..) =>
    (.finished (.release .absent),
      [note .info "Control plane lock record not found, it may have been released already"])
  | release, .error e =>
    (.finished (.release .error),
      [errorNote "Error retrieving control plane lock record" e.message])
  | probe, .ok () => (.finished (.found true), [])
  | probe, .error (.notFound ..) => (.finished (.found false), [])
  | probe, .error e => (.finished (.unreadable e), [])

/-- What follows from the answer to the create or the delete. A probe makes neither. -/
def afterDecision (verb : Verb) (answer : Except StoreError Unit) : Outcome × List Note :=
  match verb, answer with
  | acquire, .ok () => (.acquire .acquired, [note .info "Acquired control plane lock"])
  | acquire, .error (.alreadyExists ..) =>
    (.acquire .lostRace, [note .info "Control plane lock record already exists"])
  | acquire, .error e =>
    (.acquire .error, [errorNote "Error creating control plane lock record" e.message])
  | release, .ok () => (.release .released, [note .info "Released control plane lock"])
  | release, .error (.notFound ..) =>
    (.release .absent, [note .info "Control plane lock record was removed concurrently"])
  | release, .error e =>
    (.release .error, [errorNote "Error deleting control plane lock record" e.message])
  | probe, .ok () => (.found true, [])
  | probe, .error e => (.unreadable e, [])

/-- The store call that asks whether the record is there. -/
def probeCall (c : Cluster) : StoreCall := .get c.ns c.lockName

/-- The store call that changes something. -/
def decisionCall (verb : Verb) (c : Cluster) : StoreCall :=
  match verb with
  | acquire => .create (.forCluster c)
  | release => .delete c.ns c.lockName
  | probe => .get c.ns c.lockName

end Verb

/-- A call in progress. -/
structure LockCall where
  verb : Verb
  cluster : Cluster
  /-- Where the call's events are written. -/
  scope : Scope
  phase : Phase
deriving DecidableEq, Repr

/-- The span around an acquire or a release. -/
def lockSpan (c : Cluster) : Span :=
  ⟨.info, lockTarget, "control_plane_init_lock",
    [⟨"namespace", c.ns, false⟩, ⟨"cluster_name", c.name, false⟩,
      ⟨"record_name", c.lockName, false⟩]⟩

namespace LockCall

variable {σ : Type}

/-- Records that a call is over. -/
def close (j : Journal) : Phase → Journal
  | .finished o => match o.counter? with
    | some c => j.count c
    | none => j
  | _ => j

/-- One exchange with the store inside the call's scope: the store's notes, the question, and
the notes on the answer. -/
def exchange {α : Type} (store : RecordStore σ) (call : LockCall) (q : StoreCall)
    (react : Except StoreError Unit → α × List Note) (s : Session σ) : α × Session σ :=
  let j := (s.journal.enter call.scope).writeAll (store.announce q)
  let (answer, state) := store.verdict q s.state
  let (next, notes) := react answer
  (next, ⟨state, (j.writeAll notes).leave⟩)

/-- The call's turn: at most one store call. A finished call does nothing. -/
def step (store : RecordStore σ) (call : LockCall) (s : Session σ) : LockCall × Session σ :=
  match call.phase with
  | .finished _ => (call, s)
  | .probing =>
    let (phase, s) := call.exchange store (Verb.probeCall call.cluster) call.verb.afterProbe s
    ({ call with phase }, { s with journal := close s.journal phase })
  | .deciding =>
    let (o, s) := call.exchange store (call.verb.decisionCall call.cluster)
      call.verb.afterDecision s
    ({ call with phase := .finished o }, { s with journal := close s.journal (.finished o) })

/-- Whether the call has been granted. -/
def granted (call : LockCall) : Bool :=
  match call.phase with
  | .finished o => o.granted
  | _ => false

def isFinished (call : LockCall) : Bool :=
  match call.phase with
  | .finished _ => true
  | _ => false

end LockCall

/-- Someone who makes lock calls. The events of a locker with a scope of its own go there;
otherwise they go where the caller is. -/
structure Locker where
  scope : Option Scope := none
deriving DecidableEq, Repr

namespace Locker

variable {σ : Type}

/-- The scope of a call that is made while `caller` is the current scope. -/
def callScope (l : Locker) (verb : Verb) (c : Cluster) (caller : Scope) : Scope :=
  match verb with
  | .probe => caller
  | _ => l.scope.getD caller ++ [lockSpan c]

/-- The beginning of a call, before any store call. -/
def start (l : Locker) (verb : Verb) (c : Cluster) (s : Session σ) : LockCall × Session σ :=
  let scope := l.callScope verb c s.journal.current
  let (phase, notes) := verb.start c
  let j := ((s.journal.enter scope).writeAll notes).leave
  (⟨verb, c, scope, phase⟩, { s with journal := LockCall.close j phase })

/-- A whole call: its beginning and as many turns as it can need. -/
def run (l : Locker) (store : RecordStore σ) (verb : Verb) (c : Cluster) (s : Session σ) :
    LockCall × Session σ :=
  let (call, s) := l.start verb c s
  let (call, s) := call.step store s
  call.step store s

def acquire (l : Locker) (store : RecordStore σ) (c : Cluster) (s : Session σ) :
    Bool × Session σ :=
  let (call, s) := l.run store .acquire c s
  (call.granted, s)

def release (l : Locker) (store : RecordStore σ) (c : Cluster) (s : Session σ) :
    Bool × Session σ :=
  let (call, s) := l.run store .release c s
  (call.granted, s)

/-- Whether the cluster's record is there, or why the store does not say. -/
def isLocked (l : Locker) (store : RecordStore σ) (c : Cluster) (s : Session σ) :
    Except StoreError Bool × Session σ :=
  let (call, s) := l.run store .probe c s
  match call.phase with
  | .finished (.unreadable e) => (.error e, s)
  | _ => (.ok call.granted, s)

end Locker

end ClusterLock
