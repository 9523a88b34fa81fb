import ClusterLock.Config.Configuration
import ClusterLock.Kubernetes.ConfigMapStore
import ClusterLock.Kubernetes.Fetch

/-
  Running a command. The cluster is spelt out or fetched; the verb is carried out by a locker
  inside the command's span; the answer is noted outside of it.
-/
namespace ClusterLock

/-- The part of the program that the notes of a command come from. -/
def commandTarget : Target := "cpinit_server::command"

/-- The span around a command. -/
def commandSpan (v : Verb) : Span :=
  ⟨.info, commandTarget, "cpinit", [⟨"command", v.word, true⟩]⟩

/-- Why a command gave no answer. -/
inductive CommandError
  | unresolved (cause : Failure)
  | unreadable (cause : StoreError)
deriving DecidableEq, Repr

def CommandError.message : CommandError → String
  | unresolved cause => cause.message
  | unreadable cause => cause.message

/-- Carries out a verb. Only a probe can fail to give an answer. -/
def Locker.execute {σ : Type} (l : Locker) (store : RecordStore σ) (v : Verb) (c : Cluster)
    (s : Session σ) : Except CommandError Bool × Session σ :=
  match v with
  | .acquire => let (b, s) := l.acquire store c s; (.ok b, s)
  | .release => let (b, s) := l.release store c s; (.ok b, s)
  | .probe => let (a, s) := l.isLocked store c s; (a.mapError .unreadable, s)

/-- The note on a command's answer. -/
def finishedNote (v : Verb) (c : Cluster) (answer : Bool) : Note :=
  ⟨.info, commandTarget, "Command finished",
    [⟨"namespace", c.ns, false⟩, ⟨"cluster_name", c.name, false⟩,
      ⟨"record_name", c.lockName, false⟩, ⟨"outcome", v.label answer, true⟩]⟩

namespace Command

variable {σ : Type}

/-- The cluster that a command is about. -/
def resolve (cmd : Command) (t : Transport σ) (conf : Configuration) (s : Session σ) :
    Except Failure Cluster × Session σ :=
  match conf.explicitCluster cmd.args with
  | some c => (.ok c, s)
  | none => fetchCluster t conf.clusterResource cmd.args.ns cmd.args.name s

/-- The whole command. -/
def run (cmd : Command) (t : Transport σ) (conf : Configuration) (s : Session σ) :
    Except CommandError Bool × Session σ :=
  match cmd.resolve t conf s with
  | (.error e, s) => (.error (.unresolved e), s)
  | (.ok c, s) =>
    let scope := s.journal.current ++ [commandSpan cmd.verb]
    let inside := { s with journal := s.journal.enter scope }
    let (answer, s) :=
      ({ scope := some scope } : Locker).execute (configMapStore t) cmd.verb c inside
    let s := { s with journal := s.journal.leave }
    match answer with
    | .error e => (.error e, s)
    | .ok b => (.ok b, { s with journal := s.journal.write (finishedNote cmd.verb c b) })

end Command

end ClusterLock
