import ClusterLock.Proofs.CallDiscipline
import ClusterLock.Proofs.Interchange
import ClusterLock.Proofs.Linearization

/-
  The lock against an API server that answers as it likes. An `ApiClient` is what a client surfaces
  for the requests of a lock call, any object or error each time; `ApiClient.store` is the store of
  ConfigMaps on top of it, and `configMapStore_eq` says that it is the one that runs. `Reads` sums
  up in which four ways a reply is read, `AcquireFate`, `ReleaseFate` and `ProbeFate` what becomes
  of a call for each, and `fail_closed` puts them together: nothing is granted that the server has
  not confirmed, and how the server words a reply makes no difference. A legal cluster has each call
  on the store carried out by one request (`OneRequestEach`).
-/
namespace ClusterLock

variable {σ τ : Type}

/-! ## Clients -/

/-- What a client surfaces for a request: an object or an error of its own, whatever the server and
the network do, and the state they are in afterwards. -/
structure ApiClient (σ : Type) where
  get : String → String → σ → Except ApiError LockRecord × σ
  create : LockRecord → σ → Except ApiError LockRecord × σ
  delete : String → String → σ → Except ApiError Unit × σ

namespace ApiClient

/-- What is surfaced for a store call, less the object. -/
def surface (client : ApiClient σ) (q : StoreCall) (s : σ) : Except ApiError Unit × σ :=
  match q with
  | .get ns name => ((client.get ns name s).1.map fun _ => (), (client.get ns name s).2)
  | .create r => ((client.create r s).1.map fun _ => (), (client.create r s).2)
  | .delete ns name => client.delete ns name s

/-- The store of ConfigMaps that uses the client. -/
def store (client : ApiClient σ) : RecordStore σ where
  get ns name s :=
    ((client.get ns name s).1.mapError (ApiError.classify ns name), (client.get ns name s).2)
  create r s :=
    ((client.create r s).1.mapError (ApiError.classify r.ns r.name), (client.create r s).2)
  delete ns name s :=
    ((client.delete ns name s).1.mapError (ApiError.classify ns name), (client.delete ns name s).2)
  announce := ConfigMapStore.announce

/-- The client that builds the requests, has them carried and decodes the replies. -/
def carriedBy (t : Transport σ) : ApiClient σ where
  get ns name := t.ask (Transport.getRequest configMaps ns name) (LockRecord.readConfigMap ns)
  create r :=
    t.ask (Transport.createRequest configMaps r.ns r.configMap) (LockRecord.readConfigMap r.ns)
  delete ns name := t.ask (Transport.deleteRequest configMaps ns name) readDeleted

theorem configMapStore_eq (t : Transport σ) : configMapStore t = (carriedBy t).store := by
  unfold configMapStore carriedBy store
  rfl

theorem verdict_store (client : ApiClient σ) (q : StoreCall) (s : σ) :
    client.store.verdict q s =
      ((client.surface q s).1.mapError (ApiError.classify q.subject.1 q.subject.2),
        (client.surface q s).2) := by
  cases q with
  | get ns name =>
    rw [RecordStore.verdict_get]
    cases h : (client.get ns name s).1 <;> simp only [surface, store, h] <;> rfl
  | create r =>
    rw [RecordStore.verdict_create]
    cases h : (client.create r s).1 <;> simp only [surface, store, h] <;> rfl
  | delete ns name => rfl

/-- The reply to the probe of a call on the cluster. -/
def probed (client : ApiClient σ) (c : Cluster) (s : σ) : Except ApiError Unit :=
  (client.surface (Verb.probeCall c) s).1

/-- The reply to the create or the delete, if the call makes it after its probe. -/
def decided (client : ApiClient σ) (verb : Verb) (c : Cluster) (s : σ) : Except ApiError Unit :=
  (client.surface (verb.decisionCall c) (client.surface (Verb.probeCall c) s).2).1

end ApiClient

/-! ## Readings of a reply -/

/-- The server says that there is no such thing. -/
def SaysMissing (a : Except ApiError Unit) : Prop := ∃ e, a = .error (.answered e) ∧ e.code = 404

/-- The server says that there is one already. -/
def SaysTaken (a : Except ApiError Unit) : Prop :=
  ∃ e, a = .error (.answered e) ∧ e.code = 409 ∧ e.reason = "AlreadyExists"

theorem not_saysMissing_ok : ¬ SaysMissing (.ok ()) := by
  rintro ⟨e, h, -⟩
  cases h

theorem not_saysTaken_ok : ¬ SaysTaken (.ok ()) := by
  rintro ⟨e, h, -⟩
  cases h

theorem SaysMissing.not_saysTaken {a : Except ApiError Unit} (h : SaysMissing a) :
    ¬ SaysTaken a := by
  obtain ⟨e, rfl, hcode⟩ := h
  rintro ⟨e', he, hcode', -⟩
  cases he
  omega

/-- The four ways in which a reply on the record of that namespace and name is read. -/
inductive Reads (ns name : String) (a : Except ApiError Unit) : Except StoreError Unit → Prop
  | good (h : a = .ok ()) : Reads ns name a (.ok ())
  | missing (hne : a ≠ .ok ()) (h : SaysMissing a) (ht : ¬ SaysTaken a) :
    Reads ns name a (.error (.notFound ns name))
  | taken (hne : a ≠ .ok ()) (hm : ¬ SaysMissing a) (h : SaysTaken a) :
    Reads ns name a (.error (.alreadyExists ns name))
  | failed (hne : a ≠ .ok ()) (hm : ¬ SaysMissing a) (ht : ¬ SaysTaken a) {e : StoreError}
      (he : e.Outside) : Reads ns name a (.error e)

/-- Only the code and the reason of the server's own answer tell what is missing or taken. -/
theorem reads_classify (ns name : String) (a : Except ApiError Unit) :
    Reads ns name a (a.mapError (ApiError.classify ns name)) := by
  cases a with
  | ok u => exact .good rfl
  | error e =>
    have hne : (Except.error e : Except ApiError Unit) ≠ .ok () := nofun
    cases e with
    | answered e =>
      by_cases hmissing : e.code = 404
      · have h : SaysMissing (.error (.answered e)) := ⟨e, rfl, hmissing⟩
        simp only [Except.mapError, ApiError.classify, if_pos hmissing]
        exact .missing hne h h.not_saysTaken
      · have hm : ¬ SaysMissing (.error (.answered e)) := by
          rintro ⟨e', he, hcode⟩
          cases he
          exact hmissing hcode
        simp only [Except.mapError, ApiError.classify, if_neg hmissing]
        by_cases htaken : e.code = 409 ∧ e.reason = "AlreadyExists"
        · rw [if_pos htaken]
          exact .taken hne hm ⟨e, rfl, htaken⟩
        · rw [if_neg htaken]
          refine .failed hne hm ?_ ⟨rfl, rfl⟩
          rintro ⟨e', he, htaken'⟩
          cases he
          exact htaken htaken'
    | _ =>
      refine .failed hne ?_ ?_ ⟨rfl, rfl⟩
      · rintro ⟨e, he, -⟩
        cases he
      · rintro ⟨e, he, -⟩
        cases he

namespace Reads

variable {ns name : String} {a : Except ApiError Unit} {v : Except StoreError Unit}
  (h : Reads ns name a v)

include h

/-- A probe and a delete tell a missing record from the other failures. -/
theorem missing_cases :
    (a = .ok () ∧ v = .ok ()) ∨
      (a ≠ .ok () ∧ SaysMissing a ∧ v = .error (.notFound ns name)) ∨
      (a ≠ .ok () ∧ ¬ SaysMissing a ∧ ∃ e, v = .error e ∧ e.isNotFound = false) := by
  cases h with
  | good hok => exact Or.inl ⟨hok, rfl⟩
  | missing hne hm ht => exact Or.inr (Or.inl ⟨hne, hm, rfl⟩)
  | taken hne hm ht => exact Or.inr (Or.inr ⟨hne, hm, _, rfl, rfl⟩)
  | failed hne hm ht he => exact Or.inr (Or.inr ⟨hne, hm, _, rfl, he.1⟩)

/-- A create tells a record that is there already from the other failures. -/
theorem taken_cases :
    (a = .ok () ∧ v = .ok ()) ∨
      (a ≠ .ok () ∧ SaysTaken a ∧ v = .error (.alreadyExists ns name)) ∨
      (a ≠ .ok () ∧ ¬ SaysTaken a ∧ ∃ e, v = .error e ∧ e.isAlreadyExists = false) := by
  cases h with
  | good hok => exact Or.inl ⟨hok, rfl⟩
  | missing hne hm ht => exact Or.inr (Or.inr ⟨hne, ht, _, rfl, rfl⟩)
  | taken hne hm ht => exact Or.inr (Or.inl ⟨hne, ht, rfl⟩)
  | failed hne hm ht he => exact Or.inr (Or.inr ⟨hne, ht, _, rfl, he.2⟩)

end Reads

/-! ## Turns -/

namespace Verb

/-- How a call ends that an error of the store makes fail. -/
def failure (e : StoreError) : Verb → Outcome
  | acquire => .acquire .error
  | release => .release .error
  | probe => .unreadable e

theorem afterProbe_of_isNotFound_eq_false {e : StoreError} (h : e.isNotFound = false)
    (verb : Verb) : (verb.afterProbe (.error e)).1 = .finished (verb.failure e) := by
  cases e with
  | notFound ns name => cases h
  | _ => cases verb <;> rfl

theorem acquire_afterDecision_failed {e : StoreError} (h : e.isAlreadyExists = false) :
    (acquire.afterDecision (.error e)).1 = .acquire .error := by
  cases e with
  | alreadyExists ns name => cases h
  | _ => rfl

theorem release_afterDecision_failed {e : StoreError} (h : e.isNotFound = false) :
    (release.afterDecision (.error e)).1 = .release .error := by
  cases e with
  | notFound ns name => cases h
  | _ => rfl

end Verb

namespace Locker

theorem exchanges_eq (l : Locker) (store : RecordStore σ) (verb : Verb) (c : Cluster)
    (s : Session σ) :
    l.exchanges store verb c s =
      (verb.start c).1.exchanged store verb c s.state ++
        ((verb.start c).1.advance store verb c s.state).1.exchanged store verb c
          ((verb.start c).1.advance store verb c s.state).2 := by
  have hstart : l.start verb c (⟨(s.state, []), s.journal⟩ : Session (σ × List Exchange)) =
      ((l.start verb c s).1, ⟨((l.start verb c s).2.state, []), (l.start verb c s).2.journal⟩) :=
    rfl
  simp only [exchanges, run, hstart, LockCall.step_recorded, LockCall.step_fst,
    LockCall.step_state, start_fst, start_state, List.nil_append]

section

variable (l : Locker) (verb : Verb) {client : ApiClient σ} {c : Cluster} {s : Session σ}
  (hc : verb = .probe ∨ c.Complete) {a : Except StoreError Unit}
  (ha : (client.probed c s.state).mapError (ApiError.classify c.ns c.lockName) = a)

include hc ha

/-- A call that its probe settles makes no other. -/
theorem run_of_settled {o : Outcome} (h : (verb.afterProbe a).1 = .finished o) :
    (l.run client.store verb c s).1.phase = .finished o ∧
      (l.exchanges client.store verb c s).map (·.call) = [.get c.ns c.lockName] := by
  have hstart : (verb.start c).1 = .probing := by rw [Verb.start_fst, if_pos hc]
  have hprobe : (Phase.probing.advance client.store verb c s.state).1 = .finished o := by
    rw [← h, ← ha]
    simp only [Phase.advance, ApiClient.verdict_store]
    rfl
  rw [run_phase, exchanges_eq, hstart, hprobe]
  exact ⟨rfl, rfl⟩

/-- A call that its probe leaves open makes one other and ends with it. -/
theorem run_of_open (h : (verb.afterProbe a).1 = .deciding) {b : Except StoreError Unit}
    (hb : (client.decided verb c s.state).mapError
      (ApiError.classify (verb.decisionCall c).subject.1 (verb.decisionCall c).subject.2) = b) :
    (l.run client.store verb c s).1.phase = .finished (verb.afterDecision b).1 ∧
      (l.exchanges client.store verb c s).map (·.call) =
        [.get c.ns c.lockName, verb.decisionCall c] := by
  have hstart : (verb.start c).1 = .probing := by rw [Verb.start_fst, if_pos hc]
  have hprobe : (Phase.probing.advance client.store verb c s.state).1 = .deciding := by
    rw [← h, ← ha]
    simp only [Phase.advance, ApiClient.verdict_store]
    rfl
  have hstate : (Phase.probing.advance client.store verb c s.state).2 =
      (client.surface (Verb.probeCall c) s.state).2 := by
    simp only [Phase.advance, ApiClient.verdict_store]
  rw [run_phase, exchanges_eq, hstart, hprobe, hstate]
  refine ⟨?_, rfl⟩
  simp only [Phase.advance, ApiClient.verdict_store, ← hb]
  rfl

end

end Locker

/-! ## What becomes of a call -/

/-- What an acquire makes of the reply to its GET and, after a 404, to its POST: the answer, the
outcome that is counted and the calls that it makes. -/
structure AcquireFate (c : Cluster) (got posted : Except ApiError Unit) (granted : Bool)
    (o : AcquireOutcome) (calls : List StoreCall) : Prop where
  granted_iff : granted = true ↔ SaysMissing got ∧ posted = .ok ()
  acquired_iff : o = .acquired ↔ granted = true
  held_iff : o = .held ↔ got = .ok ()
  lostRace_iff : o = .lostRace ↔ SaysMissing got ∧ SaysTaken posted
  error_iff : o = .error ↔ (got ≠ .ok () ∧ ¬ SaysMissing got) ∨
    (SaysMissing got ∧ posted ≠ .ok () ∧ ¬ SaysTaken posted)
  calls_missing : SaysMissing got → calls = [.get c.ns c.lockName, .create (.forCluster c)]
  calls_otherwise : ¬ SaysMissing got → calls = [.get c.ns c.lockName]

/-- What a release makes of the reply to its GET and, if that found the record, to its DELETE. -/
structure ReleaseFate (c : Cluster) (got deleted : Except ApiError Unit) (granted : Bool)
    (o : ReleaseOutcome) (calls : List StoreCall) : Prop where
  granted_iff : granted = true ↔
    SaysMissing got ∨ (got = .ok () ∧ (deleted = .ok () ∨ SaysMissing deleted))
  released_iff : o = .released ↔ got = .ok () ∧ deleted = .ok ()
  absent_iff : o = .absent ↔ SaysMissing got ∨ (got = .ok () ∧ SaysMissing deleted)
  error_iff : o = .error ↔ granted = false
  calls_found : got = .ok () → calls = [.get c.ns c.lockName, .delete c.ns c.lockName]
  calls_otherwise : got ≠ .ok () → calls = [.get c.ns c.lockName]

/-- What a probe makes of the reply to its GET. -/
structure ProbeFate (c : Cluster) (got : Except ApiError Unit) (answer : Except StoreError Bool)
    (calls : List StoreCall) : Prop where
  found_iff : answer = .ok true ↔ got = .ok ()
  absent_iff : answer = .ok false ↔ SaysMissing got
  unreadable : ∀ e, got = .error e → ¬ SaysMissing got →
    answer = .error (e.classify c.ns c.lockName)
  calls : calls = [.get c.ns c.lockName]

namespace Locker

section

variable (l : Locker) (client : ApiClient σ) {c : Cluster} (s : Session σ)

theorem acquireFate (hc : c.Complete) :
    ∃ o, (l.run client.store .acquire c s).1.phase = .finished (.acquire o) ∧
      AcquireFate c (client.probed c s.state) (client.decided .acquire c s.state)
        (l.acquire client.store c s).1 o
        ((l.exchanges client.store .acquire c s).map (·.call)) := by
  have hgranted : ∀ o, (l.run client.store .acquire c s).1.phase = .finished (.acquire o) →
      (l.acquire client.store c s).1 = (o == .acquired) := by
    intro o ho
    simp only [acquire, LockCall.granted, ho, Outcome.granted]
  have hprobe := (reads_classify c.ns c.lockName (client.probed c s.state)).missing_cases
  have hdecision :=
    (reads_classify c.ns c.lockName (client.decided .acquire c s.state)).taken_cases
  generalize ha : (client.probed c s.state).mapError _ = a at hprobe
  generalize hb : (client.decided .acquire c s.state).mapError _ = b at hdecision
  obtain ⟨hok, rfl⟩ | ⟨hne, hm, rfl⟩ | ⟨hne, hm, e, rfl, hn⟩ := hprobe
  · obtain ⟨hphase, hcalls⟩ := l.run_of_settled .acquire (Or.inr hc) ha rfl
    refine ⟨.held, hphase, ?_⟩
    constructor <;> simp [hgranted _ hphase, hcalls, hok, not_saysMissing_ok]
  · obtain ⟨hphase, hcalls⟩ := l.run_of_open .acquire (Or.inr hc) ha rfl hb
    obtain ⟨hok, rfl⟩ | ⟨hne', ht, rfl⟩ | ⟨hne', ht, e, rfl, hn⟩ := hdecision
    · refine ⟨.acquired, hphase, ?_⟩
      constructor <;>
        simp [hgranted _ hphase, hcalls, hne, hm, hok, not_saysTaken_ok, Verb.decisionCall]
    · refine ⟨.lostRace, hphase, ?_⟩
      constructor <;> simp [hgranted _ hphase, hcalls, hne, hm, hne', ht, Verb.decisionCall]
    · rw [Verb.acquire_afterDecision_failed hn] at hphase
      refine ⟨.error, hphase, ?_⟩
      constructor <;> simp [hgranted _ hphase, hcalls, hne, hm, hne', ht, Verb.decisionCall]
  · have hstop := Verb.afterProbe_of_isNotFound_eq_false hn .acquire
    obtain ⟨hphase, hcalls⟩ := l.run_of_settled .acquire (Or.inr hc) ha hstop
    refine ⟨.error, hphase, ?_⟩
    constructor <;> simp [hgranted _ hphase, hcalls, hne, hm]

theorem releaseFate (hc : c.Complete) :
    ∃ o, (l.run client.store .release c s).1.phase = .finished (.release o) ∧
      ReleaseFate c (client.probed c s.state) (client.decided .release c s.state)
        (l.release client.store c s).1 o
        ((l.exchanges client.store .release c s).map (·.call)) := by
  have hgranted : ∀ o, (l.run client.store .release c s).1.phase = .finished (.release o) →
      (l.release client.store c s).1 = (o != .error) := by
    intro o ho
    simp only [release, LockCall.granted, ho, Outcome.granted]
  have hprobe := (reads_classify c.ns c.lockName (client.probed c s.state)).missing_cases
  have hdecision :=
    (reads_classify c.ns c.lockName (client.decided .release c s.state)).missing_cases
  generalize ha : (client.probed c s.state).mapError _ = a at hprobe
  generalize hb : (client.decided .release c s.state).mapError _ = b at hdecision
  obtain ⟨hok, rfl⟩ | ⟨hne, hm, rfl⟩ | ⟨hne, hm, e, rfl, hn⟩ := hprobe
  · obtain ⟨hphase, hcalls⟩ := l.run_of_open .release (Or.inr hc) ha rfl hb
    obtain ⟨hok', rfl⟩ | ⟨hne', hm', rfl⟩ | ⟨hne', hm', e, rfl, hn⟩ := hdecision
    · refine ⟨.released, hphase, ?_⟩
      constructor <;>
        simp [hgranted _ hphase, hcalls, hok, hok', not_saysMissing_ok, Verb.decisionCall]
    · refine ⟨.absent, hphase, ?_⟩
      constructor <;>
        simp [hgranted _ hphase, hcalls, hok, hne', hm', not_saysMissing_ok, Verb.decisionCall]
    · rw [Verb.release_afterDecision_failed hn] at hphase
      refine ⟨.error, hphase, ?_⟩
      constructor <;>
        simp [hgranted _ hphase, hcalls, hok, hne', hm', not_saysMissing_ok, Verb.decisionCall]
  · obtain ⟨hphase, hcalls⟩ := l.run_of_settled .release (Or.inr hc) ha rfl
    refine ⟨.absent, hphase, ?_⟩
    constructor <;> simp [hgranted _ hphase, hcalls, hne, hm]
  · have hstop := Verb.afterProbe_of_isNotFound_eq_false hn .release
    obtain ⟨hphase, hcalls⟩ := l.run_of_settled .release (Or.inr hc) ha hstop
    refine ⟨.error, hphase, ?_⟩
    constructor <;> simp [hgranted _ hphase, hcalls, hne, hm]

theorem probeFate :
    ProbeFate c (client.probed c s.state) (l.isLocked client.store c s).1
      ((l.exchanges client.store .probe c s).map (·.call)) := by
  have hprobe := (reads_classify c.ns c.lockName (client.probed c s.state)).missing_cases
  generalize ha : (client.probed c s.state).mapError _ = a at hprobe
  obtain ⟨hok, rfl⟩ | ⟨hne, hm, rfl⟩ | ⟨hne, hm, e, rfl, hn⟩ := hprobe
  · obtain ⟨hphase, hcalls⟩ := l.run_of_settled .probe (Or.inl rfl) ha rfl
    have hanswer : (l.isLocked client.store c s).1 = .ok true := by
      simp only [isLocked, LockCall.granted, hphase, Outcome.granted]
    constructor <;> simp [hanswer, hcalls, hok, not_saysMissing_ok]
  · obtain ⟨hphase, hcalls⟩ := l.run_of_settled .probe (Or.inl rfl) ha rfl
    have hanswer : (l.isLocked client.store c s).1 = .ok false := by
      simp only [isLocked, LockCall.granted, hphase, Outcome.granted]
    constructor <;> simp [hanswer, hcalls, hne, hm]
  · have hstop := Verb.afterProbe_of_isNotFound_eq_false hn .probe
    obtain ⟨hphase, hcalls⟩ := l.run_of_settled .probe (Or.inl rfl) ha hstop
    have hanswer : (l.isLocked client.store c s).1 = .error e := by
      simp only [isLocked, hphase, Verb.failure]
    refine ⟨by simp [hanswer, hne], by simp [hanswer, hm], fun e' he' _ => ?_, hcalls⟩
    rw [he'] at ha
    rw [hanswer, ← Except.error.inj ha]

end

end Locker

/-! ## Wording -/

/-- What an error is apart from its wording. -/
inductive ApiError.Gist
  | answered (code : Nat) (reason : String)
  | unreachable
  | unusable
deriving DecidableEq

def ApiError.gist : ApiError → Gist
  | answered e => .answered e.code e.reason
  | service _ => .unreachable
  | broken _ => .unreachable
  | _ => .unusable

/-- The error without its wording. -/
def StoreError.wordless : StoreError → StoreError
  | unavailable _ => unavailable ""
  | rejected code reason _ => rejected code reason ""
  | other _ => other ""
  | e => e

/-- The store error that the gist of an error tells. -/
def ApiError.Gist.read (ns name : String) : Gist → StoreError
  | answered code reason =>
    if code = 404 then .notFound ns name
    else if code = 409 ∧ reason = "AlreadyExists" then .alreadyExists ns name
    else .rejected code reason ""
  | unreachable => .unavailable ""
  | unusable => .other ""

theorem ApiError.wordless_classify (ns name : String) (e : ApiError) :
    (e.classify ns name).wordless = e.gist.read ns name := by
  cases e with
  | answered e =>
    simp only [classify, gist, Gist.read]
    split
    · rfl
    · split <;> rfl
  | _ => rfl

/-- The replies are the same, or they are errors that differ in their wording at most. -/
def SameButWords (a b : Except ApiError Unit) : Prop :=
  a.mapError ApiError.gist = b.mapError ApiError.gist

namespace SameButWords

variable {a b : Except ApiError Unit} (h : SameButWords a b)

include h

theorem ok_iff : a = .ok () ↔ b = .ok () := by
  constructor
  · rintro rfl
    exact Except.mapError_eq_ok h.symm
  · rintro rfl
    exact Except.mapError_eq_ok h

theorem saysMissing_iff : SaysMissing a ↔ SaysMissing b := by
  have hgist : ∀ x : Except ApiError Unit, SaysMissing x ↔
      ∃ reason, x.mapError ApiError.gist = .error (.answered 404 reason) := by
    intro x
    cases x with
    | ok u => simp [SaysMissing, Except.mapError]
    | error e => cases e <;> simp [SaysMissing, Except.mapError, ApiError.gist]
  rw [hgist, hgist, h]

theorem saysTaken_iff : SaysTaken a ↔ SaysTaken b := by
  have hgist : ∀ x : Except ApiError Unit, SaysTaken x ↔
      x.mapError ApiError.gist = .error (.answered 409 "AlreadyExists") := by
    intro x
    cases x with
    | ok u => simp [SaysTaken, Except.mapError]
    | error e => cases e <;> simp [SaysTaken, Except.mapError, ApiError.gist]
  rw [hgist, hgist, h]

end SameButWords

/-- What becomes of an acquire does not depend on the wording of the replies. -/
theorem AcquireFate.congr {c : Cluster} {got got' posted posted' : Except ApiError Unit}
    {granted granted' : Bool} {o o' : AcquireOutcome} {calls calls' : List StoreCall}
    (h : AcquireFate c got posted granted o calls)
    (h' : AcquireFate c got' posted' granted' o' calls') (hgot : SameButWords got got')
    (hposted : SaysMissing got → SameButWords posted posted') :
    granted = granted' ∧ o = o' ∧ calls = calls' := by
  have hmissing := hgot.saysMissing_iff
  have hgranted : granted = true ↔ granted' = true := by
    rw [h.granted_iff, h'.granted_iff, ← hmissing]
    exact and_congr_right fun hm => (hposted hm).ok_iff
  have houtcome : ∀ x, o = x ↔ o' = x := by
    intro x
    cases x with
    | acquired => rw [h.acquired_iff, h'.acquired_iff, hgranted]
    | held => rw [h.held_iff, h'.held_iff, hgot.ok_iff]
    | lostRace =>
      rw [h.lostRace_iff, h'.lostRace_iff, ← hmissing]
      exact and_congr_right fun hm => (hposted hm).saysTaken_iff
    | error =>
      have hfailed : got ≠ .ok () ↔ got' ≠ .ok () := not_congr hgot.ok_iff
      rw [h.error_iff, h'.error_iff, ← hmissing, hfailed]
      refine or_congr_right (and_congr_right fun hm => ?_)
      exact and_congr (not_congr (hposted hm).ok_iff) (not_congr (hposted hm).saysTaken_iff)
  refine ⟨Bool.eq_iff_iff.2 hgranted, ((houtcome o).1 rfl).symm, ?_⟩
  by_cases hm : SaysMissing got
  · rw [h.calls_missing hm, h'.calls_missing (hmissing.1 hm)]
  · rw [h.calls_otherwise hm, h'.calls_otherwise fun hm' => hm (hmissing.2 hm')]

theorem ReleaseFate.congr {c : Cluster} {got got' deleted deleted' : Except ApiError Unit}
    {granted granted' : Bool} {o o' : ReleaseOutcome} {calls calls' : List StoreCall}
    (h : ReleaseFate c got deleted granted o calls)
    (h' : ReleaseFate c got' deleted' granted' o' calls') (hgot : SameButWords got got')
    (hdeleted : got = .ok () → SameButWords deleted deleted') :
    granted = granted' ∧ o = o' ∧ calls = calls' := by
  have hmissing := hgot.saysMissing_iff
  have hok := hgot.ok_iff
  have hgranted : granted = true ↔ granted' = true := by
    rw [h.granted_iff, h'.granted_iff, ← hmissing, ← hok]
    refine or_congr_right (and_congr_right fun hfound => ?_)
    rw [(hdeleted hfound).ok_iff, (hdeleted hfound).saysMissing_iff]
  have hsame : granted = granted' := Bool.eq_iff_iff.2 hgranted
  have houtcome : ∀ x, o = x ↔ o' = x := by
    intro x
    cases x with
    | released =>
      rw [h.released_iff, h'.released_iff, ← hok]
      exact and_congr_right fun hfound => (hdeleted hfound).ok_iff
    | absent =>
      rw [h.absent_iff, h'.absent_iff, ← hmissing, ← hok]
      exact or_congr_right (and_congr_right fun hfound => (hdeleted hfound).saysMissing_iff)
    | error => rw [h.error_iff, h'.error_iff, hsame]
  refine ⟨hsame, ((houtcome o).1 rfl).symm, ?_⟩
  by_cases hfound : got = .ok ()
  · rw [h.calls_found hfound, h'.calls_found (hok.1 hfound)]
  · rw [h.calls_otherwise hfound, h'.calls_otherwise fun hfound' => hfound (hok.2 hfound')]

theorem ProbeFate.congr {c : Cluster} {got got' : Except ApiError Unit}
    {answer answer' : Except StoreError Bool} {calls calls' : List StoreCall}
    (h : ProbeFate c got answer calls) (h' : ProbeFate c got' answer' calls')
    (hgot : SameButWords got got') :
    answer.mapError StoreError.wordless = answer'.mapError StoreError.wordless ∧
      calls = calls' := by
  refine ⟨?_, h.calls.trans h'.calls.symm⟩
  have hmissing := hgot.saysMissing_iff
  by_cases hm : SaysMissing got
  · rw [h.absent_iff.2 hm, h'.absent_iff.2 (hmissing.1 hm)]
  · have hm' : ¬ SaysMissing got' := fun hm' => hm (hmissing.2 hm')
    cases hgot' : got with
    | ok u =>
      have hok := hgot.ok_iff.1 hgot'
      rw [h.found_iff.2 hgot', h'.found_iff.2 hok]
    | error e =>
      cases hgot'' : got' with
      | ok u => rw [hgot', hgot''] at hgot; cases hgot
      | error e' =>
        rw [hgot', hgot''] at hgot
        rw [h.unreadable e hgot' hm, h'.unreadable e' hgot'' hm']
        have hgist : e.gist = e'.gist := Except.error.inj hgot
        simp only [Except.mapError, ApiError.wordless_classify, hgist]

/-! ## Requests -/

/-- Each store call of a lock call on the cluster is carried out by one request, which is sent, and
what is surfaced is the decoded reply. -/
structure OneRequestEach (t : Transport σ) (c : Cluster) : Prop where
  store : configMapStore t = (ApiClient.carriedBy t).store
  get : ∀ s, (ApiClient.carriedBy t).surface (.get c.ns c.lockName) s =
    let sent := t.send ⟨.get, configMapPath c.ns c.lockName, none⟩ s
    ((sent.1.decode (LockRecord.readConfigMap c.ns)).map fun _ => (), sent.2)
  create : ∀ s, (ApiClient.carriedBy t).surface (.create (.forCluster c)) s =
    let sent := t.send ⟨.post, configMapsPath c.ns, some (LockRecord.forCluster c).configMap⟩ s
    ((sent.1.decode (LockRecord.readConfigMap c.ns)).map fun _ => (), sent.2)
  delete : ∀ s, (ApiClient.carriedBy t).surface (.delete c.ns c.lockName) s =
    let sent := t.send ⟨.delete, configMapPath c.ns c.lockName, some (.object [])⟩ s
    (sent.1.decode readDeleted, sent.2)

theorem Cluster.Legal.oneRequestEach {c : Cluster} (h : c.Legal) (t : Transport σ) :
    OneRequestEach t c := by
  obtain ⟨hns, hname⟩ := h
  have hget := getRequest_of_addressable hns.addressable hname.addressable hname.ne_empty
  have hdelete := deleteRequest_of_addressable hns.addressable hname.addressable hname.ne_empty
  have hcreate := createRequest_of_addressable hns.addressable (LockRecord.forCluster c).configMap
  refine ⟨ApiClient.configMapStore_eq t, fun s => ?_, fun s => ?_, fun s => ?_⟩
  · simp only [ApiClient.surface, ApiClient.carriedBy, Transport.ask, hget]
  · have hcreate' : Transport.createRequest configMaps (LockRecord.forCluster c).ns
        (LockRecord.forCluster c).configMap = _ := hcreate
    simp only [ApiClient.surface, ApiClient.carriedBy, Transport.ask, hcreate']
    rfl
  · simp only [ApiClient.surface, ApiClient.carriedBy, Transport.ask, hdelete]

/-! ## All replies -/

section

variable (client : ApiClient σ) (l : Locker) (c : Cluster) (s : Session σ)

/-- What becomes of the calls on a cluster, told by what is surfaced for their requests. -/
structure ToldByReplies : Prop where
  acquire : ∃ o, AcquireFate c (client.probed c s.state) (client.decided .acquire c s.state)
      (l.acquire client.store c s).1 o
      ((l.exchanges client.store .acquire c s).map (·.call)) ∧
    (l.acquire client.store c s).2.journal.counts = s.journal.counts ++ [.acquire o]
  release : ∃ o, ReleaseFate c (client.probed c s.state) (client.decided .release c s.state)
      (l.release client.store c s).1 o
      ((l.exchanges client.store .release c s).map (·.call)) ∧
    (l.release client.store c s).2.journal.counts = s.journal.counts ++ [.release o]
  probe : ProbeFate c (client.probed c s.state) (l.isLocked client.store c s).1
      ((l.exchanges client.store .probe c s).map (·.call)) ∧
    (l.isLocked client.store c s).2.journal.counts = s.journal.counts

theorem toldByReplies {c : Cluster} (hc : c.Complete) : ToldByReplies client l c s := by
  obtain ⟨o, hacquired, hacquire⟩ := l.acquireFate client s hc
  obtain ⟨o', hreleased, hrelease⟩ := l.releaseFate client s hc
  obtain ⟨o'', hprobed, hverb⟩ := l.run_outcome client.store .probe c s
  refine ⟨⟨o, hacquire, ?_⟩, ⟨o', hrelease, ?_⟩, l.probeFate client s, ?_⟩
  · have hcounts := l.run_counts client.store .acquire c s
    rwa [hacquired] at hcounts
  · have hcounts := l.run_counts client.store .release c s
    rwa [hreleased] at hcounts
  · have hcounts := l.run_counts client.store .probe c s
    have hnone : (Phase.finished o'').counters = [] := by
      cases o'' with
      | acquire o => cases hverb
      | release o => cases hverb
      | _ => rfl
    rw [hprobed, hnone, List.append_nil, ← l.execute_state] at hcounts
    exact hcounts

variable (client' : ApiClient τ) (l' : Locker) (s' : Session τ)

/-- Two calls make the same store calls and raise the same counters. -/
structure SameCourse (verb : Verb) : Prop where
  calls : (l.exchanges client.store verb c s).map (·.call) =
    (l'.exchanges client'.store verb c s').map (·.call)
  counters : ∃ ks, (l.run client.store verb c s).2.journal.counts = s.journal.counts ++ ks ∧
    (l'.run client'.store verb c s').2.journal.counts = s'.journal.counts ++ ks

/-- Calls over clients that surface the same but for the wording end alike. Of the replies only
those count that a call asks for. -/
structure SameWhateverTheWords : Prop where
  acquire : SameButWords (client.probed c s.state) (client'.probed c s'.state) →
    (SaysMissing (client.probed c s.state) →
      SameButWords (client.decided .acquire c s.state) (client'.decided .acquire c s'.state)) →
    (l.acquire client.store c s).1 = (l'.acquire client'.store c s').1 ∧
      SameCourse client l c s client' l' s' .acquire
  release : SameButWords (client.probed c s.state) (client'.probed c s'.state) →
    (client.probed c s.state = .ok () →
      SameButWords (client.decided .release c s.state) (client'.decided .release c s'.state)) →
    (l.release client.store c s).1 = (l'.release client'.store c s').1 ∧
      SameCourse client l c s client' l' s' .release
  probe : SameButWords (client.probed c s.state) (client'.probed c s'.state) →
    (l.isLocked client.store c s).1.mapError StoreError.wordless =
        (l'.isLocked client'.store c s').1.mapError StoreError.wordless ∧
      SameCourse client l c s client' l' s' .probe

theorem sameWhateverTheWords {c : Cluster} (hc : c.Complete) :
    SameWhateverTheWords client l c s client' l' s' := by
  have htold := toldByReplies client l s hc
  have htold' := toldByReplies client' l' s' hc
  refine ⟨fun hgot hposted => ?_, fun hgot hdeleted => ?_, fun hgot => ?_⟩
  · obtain ⟨o, hfate, hcounts⟩ := htold.acquire
    obtain ⟨o', hfate', hcounts'⟩ := htold'.acquire
    obtain ⟨hgranted, rfl, hcalls⟩ := hfate.congr hfate' hgot hposted
    exact ⟨hgranted, hcalls, _, hcounts, hcounts'⟩
  · obtain ⟨o, hfate, hcounts⟩ := htold.release
    obtain ⟨o', hfate', hcounts'⟩ := htold'.release
    obtain ⟨hgranted, rfl, hcalls⟩ := hfate.congr hfate' hgot hdeleted
    exact ⟨hgranted, hcalls, _, hcounts, hcounts'⟩
  · obtain ⟨hfate, hcounts⟩ := htold.probe
    obtain ⟨hfate', hcounts'⟩ := htold'.probe
    obtain ⟨hanswer, hcalls⟩ := hfate.congr hfate' hgot
    refine ⟨hanswer, hcalls, [], ?_, ?_⟩
    · rw [← l.execute_state, List.append_nil]
      exact hcounts
    · rw [← l'.execute_state, List.append_nil]
      exact hcounts'

end

/-- **The lock fails closed** whatever an API server answers, in whatever order. What becomes of a
call is told by the codes and the reasons of at most two replies, each to a request of its own. -/
theorem fail_closed (client : ApiClient σ) (l : Locker) {c : Cluster} (hc : c.Complete)
    (hlegal : c.Legal) (s : Session σ) :
    ToldByReplies client l c s ∧
      (∀ {τ : Type} (client' : ApiClient τ) (l' : Locker) (s' : Session τ),
        SameWhateverTheWords client l c s client' l' s') ∧
      ∀ t : Transport σ, OneRequestEach t c := by
  refine ⟨toldByReplies client l s hc, fun client' l' s' => ?_, fun t => hlegal.oneRequestEach t⟩
  exact sameWhateverTheWords client l s client' l' s' hc

/-- The server of a cluster without the namespace: the probe finds no record, and none can be
posted, which is reported in the words given. -/
def homelessClient (words : String) : ApiClient Unit where
  get _ _ s := (.error (.answered ⟨"Failure", words, "NotFound", 404⟩), s)
  create _ s := (.error (.answered ⟨"Failure", words, "NotFound", 404⟩), s)
  delete _ _ s := (.ok (), s)

/-- The same 404 that lets an acquire go on makes it fail in the end, in whatever words. -/
theorem fail_closed_homeless :
    let c : Cluster := ⟨"ns1", "cl1", "abc-123", "cluster.x-k8s.io/v1beta1", "Cluster"⟩
    let acquired := ({} : Locker).acquire (homelessClient "namespaces not found").store c ⟨(), {}⟩
    c.Complete ∧ c.Legal ∧ acquired.1 = false ∧
      acquired.2.journal.counts = [.acquire .error] ∧
      (({} : Locker).acquire (homelessClient "").store c ⟨(), {}⟩).1 = acquired.1 := by
  intro c acquired
  have hc : c.Complete := by decide
  have hlegal : c.Legal := ⟨by decide +kernel, by decide +kernel⟩
  obtain ⟨htold, hwords, -⟩ := fail_closed (homelessClient "namespaces not found") {} hc hlegal
    ⟨(), {}⟩
  obtain ⟨o, hfate, hcounts⟩ := htold.acquire
  have hmissing : SaysMissing ((homelessClient "namespaces not found").probed c ()) :=
    ⟨_, rfl, rfl⟩
  have hposted : (homelessClient "namespaces not found").decided .acquire c () ≠ .ok () := nofun
  have hgranted : acquired.1 = false :=
    Bool.eq_false_iff.2 fun h => hposted (hfate.granted_iff.1 h).2
  have herror : o = .error :=
    hfate.error_iff.2 (Or.inr ⟨hmissing, hposted, hmissing.not_saysTaken⟩)
  have hsame := ((hwords (homelessClient "") {} ⟨(), {}⟩).acquire rfl fun _ => rfl).1
  refine ⟨hc, hlegal, hgranted, ?_, hsame.symm⟩
  rw [herror] at hcounts
  exact hcounts

end ClusterLock
