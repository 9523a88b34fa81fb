import ClusterLock.Proofs.Turn

/-
  What a lock call asks of a store and what it tells about it, whatever the store answers. A store
  is `recorded` by writing down every call made on it and its answer; `run_recorded` says that a
  lock call goes the same way with the record as without, and gives the record (`exchanges`).
  `OnCourse` is what a turn keeps: the phase of a call tells what was asked and answered so far
  (`Course.advance`), and an error event is written just when a call comes to fail (`step_errors`).
  `call_discipline` puts together store calls, answer, counter and error events.
-/
namespace ClusterLock

variable {σ : Type}

/-! ## Recorded stores -/

/-- A call on a store and its answer, as far as a lock call looks at it. -/
structure Exchange where
  call : StoreCall
  answer : Except StoreError Unit

/-- The store with a record of the calls that are made on it. -/
def RecordStore.recorded (store : RecordStore σ) : RecordStore (σ × List Exchange) where
  get ns name s :=
    let (a, s') := store.get ns name s.1
    (a, (s', s.2 ++ [⟨.get ns name, forget a⟩]))
  create r s :=
    let (a, s') := store.create r s.1
    (a, (s', s.2 ++ [⟨.create r, forget a⟩]))
  delete ns name s :=
    let (a, s') := store.delete ns name s.1
    (a, (s', s.2 ++ [⟨.delete ns name, a⟩]))
  announce := store.announce

theorem RecordStore.verdict_recorded (store : RecordStore σ) (q : StoreCall)
    (s : σ × List Exchange) :
    store.recorded.verdict q s =
      ((store.verdict q s.1).1, ((store.verdict q s.1).2,
        s.2 ++ [⟨q, (store.verdict q s.1).1⟩])) := by
  cases q <;> rfl

/-- What a call in this phase exchanges with the store in its turn. -/
def Phase.exchanged (store : RecordStore σ) (verb : Verb) (c : Cluster) : Phase → σ → List Exchange
  | probing, s => [⟨Verb.probeCall c, (store.verdict (Verb.probeCall c) s).1⟩]
  | deciding, s => [⟨verb.decisionCall c, (store.verdict (verb.decisionCall c) s).1⟩]
  | finished _, _ => []

theorem LockCall.step_recorded (store : RecordStore σ) (call : LockCall) (s : σ)
    (xs : List Exchange) (j : Journal) :
    call.step store.recorded ⟨(s, xs), j⟩ =
      ((call.step store ⟨s, j⟩).1,
        ⟨((call.step store ⟨s, j⟩).2.state,
            xs ++ call.phase.exchanged store call.verb call.cluster s),
          (call.step store ⟨s, j⟩).2.journal⟩) := by
  obtain ⟨verb, c, scope, phase⟩ := call
  cases phase with
  | finished o => simp only [step, Phase.exchanged, List.append_nil]
  | probing => simp only [step, exchange, RecordStore.verdict_recorded]; rfl
  | deciding => simp only [step, exchange, RecordStore.verdict_recorded]; rfl

namespace Locker

/-- What a whole call exchanges with the store. -/
def exchanges (l : Locker) (store : RecordStore σ) (verb : Verb) (c : Cluster) (s : Session σ) :
    List Exchange :=
  (l.run store.recorded verb c ⟨(s.state, []), s.journal⟩).2.state.2

/-- A whole call goes the same way with the record as without. -/
theorem run_recorded (l : Locker) (store : RecordStore σ) (verb : Verb) (c : Cluster)
    (s : Session σ) :
    l.run store.recorded verb c ⟨(s.state, []), s.journal⟩ =
      ((l.run store verb c s).1,
        ⟨((l.run store verb c s).2.state, l.exchanges store verb c s),
          (l.run store verb c s).2.journal⟩) := by
  have hstart : l.start verb c (⟨(s.state, []), s.journal⟩ : Session (σ × List Exchange)) =
      ((l.start verb c s).1, ⟨((l.start verb c s).2.state, []), (l.start verb c s).2.journal⟩) :=
    rfl
  simp only [exchanges, run, hstart, LockCall.step_recorded]

end Locker

/-! ## The course of a call -/

namespace Verb

theorem afterProbe_ne_probing (verb : Verb) (a : Except StoreError Unit) :
    (verb.afterProbe a).1 ≠ .probing := by
  cases verb <;> cases a with
  | ok u => simp [afterProbe]
  | error e => cases e <;> simp [afterProbe]

end Verb

/-- How a call has come to its phase, with what it has exchanged on the way. -/
inductive Course (verb : Verb) (c : Cluster) : Phase → List Exchange → Prop
  | refused (h : ¬ c.Complete) : Course verb c (.finished verb.refusal) []
  | begun (h : verb = .probe ∨ c.Complete) : Course verb c .probing []
  | probed (h : verb = .probe ∨ c.Complete) (a : Except StoreError Unit) :
    Course verb c (verb.afterProbe a).1 [⟨Verb.probeCall c, a⟩]
  | decided (h : verb = .probe ∨ c.Complete) (a b : Except StoreError Unit)
      (ha : (verb.afterProbe a).1 = .deciding) :
    Course verb c (.finished (verb.afterDecision b).1)
      [⟨Verb.probeCall c, a⟩, ⟨verb.decisionCall c, b⟩]

theorem Course.start (verb : Verb) (c : Cluster) : Course verb c (verb.start c).1 [] := by
  rw [Verb.start_fst]
  split
  · rename_i h
    exact .begun h
  · rename_i h
    exact .refused fun hc => h (Or.inr hc)

/-- A turn takes a call one step further on its course. -/
theorem Course.advance {verb : Verb} {c : Cluster} {p : Phase} {xs : List Exchange}
    (h : Course verb c p xs) (store : RecordStore σ) (s : σ) :
    Course verb c (p.advance store verb c s).1 (xs ++ p.exchanged store verb c s) := by
  cases h with
  | refused h => exact .refused h
  | begun h => exact .probed h _
  | decided h a b ha => exact .decided h a b ha
  | probed h a =>
    cases hp : (verb.afterProbe a).1 with
    | probing => exact absurd hp (verb.afterProbe_ne_probing a)
    | deciding => exact .decided h a _ hp
    | finished o =>
      have hcourse : Course verb c (verb.afterProbe a).1 [⟨Verb.probeCall c, a⟩] := .probed h a
      rw [hp] at hcourse
      exact hcourse

/-! ## Error events -/

/-- The note tells of an error of the lock itself. -/
def Note.isLockError (n : Note) : Bool := n.level == .error && n.target == lockTarget

/-- The number of error events of the lock. -/
def Journal.lockErrors (j : Journal) : Nat := j.events.countP (·.note.isLockError)

/-- The number of errors that a store itself reports as the lock's when it is called. -/
def RecordStore.announcedErrors (store : RecordStore σ) (xs : List Exchange) : Nat :=
  (xs.flatMap fun x => store.announce x.call).countP Note.isLockError

/-- The call has ended in an error. -/
def Outcome.isError : Outcome → Bool
  | acquire o => o == .error
  | release o => o == .error
  | _ => false

def Phase.failed : Phase → Bool
  | finished o => o.isError
  | _ => false

namespace Journal

@[simp] theorem lockErrors_enter (j : Journal) (s : Scope) :
    (j.enter s).lockErrors = j.lockErrors := rfl

@[simp] theorem lockErrors_leave (j : Journal) : j.leave.lockErrors = j.lockErrors := rfl

@[simp] theorem lockErrors_writeAll (j : Journal) (notes : List Note) :
    (j.writeAll notes).lockErrors = j.lockErrors + notes.countP Note.isLockError := by
  rw [writeAll_eq, lockErrors, lockErrors, List.countP_append, List.countP_map]
  rfl

@[simp] theorem lockErrors_close (j : Journal) (p : Phase) :
    (LockCall.close j p).lockErrors = j.lockErrors := by
  cases p with
  | probing => rfl
  | deciding => rfl
  | finished o =>
    cases h : o.counter? with
    | none => simp only [LockCall.close, h]
    | some c =>
      simp only [LockCall.close, h]
      rfl

end Journal

namespace Verb

/-- The notes with which a call comes to a phase tell of an error just when the call has ended in
one, and then once. -/
theorem errors_start (verb : Verb) (c : Cluster) :
    (verb.start c).2.countP Note.isLockError = (verb.start c).1.failed.toNat := by
  cases verb <;> cases h : c.validate <;> simp only [start, h] <;> rfl

theorem errors_afterProbe (verb : Verb) (a : Except StoreError Unit) :
    (verb.afterProbe a).2.countP Note.isLockError = (verb.afterProbe a).1.failed.toNat := by
  cases verb <;> cases a with
  | ok u => rfl
  | error e => cases e <;> rfl

theorem errors_afterDecision (verb : Verb) (a : Except StoreError Unit) :
    (verb.afterDecision a).2.countP Note.isLockError =
      (Phase.finished (verb.afterDecision a).1).failed.toNat := by
  cases verb <;> cases a with
  | ok u => rfl
  | error e => cases e <;> rfl

end Verb

/-- The error events of a turn are those that the store announces, and one if the call ends in an
error in it. -/
theorem LockCall.step_errors (store : RecordStore σ) (call : LockCall) (s : Session σ) :
    (call.step store s).2.journal.lockErrors = s.journal.lockErrors +
      store.announcedErrors (call.phase.exchanged store call.verb call.cluster s.state) +
      if call.isFinished then 0
      else (call.phase.advance store call.verb call.cluster s.state).1.failed.toNat := by
  obtain ⟨verb, c, scope, phase⟩ := call
  cases phase with
  | finished o => rfl
  | probing =>
    simp only [step, exchange, Journal.lockErrors_close, Journal.lockErrors_leave,
      Journal.lockErrors_writeAll, Journal.lockErrors_enter, Phase.exchanged, Phase.advance,
      Verb.errors_afterProbe, RecordStore.announcedErrors, List.flatMap_singleton]
    rfl
  | deciding =>
    simp only [step, exchange, Journal.lockErrors_close, Journal.lockErrors_leave,
      Journal.lockErrors_writeAll, Journal.lockErrors_enter, Phase.exchanged, Phase.advance,
      Verb.errors_afterDecision, RecordStore.announcedErrors, List.flatMap_singleton]
    rfl

/-! ## Whole calls -/

/-- A call is on its course with what it has exchanged, and the error events since the journal
`j` are those that the store has announced, and one if the call has ended in an error. -/
structure OnCourse (store : RecordStore σ) (j : Journal) (call : LockCall) (xs : List Exchange)
    (j' : Journal) : Prop where
  course : Course call.verb call.cluster call.phase xs
  errors : j'.lockErrors = j.lockErrors + store.announcedErrors xs + call.phase.failed.toNat

/-- **One turn** keeps a call on its course. -/
theorem OnCourse.step {store : RecordStore σ} {j : Journal} {call : LockCall}
    {s : Session (σ × List Exchange)} (h : OnCourse store j call s.state.2 s.journal) :
    OnCourse store j (call.step store.recorded s).1 (call.step store.recorded s).2.state.2
      (call.step store.recorded s).2.journal := by
  obtain ⟨⟨s, xs⟩, j'⟩ := s
  rw [LockCall.step_recorded]
  refine ⟨?_, ?_⟩
  · rw [LockCall.step_fst]
    exact h.course.advance store s
  · have herrors := h.errors
    have happend : store.announcedErrors (xs ++ call.phase.exchanged store call.verb call.cluster s)
        = store.announcedErrors xs +
          store.announcedErrors (call.phase.exchanged store call.verb call.cluster s) := by
      simp only [RecordStore.announcedErrors, List.flatMap_append, List.countP_append]
    dsimp only at herrors ⊢
    rw [LockCall.step_errors, LockCall.step_fst, happend, herrors]
    cases hf : call.isFinished with
    | true =>
      rw [if_pos rfl, Phase.advance_finished _ _ _ hf]
      dsimp only
      omega
    | false =>
      -- a call under way has not failed yet
      have hnot : call.phase.failed = false := by
        obtain ⟨verb, c, scope, phase⟩ := call
        cases phase with
        | finished o => cases hf
        | probing => rfl
        | deciding => rfl
      rw [hnot]
      simp only [Bool.false_eq_true, if_false, Bool.toNat_false]
      omega

theorem Locker.run_onCourse (l : Locker) (store : RecordStore σ) (verb : Verb) (c : Cluster)
    (s : Session σ) :
    OnCourse store s.journal (l.run store verb c s).1 (l.exchanges store verb c s)
      (l.run store verb c s).2.journal := by
  have hstart : OnCourse store s.journal (l.start verb c s).1 [] (l.start verb c s).2.journal := by
    refine ⟨Course.start verb c, ?_⟩
    simp only [start, Journal.lockErrors_close, Journal.lockErrors_leave,
      Journal.lockErrors_writeAll, Journal.lockErrors_enter, Verb.errors_start]
    rfl
  have hrun : OnCourse store s.journal
      (l.run store.recorded verb c ⟨(s.state, []), s.journal⟩).1
      (l.run store.recorded verb c ⟨(s.state, []), s.journal⟩).2.state.2
      (l.run store.recorded verb c ⟨(s.state, []), s.journal⟩).2.journal :=
    OnCourse.step (OnCourse.step hstart)
  rw [run_recorded] at hrun
  exact hrun

theorem Locker.run_course (l : Locker) (store : RecordStore σ) (verb : Verb) (c : Cluster)
    (s : Session σ) :
    Course verb c (l.run store verb c s).1.phase (l.exchanges store verb c s) := by
  have hcourse := (l.run_onCourse store verb c s).course
  have hcall : (l.run store verb c s).1.verb = verb ∧ (l.run store verb c s).1.cluster = c := by
    simp only [run, LockCall.step_fst, start_fst, and_self]
  rwa [hcall.1, hcall.2] at hcourse

/-! ## The discipline -/

/-- The answer says that there is no record. -/
def SaysAbsent (a : Except StoreError Unit) : Prop := ∃ ns name, a = .error (.notFound ns name)

/-- An answer that the lock counts on: a good one, or that there is nothing to find or to delete,
or that there is a record already where one is to be created. -/
def Exchange.Expected : Exchange → Prop
  | ⟨_, .ok ()⟩ => True
  | ⟨.get .., .error (.notFound ..)⟩ => True
  | ⟨.create _, .error (.alreadyExists ..)⟩ => True
  | ⟨.delete .., .error (.notFound ..)⟩ => True
  | _ => False

/-- How a call is accounted for, given what it exchanged with the store: one counter is raised
once; the call has failed if the cluster is not complete or the last answer was not expected, and
just then the lock reports one error. -/
structure Accounted (store : RecordStore σ) (c : Cluster) (xs : List Exchange) (counter : Counter)
    (failed : Bool) (j j' : Journal) : Prop where
  counted : j'.counts = j.counts ++ [counter]
  failed_iff : failed = true ↔ ¬ c.Complete ∨ ∃ x, xs.getLast? = some x ∧ ¬ x.Expected
  errors : j'.lockErrors = j.lockErrors + store.announcedErrors xs + failed.toNat

/-- How an acquire deals with its store. -/
structure AcquireKept (store : RecordStore σ) (c : Cluster) (xs : List Exchange) (granted : Bool)
    (o : AcquireOutcome) (j j' : Journal) : Prop extends
    Accounted store c xs (.acquire o) (o == .error) j j' where
  refused : ¬ c.Complete → xs = []
  calls : c.Complete → ∃ a,
    (¬ SaysAbsent a ∧ xs = [⟨.get c.ns (c.uid ++ "-controlplane"), a⟩]) ∨
    (SaysAbsent a ∧ ∃ b, xs = [⟨.get c.ns (c.uid ++ "-controlplane"), a⟩,
      ⟨.create (.forCluster c), b⟩])
  granted_iff : granted = true ↔ ⟨.create (.forCluster c), .ok ()⟩ ∈ xs
  outcome : granted = true ↔ o = .acquired

/-- How a release deals with its store. -/
structure ReleaseKept (store : RecordStore σ) (c : Cluster) (xs : List Exchange) (granted : Bool)
    (o : ReleaseOutcome) (j j' : Journal) : Prop extends
    Accounted store c xs (.release o) (o == .error) j j' where
  refused : ¬ c.Complete → xs = []
  calls : c.Complete → ∃ a,
    (a ≠ .ok () ∧ xs = [⟨.get c.ns (c.uid ++ "-controlplane"), a⟩]) ∨
    (a = .ok () ∧ ∃ b, xs = [⟨.get c.ns (c.uid ++ "-controlplane"), a⟩,
      ⟨.delete c.ns (c.uid ++ "-controlplane"), b⟩])
  granted_iff : granted = true ↔
    (∃ a, SaysAbsent a ∧ ⟨.get c.ns (c.uid ++ "-controlplane"), a⟩ ∈ xs) ∨
    ∃ b, (b = .ok () ∨ SaysAbsent b) ∧ ⟨.delete c.ns (c.uid ++ "-controlplane"), b⟩ ∈ xs
  outcome : granted = true ↔ o = .released ∨ o = .absent

namespace Verb

variable {verb : Verb} (hv : verb ≠ .probe) (c : Cluster)

include hv

/-- A call that ends with its probe fails just when the answer was not expected. -/
theorem isError_afterProbe {a : Except StoreError Unit} {o : Outcome}
    (h : (verb.afterProbe a).1 = .finished o) :
    o.isError = true ↔ ¬ (Exchange.mk (probeCall c) a).Expected := by
  cases verb with
  | probe => exact absurd rfl hv
  | acquire =>
    cases a with
    | ok u => cases h; simp [Outcome.isError, Exchange.Expected]
    | error e => cases e <;> cases h <;> simp [Outcome.isError, Exchange.Expected, probeCall]
  | release =>
    cases a with
    | ok u => cases h
    | error e => cases e <;> cases h <;> simp [Outcome.isError, Exchange.Expected, probeCall]

theorem isError_afterDecision (b : Except StoreError Unit) :
    (verb.afterDecision b).1.isError = true ↔
      ¬ (Exchange.mk (verb.decisionCall c) b).Expected := by
  cases verb with
  | probe => exact absurd rfl hv
  | acquire =>
    cases b with
    | ok u => simp [afterDecision, Outcome.isError, Exchange.Expected]
    | error e =>
      cases e <;> simp [afterDecision, Outcome.isError, Exchange.Expected, decisionCall]
  | release =>
    cases b with
    | ok u => simp [afterDecision, Outcome.isError, Exchange.Expected]
    | error e =>
      cases e <;> simp [afterDecision, Outcome.isError, Exchange.Expected, decisionCall]

end Verb

theorem Course.isError_iff {verb : Verb} (hv : verb ≠ .probe) {c : Cluster} {p : Phase}
    {xs : List Exchange} (h : Course verb c p xs) {o : Outcome} (ho : p = .finished o) :
    o.isError = true ↔ ¬ c.Complete ∨ ∃ x, xs.getLast? = some x ∧ ¬ x.Expected := by
  cases h with
  | refused hc =>
    cases ho
    cases verb with
    | probe => exact absurd rfl hv
    | acquire => exact ⟨fun _ => Or.inl hc, fun _ => rfl⟩
    | release => exact ⟨fun _ => Or.inl hc, fun _ => rfl⟩
  | begun hc => cases ho
  | probed hc a =>
    have hc := hc.resolve_left hv
    rw [Verb.isError_afterProbe hv c ho]
    simp [hc]
  | decided hc a b ha =>
    have hc := hc.resolve_left hv
    cases ho
    rw [Verb.isError_afterDecision hv c b]
    simp [hc]

/-- An acquire or a release is accounted for by the outcome in which it ends. -/
theorem Locker.run_accounted (l : Locker) (store : RecordStore σ) {verb : Verb}
    (hv : verb ≠ .probe) (c : Cluster) (s : Session σ) {o : Outcome} {counter : Counter}
    (ho : (l.run store verb c s).1.phase = .finished o) (hc : o.counter? = some counter) :
    Accounted store c (l.exchanges store verb c s) counter o.isError s.journal
      (l.run store verb c s).2.journal := by
  have herrors := (l.run_onCourse store verb c s).errors
  have hcounts := l.run_counts store verb c s
  rw [ho] at herrors hcounts
  refine ⟨?_, (l.run_course store verb c s).isError_iff hv ho, herrors⟩
  rw [hcounts, Phase.counters, hc]
  rfl

theorem Course.acquire_spec {c : Cluster} {p : Phase} {xs : List Exchange}
    (h : Course .acquire c p xs) {o : AcquireOutcome} (ho : p = .finished (.acquire o)) :
    (¬ c.Complete → xs = []) ∧
      (c.Complete → ∃ a,
        (¬ SaysAbsent a ∧ xs = [⟨.get c.ns (c.uid ++ "-controlplane"), a⟩]) ∨
        (SaysAbsent a ∧ ∃ b, xs = [⟨.get c.ns (c.uid ++ "-controlplane"), a⟩,
          ⟨.create (.forCluster c), b⟩])) ∧
      (o = .acquired ↔ ⟨.create (.forCluster c), .ok ()⟩ ∈ xs) := by
  cases h with
  | refused hc =>
    cases ho
    exact ⟨fun _ => rfl, fun hc' => absurd hc' hc, by simp⟩
  | begun hc => cases ho
  | probed hc a =>
    have hc : c.Complete := hc.resolve_left nofun
    refine ⟨fun hn => absurd hc hn, fun _ => ⟨a, Or.inl ⟨?_, rfl⟩⟩, ?_⟩
    · rintro ⟨ns, name, rfl⟩
      cases ho
    · cases a with
      | ok u => cases ho; simp [Verb.probeCall]
      | error e => cases e <;> cases ho <;> simp [Verb.probeCall]
  | decided hc a b ha =>
    have hc : c.Complete := hc.resolve_left nofun
    have habsent : SaysAbsent a := by
      cases a with
      | ok u => cases ha
      | error e =>
        cases e with
        | notFound ns name => exact ⟨ns, name, rfl⟩
        | _ => cases ha
    refine ⟨fun hn => absurd hc hn, fun _ => ⟨a, Or.inr ⟨habsent, b, rfl⟩⟩, ?_⟩
    cases b with
    | ok u => cases ho; simp [Verb.decisionCall]
    | error e => cases e <;> cases ho <;> simp [Verb.probeCall, Verb.decisionCall]

theorem Course.release_spec {c : Cluster} {p : Phase} {xs : List Exchange}
    (h : Course .release c p xs) {o : ReleaseOutcome} (ho : p = .finished (.release o)) :
    (¬ c.Complete → xs = []) ∧
      (c.Complete → ∃ a,
        (a ≠ .ok () ∧ xs = [⟨.get c.ns (c.uid ++ "-controlplane"), a⟩]) ∨
        (a = .ok () ∧ ∃ b, xs = [⟨.get c.ns (c.uid ++ "-controlplane"), a⟩,
          ⟨.delete c.ns (c.uid ++ "-controlplane"), b⟩])) ∧
      (o ≠ .error ↔ (∃ a, SaysAbsent a ∧ ⟨.get c.ns (c.uid ++ "-controlplane"), a⟩ ∈ xs) ∨
        ∃ b, (b = .ok () ∨ SaysAbsent b) ∧
          ⟨.delete c.ns (c.uid ++ "-controlplane"), b⟩ ∈ xs) := by
  have hname : c.lockName = c.uid ++ "-controlplane" := rfl
  cases h with
  | refused hc =>
    cases ho
    exact ⟨fun _ => rfl, fun hc' => absurd hc' hc, by simp⟩
  | begun hc => cases ho
  | probed hc a =>
    have hc : c.Complete := hc.resolve_left nofun
    refine ⟨fun hn => absurd hc hn, fun _ => ⟨a, Or.inl ⟨?_, rfl⟩⟩, ?_⟩
    · rintro rfl
      cases ho
    · cases a with
      | ok u => cases ho
      | error e => cases e <;> cases ho <;> simp [Verb.probeCall, SaysAbsent, hname]
  | decided hc a b ha =>
    have hc : c.Complete := hc.resolve_left nofun
    have hfound : a = .ok () := by
      cases a with
      | ok u => rfl
      | error e => cases e <;> cases ha
    subst hfound
    refine ⟨fun hn => absurd hc hn, fun _ => ⟨.ok (), Or.inr ⟨rfl, b, rfl⟩⟩, ?_⟩
    cases b with
    | ok u => cases ho; simp [Verb.decisionCall, hname]
    | error e =>
      cases e <;> cases ho <;> simp [Verb.probeCall, Verb.decisionCall, SaysAbsent, hname]

/-- **The discipline of lock calls**, on any store and any cluster. -/
theorem call_discipline (l : Locker) (store : RecordStore σ) (c : Cluster) (s : Session σ) :
    (∃ o, AcquireKept store c (l.exchanges store .acquire c s) (l.acquire store c s).1 o s.journal
      (l.acquire store c s).2.journal) ∧
    ∃ o, ReleaseKept store c (l.exchanges store .release c s) (l.release store c s).1 o s.journal
      (l.release store c s).2.journal := by
  constructor
  · obtain ⟨o, ho, hverb⟩ := l.run_outcome store .acquire c s
    cases o with
    | acquire o =>
      obtain ⟨hrefused, hcalls, hcreated⟩ := (l.run_course store .acquire c s).acquire_spec ho
      have hgranted : (l.acquire store c s).1 = true ↔ o = .acquired := by
        simp only [Locker.acquire, LockCall.granted, ho, Outcome.granted, beq_iff_eq]
      exact ⟨o, l.run_accounted store (by decide) c s ho rfl, hrefused, hcalls,
        hgranted.trans hcreated, hgranted⟩
    | _ => cases hverb
  · obtain ⟨o, ho, hverb⟩ := l.run_outcome store .release c s
    cases o with
    | release o =>
      obtain ⟨hrefused, hcalls, hgone⟩ := (l.run_course store .release c s).release_spec ho
      have hgranted : (l.release store c s).1 = true ↔ o ≠ .error := by
        simp only [Locker.release, LockCall.granted, ho, Outcome.granted, bne_iff_ne]
      have houtcome : o ≠ .error ↔ o = .released ∨ o = .absent := by
        cases o <;> simp
      exact ⟨o, l.run_accounted store (by decide) c s ho rfl, hrefused, hcalls,
        hgranted.trans hgone, hgranted.trans houtcome⟩
    | _ => cases hverb

end ClusterLock
