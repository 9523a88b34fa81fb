import ClusterLock.Execution

/-
  What one turn of a lock call does, journal aside. `Phase.advance` is the turn without its notes;
  `step_fst` and `step_state` say that `LockCall.step` takes the call and the store where
  `Phase.advance` takes them, and `step_counts` which counters it raises. `execute_eq` says that
  what a command answers is the answer of the outcome in which its call ends. Statements about
  calls side by side rest on these and do not look into `step`.
-/
namespace ClusterLock

variable {σ : Type}

/-! ## Verdicts -/

namespace RecordStore

theorem verdict_get (store : RecordStore σ) (ns name : String) (s : σ) :
    store.verdict (.get ns name) s = (forget (store.get ns name s).1, (store.get ns name s).2) :=
  rfl

theorem verdict_create (store : RecordStore σ) (r : LockRecord) (s : σ) :
    store.verdict (.create r) s = (forget (store.create r s).1, (store.create r s).2) := rfl

theorem verdict_delete (store : RecordStore σ) (ns name : String) (s : σ) :
    store.verdict (.delete ns name) s = store.delete ns name s := rfl

end RecordStore

/-! ## Phases -/

namespace Phase

def isFinished : Phase → Bool
  | finished _ => true
  | _ => false

/-- The turn of a call in this phase, without its notes. -/
def advance (store : RecordStore σ) (verb : Verb) (c : Cluster) : Phase → σ → Phase × σ
  | probing, s =>
    ((verb.afterProbe (store.verdict (Verb.probeCall c) s).1).1,
      (store.verdict (Verb.probeCall c) s).2)
  | deciding, s =>
    (.finished (verb.afterDecision (store.verdict (verb.decisionCall c) s).1).1,
      (store.verdict (verb.decisionCall c) s).2)
  | finished o, s => (.finished o, s)

/-- The counters that a call raises as it enters this phase. -/
def counters : Phase → List Counter
  | finished o => o.counter?.toList
  | _ => []

theorem advance_finished (store : RecordStore σ) (verb : Verb) (c : Cluster) {p : Phase}
    (h : p.isFinished) (s : σ) : p.advance store verb c s = (p, s) := by
  cases p with
  | finished o => rfl
  | probing => simp [isFinished] at h
  | deciding => simp [isFinished] at h

theorem counters_of_not_finished {p : Phase} (h : p.isFinished = false) : p.counters = [] := by
  cases p with
  | finished o => cases h
  | probing => rfl
  | deciding => rfl

end Phase

/-! ## The turn -/

namespace Journal

@[simp] theorem counts_enter (j : Journal) (s : Scope) : (j.enter s).counts = j.counts := rfl

@[simp] theorem counts_leave (j : Journal) : j.leave.counts = j.counts := rfl

@[simp] theorem counts_writeAll (j : Journal) (notes : List Note) :
    (j.writeAll notes).counts = j.counts := by
  rw [writeAll_eq]

end Journal

namespace LockCall

theorem isFinished_eq (call : LockCall) : call.isFinished = call.phase.isFinished := rfl

theorem counts_close (j : Journal) (p : Phase) : (close j p).counts = j.counts ++ p.counters := by
  cases p with
  | probing => simp [close, Phase.counters]
  | deciding => simp [close, Phase.counters]
  | finished o =>
    cases h : o.counter? with
    | none => simp [close, Phase.counters, h]
    | some c => simp [close, Phase.counters, h, Journal.count]

theorem step_of_isFinished (store : RecordStore σ) {call : LockCall} (hf : call.isFinished)
    (s : Session σ) : call.step store s = (call, s) := by
  obtain ⟨verb, c, scope, phase⟩ := call
  cases phase with
  | probing => cases hf
  | deciding => cases hf
  | finished o => rfl

theorem step_fst (store : RecordStore σ) (call : LockCall) (s : Session σ) :
    (call.step store s).1 =
      { call with phase := (call.phase.advance store call.verb call.cluster s.state).1 } := by
  obtain ⟨verb, c, scope, phase⟩ := call
  cases phase <;> rfl

theorem step_state (store : RecordStore σ) (call : LockCall) (s : Session σ) :
    (call.step store s).2.state =
      (call.phase.advance store call.verb call.cluster s.state).2 := by
  obtain ⟨verb, c, scope, phase⟩ := call
  cases phase <;> rfl

/-- A turn raises a counter only if the call comes to its end in it. -/
theorem step_counts (store : RecordStore σ) (call : LockCall) (s : Session σ) :
    (call.step store s).2.journal.counts = s.journal.counts ++
      if call.isFinished then []
      else (call.phase.advance store call.verb call.cluster s.state).1.counters := by
  obtain ⟨verb, c, scope, phase⟩ := call
  cases phase with
  | finished o => simp [step, isFinished]
  | probing =>
    simp only [step, exchange, counts_close, isFinished, Phase.advance, Journal.counts_leave,
      Journal.counts_writeAll, Journal.counts_enter]
    rfl
  | deciding =>
    simp only [step, exchange, counts_close, isFinished, Phase.advance, Journal.counts_leave,
      Journal.counts_writeAll, Journal.counts_enter]
    rfl

/-- Counters that tell how far a call has come tell it after its turn too. -/
theorem counts_step (store : RecordStore σ) (call : LockCall) {s : Session σ}
    {before : List Counter} (h : s.journal.counts = before ++ call.phase.counters) :
    (call.step store s).2.journal.counts = before ++ (call.step store s).1.phase.counters := by
  rw [step_counts, step_fst, h]
  cases hf : call.isFinished with
  | true => rw [if_pos rfl, List.append_nil, Phase.advance_finished _ _ _ hf]
  | false =>
    rw [Phase.counters_of_not_finished hf, List.append_nil]
    rfl

theorem granted_eq (call : LockCall) :
    call.granted = true ↔ ∃ o, call.phase = .finished o ∧ o.granted = true := by
  obtain ⟨verb, c, scope, phase⟩ := call
  cases phase with
  | finished o => simp [granted]
  | probing => simp [granted]
  | deciding => simp [granted]

end LockCall

/-! ## The beginning -/

theorem Cluster.validate_of_complete {c : Cluster} (h : c.Complete) : c.validate = .ok c := by
  unfold validate
  rw [c.missing_eq_nil_iff.2 h]

theorem Cluster.validate_of_not_complete {c : Cluster} (h : ¬ c.Complete) :
    ∃ e, c.validate = .error e := by
  unfold validate
  split
  · rename_i hm
    exact absurd (c.missing_eq_nil_iff.1 hm) h
  · exact ⟨_, rfl⟩

namespace Verb

/-- How a call on an incomplete cluster ends at once. -/
def refusal : Verb → Outcome
  | acquire => .acquire .error
  | release => .release .error
  | probe => .found false

/-- Only a probe goes ahead on a cluster that is not complete. -/
theorem start_fst (verb : Verb) (c : Cluster) :
    (verb.start c).1 =
      if verb = .probe ∨ c.Complete then .probing else .finished verb.refusal := by
  by_cases h : c.Complete
  · rw [if_pos (Or.inr h)]
    cases verb <;> simp [start, Cluster.validate_of_complete h]
  · obtain ⟨e, he⟩ := Cluster.validate_of_not_complete h
    cases verb <;> simp [start, he, h, refusal]

end Verb

namespace Locker

theorem start_fst (l : Locker) (verb : Verb) (c : Cluster) (s : Session σ) :
    (l.start verb c s).1 = ⟨verb, c, l.callScope verb c s.journal.current, (verb.start c).1⟩ := rfl

theorem start_state (l : Locker) (verb : Verb) (c : Cluster) (s : Session σ) :
    (l.start verb c s).2.state = s.state := rfl

theorem start_counts (l : Locker) (verb : Verb) (c : Cluster) (s : Session σ) :
    (l.start verb c s).2.journal.counts = s.journal.counts ++ (verb.start c).1.counters := by
  simp only [start, LockCall.counts_close, Journal.counts_leave, Journal.counts_writeAll,
    Journal.counts_enter]

end Locker

/-! ## Answers -/

/-- What the caller is told: a probe that fails tells why, every other call says yes or no. -/
def Outcome.answer : Outcome → Except StoreError Bool
  | .unreadable e => .error e
  | o => .ok o.granted

/-- The answer of a call that has come to its end. -/
def LockCall.answer? (call : LockCall) : Option (Except StoreError Bool) :=
  match call.phase with
  | .finished o => some o.answer
  | _ => none

/-- The verb of a call that ends like this. -/
def Outcome.verb : Outcome → Verb
  | .acquire _ => .acquire
  | .release _ => .release
  | _ => .probe

theorem Outcome.answer_of_verb_ne_probe {o : Outcome} (h : o.verb ≠ .probe) :
    o.answer = .ok o.granted := by
  cases o with
  | acquire o => rfl
  | release o => rfl
  | found b => rfl
  | unreadable e => exact absurd rfl h

namespace Verb

theorem verb_afterDecision (verb : Verb) (a : Except StoreError Unit) :
    (verb.afterDecision a).1.verb = verb := by
  cases verb <;> cases a with
  | ok u => rfl
  | error e => cases e <;> rfl

theorem verb_afterProbe (verb : Verb) (a : Except StoreError Unit) {o : Outcome}
    (h : (verb.afterProbe a).1 = .finished o) : o.verb = verb := by
  cases verb <;> cases a with
  | ok u => cases h <;> rfl
  | error e => cases e <;> cases h <;> rfl

theorem verb_refusal (verb : Verb) : verb.refusal.verb = verb := by
  cases verb <;> rfl

/-- A call ends in an outcome of its own verb. -/
theorem verb_advance (store : RecordStore σ) (verb : Verb) (c : Cluster) {p : Phase}
    (h : ∀ o, p = .finished o → o.verb = verb) (s : σ) {o : Outcome}
    (ho : (p.advance store verb c s).1 = .finished o) : o.verb = verb := by
  cases p with
  | probing => exact verb.verb_afterProbe _ ho
  | deciding =>
    simp only [Phase.advance, Phase.finished.injEq] at ho
    rw [← ho]
    exact verb.verb_afterDecision _
  | finished o' => exact h o ho

theorem verb_start (verb : Verb) (c : Cluster) {o : Outcome}
    (h : (verb.start c).1 = .finished o) : o.verb = verb := by
  rw [start_fst] at h
  split at h
  · cases h
  · simp only [Phase.finished.injEq] at h
    rw [← h]
    exact verb.verb_refusal

/-- A probe is over after one exchange with the store, the other calls after at most two. -/
theorem isFinished_two_turns (store : RecordStore σ) (verb : Verb) (c : Cluster) (s t : σ) :
    (((verb.start c).1.advance store verb c s).1.advance store verb c t).1.isFinished = true := by
  rw [start_fst]
  split
  · simp only [Phase.advance]
    cases h : (verb.afterProbe (store.verdict (probeCall c) s).1).1 with
    | probing =>
      exfalso
      revert h
      cases verb <;> cases (store.verdict (probeCall c) s).1 with
      | ok u => simp [afterProbe]
      | error e => cases e <;> simp [afterProbe]
    | deciding => rfl
    | finished o => rfl
  · rfl

/-- An acquire is never granted by its probe. -/
theorem granted_afterProbe (a : Except StoreError Unit) {o : Outcome}
    (h : (acquire.afterProbe a).1 = .finished o) : o.granted = false := by
  cases a with
  | ok u => cases h; rfl
  | error e => cases e <;> cases h <;> rfl

theorem granted_afterDecision (a : Except StoreError Unit) :
    (acquire.afterDecision a).1.granted = true ↔ a = .ok () := by
  cases a with
  | ok u => exact ⟨fun _ => rfl, fun _ => rfl⟩
  | error e =>
    refine ⟨fun h => ?_, fun h => by cases h⟩
    cases e <;> cases h

/-- An acquire is granted by a create that succeeds and by nothing else. -/
theorem create_of_granted (store : RecordStore σ) (c : Cluster) {p : Phase} (s : σ)
    (hf : p.isFinished = false) {o : Outcome}
    (ho : (p.advance store .acquire c s).1 = .finished o) (hg : o.granted = true) :
    p = .deciding ∧ ∃ a, store.create (.forCluster c) s =
      (.ok a, (p.advance store .acquire c s).2) := by
  cases p with
  | finished o' => cases hf
  | probing =>
    rw [granted_afterProbe _ ho] at hg
    cases hg
  | deciding =>
    refine ⟨rfl, ?_⟩
    simp only [Phase.advance, decisionCall, RecordStore.verdict_create,
      Phase.finished.injEq] at ho ⊢
    rw [← ho, granted_afterDecision] at hg
    cases h : store.create (.forCluster c) s with
    | mk answer s' =>
      rw [h] at hg
      cases answer with
      | ok a => exact ⟨a, rfl⟩
      | error e => cases hg

/-- A release is granted by a store that does not find the record, or that deletes it. -/
theorem release_of_granted (store : RecordStore σ) (c : Cluster) {p : Phase} (s : σ)
    (hf : p.isFinished = false) {o : Outcome}
    (ho : (p.advance store .release c s).1 = .finished o) (hg : o.granted = true) :
    (p = .probing ∧
      ∃ ns name, (store.verdict (probeCall c) s).1 = .error (.notFound ns name)) ∨
    (p = .deciding ∧ ((store.verdict (.delete c.ns c.lockName) s).1 = .ok () ∨
      ∃ ns name, (store.verdict (.delete c.ns c.lockName) s).1 = .error (.notFound ns name))) := by
  cases p with
  | finished o' => cases hf
  | probing =>
    refine Or.inl ⟨rfl, ?_⟩
    simp only [Phase.advance] at ho
    cases h : (store.verdict (probeCall c) s).1 with
    | ok u => rw [h] at ho; cases ho
    | error e =>
      rw [h] at ho
      cases e with
      | notFound ns name => exact ⟨ns, name, rfl⟩
      | _ => cases ho; cases hg
  | deciding =>
    refine Or.inr ⟨rfl, ?_⟩
    simp only [Phase.advance, decisionCall, Phase.finished.injEq] at ho
    cases h : (store.verdict (.delete c.ns c.lockName) s).1 with
    | ok u => exact Or.inl rfl
    | error e =>
      rw [h] at ho
      subst ho
      cases e with
      | notFound ns name => exact Or.inr ⟨ns, name, rfl⟩
      | _ => cases hg

end Verb

namespace Locker

theorem run_phase (l : Locker) (store : RecordStore σ) (verb : Verb) (c : Cluster)
    (s : Session σ) :
    (l.run store verb c s).1.phase =
      (((verb.start c).1.advance store verb c s.state).1.advance store verb c
        ((verb.start c).1.advance store verb c s.state).2).1 := by
  simp only [run, LockCall.step_fst, LockCall.step_state, start_fst, start_state]

theorem run_state (l : Locker) (store : RecordStore σ) (verb : Verb) (c : Cluster)
    (s : Session σ) :
    (l.run store verb c s).2.state =
      (((verb.start c).1.advance store verb c s.state).1.advance store verb c
        ((verb.start c).1.advance store verb c s.state).2).2 := by
  simp only [run, LockCall.step_fst, LockCall.step_state, start_fst, start_state]

/-- What holds at the beginning of a call and is kept by its turns holds at its end. -/
theorem run_invariant (l : Locker) (store : RecordStore σ) (verb : Verb) (c : Cluster)
    {P : Phase → σ → Prop}
    (hstep : ∀ p s, P p s → P (p.advance store verb c s).1 (p.advance store verb c s).2)
    {s : Session σ} (h : P (verb.start c).1 s.state) :
    P (l.run store verb c s).1.phase (l.run store verb c s).2.state := by
  rw [run_phase, run_state]
  exact hstep _ _ (hstep _ _ h)

/-- A map between the states of two stores that takes verdicts to verdicts takes whole calls to
whole calls. -/
theorem run_map {τ : Type} (l : Locker) {store : RecordStore σ} {store' : RecordStore τ}
    {f : σ → τ}
    (hf : ∀ q s, store'.verdict q (f s) = ((store.verdict q s).1, f (store.verdict q s).2))
    (verb : Verb) (c : Cluster) (s : σ) (j j' : Journal) :
    (l.run store' verb c ⟨f s, j'⟩).1.phase = (l.run store verb c ⟨s, j⟩).1.phase ∧
      (l.run store' verb c ⟨f s, j'⟩).2.state = f (l.run store verb c ⟨s, j⟩).2.state := by
  have hadvance : ∀ (p : Phase) (s : σ), p.advance store' verb c (f s) =
      ((p.advance store verb c s).1, f (p.advance store verb c s).2) := by
    intro p s
    cases p with
    | finished o => rfl
    | probing => simp only [Phase.advance, hf]
    | deciding => simp only [Phase.advance, hf]
  simp only [run_phase, run_state, hadvance, and_self]

/-- A whole call raises the counter of the outcome in which it ends and no other. -/
theorem run_counts (l : Locker) (store : RecordStore σ) (verb : Verb) (c : Cluster)
    (s : Session σ) :
    (l.run store verb c s).2.journal.counts =
      s.journal.counts ++ (l.run store verb c s).1.phase.counters :=
  LockCall.counts_step store _ (LockCall.counts_step store _ (l.start_counts verb c s))

theorem run_isFinished (l : Locker) (store : RecordStore σ) (verb : Verb) (c : Cluster)
    (s : Session σ) : (l.run store verb c s).1.isFinished = true := by
  rw [LockCall.isFinished_eq, run_phase]
  exact verb.isFinished_two_turns store c _ _

/-- A whole call ends in an outcome of its own verb. -/
theorem run_outcome (l : Locker) (store : RecordStore σ) (verb : Verb) (c : Cluster)
    (s : Session σ) :
    ∃ o, (l.run store verb c s).1.phase = .finished o ∧ o.verb = verb := by
  have hf := l.run_isFinished store verb c s
  rw [LockCall.isFinished_eq] at hf
  have hverb : ∀ o, (l.run store verb c s).1.phase = .finished o → o.verb = verb :=
    l.run_invariant store verb c (P := fun p _ => ∀ o, p = .finished o → o.verb = verb)
      (fun _ t h _ ho => verb.verb_advance store c h t ho) fun _ ho => verb.verb_start c ho
  cases hp : (l.run store verb c s).1.phase with
  | probing => rw [hp] at hf; cases hf
  | deciding => rw [hp] at hf; cases hf
  | finished o => exact ⟨o, rfl, hverb o hp⟩

/-- What a command answers is the answer of the outcome in which its call ends. -/
theorem execute_eq (l : Locker) (store : RecordStore σ) (v : Verb) (c : Cluster)
    (s : Session σ) :
    ∃ a, (l.run store v c s).1.answer? = some a ∧
      l.execute store v c s = (a.mapError .unreadable, (l.run store v c s).2) := by
  obtain ⟨o, hp, hv⟩ := l.run_outcome store v c s
  refine ⟨o.answer, by rw [LockCall.answer?, hp], ?_⟩
  cases v with
  | acquire =>
    rw [Outcome.answer_of_verb_ne_probe (by rw [hv]; decide)]
    simp only [execute, acquire, LockCall.granted, hp]
    rfl
  | release =>
    rw [Outcome.answer_of_verb_ne_probe (by rw [hv]; decide)]
    simp only [execute, release, LockCall.granted, hp]
    rfl
  | probe =>
    cases o with
    | unreadable e => simp only [execute, isLocked, hp]; rfl
    | acquire o => simp only [execute, isLocked, LockCall.granted, hp]; rfl
    | release o => simp only [execute, isLocked, LockCall.granted, hp]; rfl
    | found b => simp only [execute, isLocked, LockCall.granted, hp]; rfl

theorem execute_state (l : Locker) (store : RecordStore σ) (v : Verb) (c : Cluster)
    (s : Session σ) : (l.execute store v c s).2 = (l.run store v c s).2 := by
  obtain ⟨a, -, h⟩ := l.execute_eq store v c s
  rw [h]

theorem execute_release (l : Locker) (store : RecordStore σ) (c : Cluster) (s : Session σ) :
    (l.execute store .release c s).1 = .ok (l.run store .release c s).1.granted := rfl

end Locker

end ClusterLock
