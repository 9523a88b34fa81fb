import ClusterLock.Proofs.Turn

/-
  Lock calls side by side. A `System` holds every call that has been begun and what the calls
  share; a `Move` begins a call or gives one its turn, and a turn may meet a fault in place of the
  store. A list of moves is a schedule: any number of lockers, any verbs, any order of store calls.
  `calls_move_turn` and `state_move_turn` say what a turn does, `getElem?_move_cases` where a call
  comes from, and `getElem?_run_of_isFinished` that a call which has come to its end stays as it is.
  `run_wholeCall` finds a call that nothing comes in between among the schedules. `Admitted` is the
  invariant of all runs.
-/
namespace ClusterLock

variable {σ : Type}

/-- The store with a fault in the way: the call is answered by the error and not made. -/
def RecordStore.failing (store : RecordStore σ) : Option StoreError → RecordStore σ
  | none => store
  | some e =>
    { get := fun _ _ s => (.error e, s)
      create := fun _ s => (.error e, s)
      delete := fun _ _ s => (.error e, s) }

@[simp] theorem RecordStore.failing_none (store : RecordStore σ) : store.failing none = store := rfl

@[simp] theorem RecordStore.verdict_failing_some (store : RecordStore σ) (e : StoreError)
    (q : StoreCall) (s : σ) : (store.failing (some e)).verdict q s = (.error e, s) := by
  cases q <;> rfl

/-- The calls that have been begun, in the order of their beginnings, and what they share. -/
structure System (σ : Type) where
  calls : List LockCall := []
  session : Session σ

/-- What one caller does at a time. Calls are named by their place in the order of beginnings. -/
inductive Move
  | start (l : Locker) (caller : Scope) (verb : Verb) (c : Cluster)
  | turn (i : Nat) (fault : Option StoreError)

namespace System

/-- The state of the shared store. -/
abbrev state (S : System σ) : σ := S.session.state

/-- The counters that have been raised. -/
abbrev counts (S : System σ) : List Counter := S.session.journal.counts

/-- The system after a move. A turn of a call that has not been begun does nothing. -/
def move (store : RecordStore σ) (S : System σ) : Move → System σ
  | .start l caller verb c =>
    let inside := { S.session with journal := S.session.journal.enter caller }
    let (call, s) := l.start verb c inside
    ⟨S.calls ++ [call], { s with journal := s.journal.leave }⟩
  | .turn i fault =>
    match S.calls[i]? with
    | none => S
    | some call =>
      let (call, s) := call.step (store.failing fault) S.session
      ⟨S.calls.set i call, s⟩

def run (store : RecordStore σ) (S : System σ) (moves : List Move) : System σ :=
  moves.foldl (move store) S

/-- Nothing has been begun yet. -/
def fresh (s : Session σ) : System σ := ⟨[], s⟩

@[simp] theorem run_nil (store : RecordStore σ) (S : System σ) : S.run store [] = S := rfl

@[simp] theorem run_cons (store : RecordStore σ) (S : System σ) (m : Move) (ms : List Move) :
    S.run store (m :: ms) = (S.move store m).run store ms := rfl

/-- What every move keeps holds after a whole schedule. -/
theorem run_invariant (store : RecordStore σ) {P : System σ → Prop}
    (hstep : ∀ S m, P S → P (S.move store m)) {S : System σ} (h : P S) (ms : List Move) :
    P (S.run store ms) := by
  induction ms generalizing S with
  | nil => exact h
  | cons m ms ih => exact ih (hstep S m h)

/-! ## What a move does -/

theorem calls_move_start (store : RecordStore σ) (S : System σ) (l : Locker) (caller : Scope)
    (verb : Verb) (c : Cluster) :
    (S.move store (.start l caller verb c)).calls =
      S.calls ++ [⟨verb, c, l.callScope verb c caller, (verb.start c).1⟩] := rfl

theorem state_move_start (store : RecordStore σ) (S : System σ) (l : Locker) (caller : Scope)
    (verb : Verb) (c : Cluster) : (S.move store (.start l caller verb c)).state = S.state := rfl

theorem counts_move_start (store : RecordStore σ) (S : System σ) (l : Locker) (caller : Scope)
    (verb : Verb) (c : Cluster) :
    (S.move store (.start l caller verb c)).counts = S.counts ++ (verb.start c).1.counters :=
  l.start_counts verb c _

theorem move_turn_of_none (store : RecordStore σ) {S : System σ} {i : Nat}
    (h : S.calls[i]? = none) (fault : Option StoreError) :
    S.move store (.turn i fault) = S := by
  simp only [move, h]

section Turn

variable (store : RecordStore σ) {S : System σ} {i : Nat} {call : LockCall}
  (h : S.calls[i]? = some call) (fault : Option StoreError)

include h

theorem calls_move_turn :
    (S.move store (.turn i fault)).calls = S.calls.set i
      { call with
        phase := (call.phase.advance (store.failing fault) call.verb call.cluster S.state).1 } := by
  simp only [move, h]
  rw [LockCall.step_fst]

theorem state_move_turn :
    (S.move store (.turn i fault)).state =
      (call.phase.advance (store.failing fault) call.verb call.cluster S.state).2 := by
  simp only [move, h, state]
  rw [LockCall.step_state]

theorem counts_move_turn :
    (S.move store (.turn i fault)).counts = S.counts ++
      if call.isFinished then []
      else (call.phase.advance (store.failing fault) call.verb call.cluster
        S.state).1.counters := by
  simp only [move, h, counts, state]
  rw [LockCall.step_counts]

theorem getElem?_move_turn :
    (S.move store (.turn i fault)).calls[i]? = some
      { call with
        phase := (call.phase.advance (store.failing fault) call.verb call.cluster S.state).1 } := by
  have hi : i < S.calls.length := (List.getElem?_eq_some_iff.1 h).1
  rw [calls_move_turn store h fault, List.getElem?_set_self hi]

theorem getElem?_move_turn_of_ne {j : Nat} (hj : j ≠ i) :
    (S.move store (.turn i fault)).calls[j]? = S.calls[j]? := by
  rw [calls_move_turn store h fault, List.getElem?_set_ne (Ne.symm hj)]

/-- A turn of a call that has come to its end does nothing. -/
theorem move_turn_of_isFinished (hf : call.isFinished) : S.move store (.turn i fault) = S := by
  have hi : i < S.calls.length := (List.getElem?_eq_some_iff.1 h).1
  have he : S.calls[i] = call := (List.getElem?_eq_some_iff.1 h).2
  simp only [move, h, LockCall.step_of_isFinished _ hf]
  rw [← he, List.set_getElem_self hi]

end Turn

/-! ## What a call keeps -/

theorem getElem?_move_of_isFinished (store : RecordStore σ) {S : System σ} {i : Nat}
    {call : LockCall} (h : S.calls[i]? = some call) (hf : call.isFinished) (m : Move) :
    (S.move store m).calls[i]? = some call := by
  have hi : i < S.calls.length := (List.getElem?_eq_some_iff.1 h).1
  cases m with
  | start l caller verb c => rw [calls_move_start, List.getElem?_append_left hi, h]
  | turn j fault =>
    cases h' : S.calls[j]? with
    | none => rw [move_turn_of_none store h', h]
    | some call' =>
      by_cases hj : i = j
      · subst hj
        rw [move_turn_of_isFinished store h fault hf, h]
      · rw [getElem?_move_turn_of_ne store h' fault hj, h]

/-- Where a call in the system after a move comes from: it stands as it stood, it has just been
begun, or it has just taken its turn. -/
theorem getElem?_move_cases (store : RecordStore σ) {S : System σ} {m : Move} {i : Nat}
    {call : LockCall} (h : (S.move store m).calls[i]? = some call) :
    S.calls[i]? = some call ∨
      (∃ l caller verb c, m = .start l caller verb c ∧ i = S.calls.length ∧
        call = ⟨verb, c, l.callScope verb c caller, (verb.start c).1⟩) ∨
      ∃ fault before, m = .turn i fault ∧ S.calls[i]? = some before ∧
        before.isFinished = false ∧
        call = { before with
          phase := (before.phase.advance (store.failing fault) before.verb before.cluster
            S.state).1 } := by
  cases m with
  | start l caller verb c =>
    rw [calls_move_start, List.getElem?_append] at h
    split at h
    · exact Or.inl h
    · rename_i hi
      rw [List.getElem?_singleton] at h
      split at h
      · rename_i h0
        exact Or.inr (Or.inl ⟨l, caller, verb, c, rfl, by omega, (Option.some.inj h).symm⟩)
      · cases h
  | turn j fault =>
    cases hj : S.calls[j]? with
    | none =>
      rw [move_turn_of_none store hj] at h
      exact Or.inl h
    | some before =>
      cases hf : before.isFinished with
      | true =>
        rw [move_turn_of_isFinished store hj fault hf] at h
        exact Or.inl h
      | false =>
        by_cases hij : i = j
        · subst hij
          rw [getElem?_move_turn store hj fault] at h
          exact Or.inr (Or.inr ⟨fault, before, rfl, hj, hf, (Option.some.inj h).symm⟩)
        · rw [getElem?_move_turn_of_ne store hj fault hij] at h
          exact Or.inl h

/-- What holds of a call at its beginning and is kept by its turns is kept by a move as a fact
about all calls. -/
theorem all_calls_move (store : RecordStore σ) {P : LockCall → Prop}
    (hstart : ∀ verb c scope, P ⟨verb, c, scope, (verb.start c).1⟩)
    (hturn : ∀ (call : LockCall) fault s, P call → P { call with
      phase := (call.phase.advance (store.failing fault) call.verb call.cluster s).1 })
    {S : System σ} (h : ∀ (i : Nat) (call : LockCall), S.calls[i]? = some call → P call)
    (m : Move) (i : Nat) (call : LockCall) (hc : (S.move store m).calls[i]? = some call) :
    P call := by
  rcases getElem?_move_cases store hc with hold | ⟨l, caller, verb, c, -, -, rfl⟩ |
    ⟨fault, before, -, hb, -, rfl⟩
  · exact h i call hold
  · exact hstart verb c _
  · exact hturn before fault S.state (h i before hb)

theorem getElem?_run_of_isFinished (store : RecordStore σ) {S : System σ} {i : Nat}
    {call : LockCall} (h : S.calls[i]? = some call) (hf : call.isFinished) (ms : List Move) :
    (S.run store ms).calls[i]? = some call := by
  induction ms generalizing S with
  | nil => exact h
  | cons m ms ih => exact ih (getElem?_move_of_isFinished store h hf m)

/-- The moves of a lock call that nothing comes in between. -/
def wholeCall (i : Nat) (l : Locker) (caller : Scope) (verb : Verb) (c : Cluster) : List Move :=
  [.start l caller verb c, .turn i none, .turn i none]

/-- A lock call on its own is a schedule of three moves, whoever the caller is. -/
theorem run_wholeCall (l : Locker) (caller : Scope) (store : RecordStore σ) (verb : Verb)
    (c : Cluster) (s : Session σ) :
    ((fresh s).run store (wholeCall 0 l caller verb c)).calls =
        [{ (l.run store verb c s).1 with scope := l.callScope verb c caller }] ∧
      ((fresh s).run store (wholeCall 0 l caller verb c)).state =
        (l.run store verb c s).2.state ∧
      ((fresh s).run store (wholeCall 0 l caller verb c)).counts =
        (l.run store verb c s).2.journal.counts := by
  have h0 := calls_move_start store (fresh s) l caller verb c
  have h0' := congrArg (·[0]?) h0
  have h1 := calls_move_turn store h0' none
  rw [h0] at h1
  have h1' := congrArg (·[0]?) h1
  have h2 := calls_move_turn store h1' none
  rw [h1] at h2
  refine ⟨?_, ?_, ?_⟩
  · refine h2.trans ?_
    rw [state_move_turn store h0' none, state_move_start]
    simp only [Locker.run, LockCall.step_fst, LockCall.step_state, Locker.start_fst,
      Locker.start_state]
    rfl
  · refine (state_move_turn store h1' none).trans ?_
    rw [state_move_turn store h0' none, state_move_start]
    simp only [Locker.run, LockCall.step_fst, LockCall.step_state, Locker.start_fst,
      Locker.start_state]
    rfl
  · refine (counts_move_turn store h1' none).trans ?_
    rw [counts_move_turn store h0' none, state_move_turn store h0' none, counts_move_start,
      state_move_start]
    simp only [Locker.run, LockCall.step_fst, LockCall.step_state, LockCall.step_counts,
      Locker.start_fst, Locker.start_state, Locker.start_counts]
    rfl

end System

/-! ## Calls that have been let in -/

/-- A call that is under way has been let in: it is a probe or its cluster is complete, and no
probe comes as far as a create or a delete. -/
def LockCall.Admitted (call : LockCall) : Prop :=
  match call.phase with
  | .probing => call.verb = .probe ∨ call.cluster.Complete
  | .deciding => call.verb ≠ .probe ∧ call.cluster.Complete
  | .finished _ => True

namespace LockCall

theorem admitted_start (verb : Verb) (c : Cluster) (scope : Scope) :
    Admitted ⟨verb, c, scope, (verb.start c).1⟩ := by
  unfold Admitted
  rw [Verb.start_fst]
  by_cases h : verb = .probe ∨ c.Complete
  · rw [if_pos h]
    exact h
  · rw [if_neg h]
    trivial

theorem Admitted.advance {call : LockCall} (h : call.Admitted) (store : RecordStore σ) (s : σ) :
    Admitted { call with
      phase := (call.phase.advance store call.verb call.cluster s).1 } := by
  obtain ⟨verb, c, scope, phase⟩ := call
  cases phase with
  | finished o => trivial
  | deciding => trivial
  | probing =>
    have h' : verb = .probe ∨ c.Complete := h
    simp only [Admitted, Phase.advance]
    split
    · exact h'
    · -- only an acquire or a release goes on after its probe
      rename_i hp
      have hv : verb ≠ .probe := by
        rintro rfl
        revert hp
        cases (store.verdict (Verb.probeCall c) s).1 with
        | ok u => exact fun hp => by cases hp
        | error e => exact fun hp => by cases e <;> cases hp
      exact ⟨hv, h'.resolve_left hv⟩
    · trivial

end LockCall

namespace System

/-- All calls under way have been let in. -/
def Admitted (S : System σ) : Prop :=
  ∀ (i : Nat) (call : LockCall), S.calls[i]? = some call → call.Admitted

theorem admitted_fresh (s : Session σ) : (fresh s).Admitted := by
  intro i call h
  cases h

theorem Admitted.move {S : System σ} (h : S.Admitted) (store : RecordStore σ) (m : Move) :
    (S.move store m).Admitted :=
  all_calls_move store LockCall.admitted_start (fun _ _ _ hcall => hcall.advance _ _) h m

theorem Admitted.run {S : System σ} (h : S.Admitted) (store : RecordStore σ) (ms : List Move) :
    (S.run store ms).Admitted :=
  run_invariant store (fun _ m h => h.move store m) h ms

end System

end ClusterLock
