import ClusterLock.Proofs.CommandFailure
import ClusterLock.Proofs.Interleaving

/-
  In which spans the events of a lock call are written. A turn is taken apart into asking the store
  and hearing its answer (`LockCall.step_eq_hear_ask`), since others may go on between the two; an
  `Act` is one of these, the beginning of a call, or a step of a caller into a span or out of
  one. The calls leave the spans of the callers alone (`System.entered_perform`), and everything
  that a call writes is written in the scope that it had at its beginning (`span_context`).
-/
namespace ClusterLock

variable {σ : Type}

/-- From the one journal to the other only notes in that scope have been written, and every scope
entered has been left. -/
structure WritesIn (scope : Scope) (j j' : Journal) : Prop where
  entered : j'.entered = j.entered
  events : ∃ notes : List Note, j'.events = j.events ++ notes.map (⟨·, scope⟩)

theorem writesIn_extend (scope : Scope) (j : Journal) (notes : List Note)
    (counters : List Counter) : WritesIn scope j (j.extend scope notes counters) :=
  ⟨rfl, notes, rfl⟩

theorem writesIn_refl (scope : Scope) (j : Journal) : WritesIn scope j j :=
  ⟨rfl, [], (List.append_nil _).symm⟩

/-! ## Turns in two halves -/

namespace LockCall

/-- The question that the call's turn puts to the store. -/
def question? (call : LockCall) : Option StoreCall :=
  match call.phase with
  | .probing => some (Verb.probeCall call.cluster)
  | .deciding => some (call.verb.decisionCall call.cluster)
  | .finished _ => none

/-- What follows from the answer. -/
def react (call : LockCall) (answer : Except StoreError Unit) : Phase × List Note :=
  match call.phase with
  | .probing => call.verb.afterProbe answer
  | .deciding => (.finished (call.verb.afterDecision answer).1, (call.verb.afterDecision answer).2)
  | .finished o => (.finished o, [])

/-- The first half of a turn: the question reaches the store, which may say so. -/
def ask (store : RecordStore σ) (call : LockCall) (s : Session σ) : Session σ :=
  match call.question? with
  | none => s
  | some q =>
    { s with journal := ((s.journal.enter call.scope).writeAll (store.announce q)).leave }

/-- The second half: the answer comes, and the call goes on from it. -/
def hear (store : RecordStore σ) (call : LockCall) (s : Session σ) : LockCall × Session σ :=
  match call.question? with
  | none => (call, s)
  | some q =>
    let (answer, state) := store.verdict q s.state
    let (phase, notes) := call.react answer
    ({ call with phase },
      ⟨state, close ((s.journal.enter call.scope).writeAll notes).leave phase⟩)

theorem step_eq_hear_ask (store : RecordStore σ) (call : LockCall) (s : Session σ) :
    call.step store s = call.hear store (call.ask store s) := by
  obtain ⟨verb, c, scope, phase⟩ := call
  -- what is said in one stay in the scope may as well be said in two
  have htwice : ∀ notes notes' : List Note,
      (((s.journal.enter scope).writeAll notes).writeAll notes').leave =
        (((((s.journal.enter scope).writeAll notes).leave).enter scope).writeAll notes').leave := by
    intro notes notes'
    rw [Journal.writeAll_within, Journal.writeAll_within, Journal.extend_extend, List.append_nil,
      ← Journal.writeAll_within]
    simp only [Journal.writeAll, List.foldl_append]
  cases phase with
  | finished o => rfl
  | probing => simp only [step, exchange, hear, ask, question?, react, htwice]
  | deciding => simp only [step, exchange, hear, ask, question?, react, htwice]

theorem ask_writesIn (store : RecordStore σ) (call : LockCall) (s : Session σ) :
    WritesIn call.scope s.journal (call.ask store s).journal := by
  unfold ask
  cases call.question? with
  | none => exact writesIn_refl _ _
  | some q =>
    dsimp only
    rw [Journal.writeAll_within]
    exact writesIn_extend ..

theorem hear_writesIn (store : RecordStore σ) (call : LockCall) (s : Session σ) :
    WritesIn call.scope s.journal (call.hear store s).2.journal := by
  unfold hear
  cases call.question? with
  | none => exact writesIn_refl _ _
  | some q =>
    dsimp only
    rw [Journal.writeAll_within, Journal.close_extend]
    exact writesIn_extend ..

/-- A call keeps its scope while it goes on. -/
theorem hear_fst (store : RecordStore σ) (call : LockCall) (s : Session σ) :
    ∃ p, (call.hear store s).1 = { call with phase := p } := by
  unfold hear
  cases call.question? with
  | none => exact ⟨call.phase, rfl⟩
  | some q => exact ⟨_, rfl⟩

end LockCall

/-! ## Callers and calls -/

/-- What happens at a time: a caller goes into a span or out of one or begins a call, or a call
reaches its store or hears from it. The store may be another one each time. -/
inductive Act (σ : Type)
  | enter (scope : Scope)
  | leave
  | begin (l : Locker) (verb : Verb) (c : Cluster)
  | ask (i : Nat) (store : RecordStore σ)
  | hear (i : Nat) (store : RecordStore σ)

/-- The scopes that the callers are in after an act of theirs; nothing else changes them. -/
def Act.callers (scopes : List Scope) : Act σ → List Scope
  | enter scope => scope :: scopes
  | leave => scopes.tail
  | _ => scopes

namespace System

abbrev journal (S : System σ) : Journal := S.session.journal

def act (S : System σ) : Act σ → System σ
  | .enter scope => ⟨S.calls, { S.session with journal := S.journal.enter scope }⟩
  | .leave => ⟨S.calls, { S.session with journal := S.journal.leave }⟩
  | .begin l verb c =>
    let (call, s) := l.start verb c S.session
    ⟨S.calls ++ [call], s⟩
  | .ask i store =>
    match S.calls[i]? with
    | none => S
    | some call => ⟨S.calls, call.ask store S.session⟩
  | .hear i store =>
    match S.calls[i]? with
    | none => S
    | some call =>
      let (call, s) := call.hear store S.session
      ⟨S.calls.set i call, s⟩

def perform (S : System σ) (acts : List (Act σ)) : System σ := acts.foldl act S

/-- The acts that a move is made of. -/
def actsOf (store : RecordStore σ) : Move → List (Act σ)
  | .start l caller verb c => [.enter caller, .begin l verb c, .leave]
  | .turn i fault => [.ask i (store.failing fault), .hear i (store.failing fault)]

theorem move_eq_perform (store : RecordStore σ) (S : System σ) (m : Move) :
    S.move store m = S.perform (actsOf store m) := by
  cases m with
  | start l caller verb c => rfl
  | turn i fault =>
    simp only [actsOf, perform, List.foldl_cons, List.foldl_nil, act]
    cases h : S.calls[i]? with
    | none => simp only [move, h]
    | some call =>
      simp only [move, h]
      rw [LockCall.step_eq_hear_ask]

variable (S : System σ)

theorem begin_writesIn (l : Locker) (verb : Verb) (c : Cluster) :
    WritesIn (l.callScope verb c S.journal.current) S.journal
      (S.act (.begin l verb c)).journal := by
  have hstart := l.start_journal verb c S.session
  simp only [act, journal]
  rw [hstart]
  exact writesIn_extend ..

theorem entered_act (a : Act σ) :
    (S.act a).journal.entered = a.callers S.journal.entered := by
  cases a with
  | enter scope => rfl
  | leave => rfl
  | begin l verb c => exact (S.begin_writesIn l verb c).entered
  | ask i store =>
    simp only [act]
    cases S.calls[i]? with
    | none => rfl
    | some call => exact (call.ask_writesIn store S.session).entered
  | hear i store =>
    simp only [act]
    cases S.calls[i]? with
    | none => rfl
    | some call => exact (call.hear_writesIn store S.session).entered

/-- **The spans of the callers** are what the callers make them, whatever calls go on. -/
theorem entered_perform (acts : List (Act σ)) :
    (S.perform acts).journal.entered = acts.foldl Act.callers S.journal.entered := by
  induction acts generalizing S with
  | nil => rfl
  | cons a acts ih =>
    refine (ih (S.act a)).trans ?_
    rw [entered_act, List.foldl_cons]

variable {S}

/-- A call keeps its scope, whatever happens. -/
theorem scope_act {i : Nat} {call : LockCall} (h : S.calls[i]? = some call) (a : Act σ) :
    ∃ p, (S.act a).calls[i]? = some { call with phase := p } := by
  have hi : i < S.calls.length := (List.getElem?_eq_some_iff.1 h).1
  cases a with
  | enter scope => exact ⟨call.phase, h⟩
  | leave => exact ⟨call.phase, h⟩
  | begin l verb c =>
    refine ⟨call.phase, ?_⟩
    simp only [act]
    rw [List.getElem?_append_left hi, h]
  | ask j store =>
    refine ⟨call.phase, ?_⟩
    simp only [act]
    cases S.calls[j]? <;> exact h
  | hear j store =>
    simp only [act]
    cases h' : S.calls[j]? with
    | none => exact ⟨call.phase, h⟩
    | some call' =>
      by_cases hij : j = i
      · subst hij
        obtain ⟨p, hp⟩ := call.hear_fst store S.session
        rw [h] at h'
        cases h'
        exact ⟨p, by rw [List.getElem?_set_self hi, hp]⟩
      · exact ⟨call.phase, by rw [List.getElem?_set_ne hij, h]⟩

theorem scope_perform {i : Nat} {call : LockCall} (h : S.calls[i]? = some call)
    (acts : List (Act σ)) :
    ∃ p, (S.perform acts).calls[i]? = some { call with phase := p } := by
  induction acts generalizing S call with
  | nil => exact ⟨call.phase, h⟩
  | cons a acts ih =>
    obtain ⟨p, hp⟩ := scope_act h a
    obtain ⟨q, hq⟩ := ih hp
    exact ⟨q, hq⟩

theorem ask_writesIn {i : Nat} {call : LockCall} (h : S.calls[i]? = some call)
    (store : RecordStore σ) : WritesIn call.scope S.journal (S.act (.ask i store)).journal := by
  simp only [act, h]
  exact call.ask_writesIn store S.session

theorem hear_writesIn {i : Nat} {call : LockCall} (h : S.calls[i]? = some call)
    (store : RecordStore σ) : WritesIn call.scope S.journal (S.act (.hear i store)).journal := by
  simp only [act, h]
  exact call.hear_writesIn store S.session

theorem getElem?_act_begin (S : System σ) (l : Locker) (verb : Verb) (c : Cluster) :
    (S.act (.begin l verb c)).calls[S.calls.length]? =
      some ⟨verb, c, l.callScope verb c S.journal.current, (verb.start c).1⟩ :=
  List.getElem?_concat_length

end System

/-! ## Commands -/

namespace Command

variable (cmd : Command) (t : Transport σ) (conf : Configuration) (s : Session σ)

/-- Coming by the cluster is no part of the call: what is noted on the way stands where the command
was given. -/
theorem resolve_writesIn :
    WritesIn s.journal.current s.journal (cmd.resolve t conf s).2.journal := by
  rw [resolve]
  cases conf.explicitCluster cmd.args with
  | some c => exact writesIn_refl _ _
  | none =>
    simp only [fetchCluster]
    generalize t.ask _ AnyObject.read s.state = got
    obtain ⟨answer, state⟩ := got
    cases answer with
    | error e => exact writesIn_refl _ _
    | ok o => exact ⟨rfl, [fetchedNote cmd.args.ns o], rfl⟩

variable {cmd t conf s}

/-- An acquire or a release writes what its call writes, in the span of the lock within that of the
command, and its end outside of both. -/
theorem run_events (hv : cmd.verb ≠ .probe) {c : Cluster} {s' : Session σ}
    (h : cmd.resolve t conf s = (.ok c, s')) :
    ∃ b, (cmd.run t conf s).1 = .ok b ∧
      (cmd.run t conf s).2.journal.entered = s.journal.entered ∧
      (cmd.run t conf s).2.journal.events = s'.journal.events ++
        (Locker.callNotes (configMapStore t) cmd.verb c s'.state).map
          (⟨·, s.journal.current ++ [commandSpan cmd.verb, lockSpan c]⟩) ++
        [⟨finishedNote cmd.verb c b, s.journal.current⟩] := by
  have hentered : s'.journal.entered = s.journal.entered := by
    have hresolve := (cmd.resolve_writesIn t conf s).entered
    rwa [h] at hresolve
  have hcurrent : s'.journal.current = s.journal.current := by
    rw [Journal.current, hentered, Journal.current]
  let scope := s'.journal.current ++ [commandSpan cmd.verb]
  let l : Locker := { scope := some scope }
  let inside : Session σ := { s' with journal := s'.journal.enter scope }
  have hscope : l.callScope cmd.verb c inside.journal.current =
      s.journal.current ++ [commandSpan cmd.verb, lockSpan c] := by
    have hall : l.callScope cmd.verb c inside.journal.current = scope ++ [lockSpan c] := by
      cases hverb : cmd.verb with
      | acquire => rfl
      | release => rfl
      | probe => exact (hv hverb).elim
    rw [hall, ← hcurrent, List.append_assoc]
    rfl
  obtain ⟨a, -, hexec⟩ := l.execute_eq (configMapStore t) cmd.verb c inside
  have hcall : carryOut t cmd.verb c s' =
      (a.mapError .unreadable, (l.run (configMapStore t) cmd.verb c inside).2) := hexec
  obtain ⟨b, hb⟩ : ∃ b, (carryOut t cmd.verb c s').1 = .ok b := by
    cases hanswer : (carryOut t cmd.verb c s').1 with
    | ok b => exact ⟨b, rfl⟩
    | error e => exact (hv (carryOut_error_iff.1 ⟨e, hanswer⟩).1).elim
  have hjournal := l.run_journal (configMapStore t) cmd.verb c inside
  rw [hscope] at hjournal
  have hleft : (carryOut t cmd.verb c s').2.journal.leave.entered = s'.journal.entered := by
    rw [hcall]
    dsimp only
    rw [hjournal]
    rfl
  rw [run_of_resolved h]
  refine ⟨b, hb, ?_, ?_⟩
  · simp only [close, hb]
    exact hleft.trans hentered
  · simp only [close, hb]
    rw [Journal.write, Journal.current, hleft, ← Journal.current, hcurrent, hcall]
    dsimp only
    rw [hjournal]
    rfl

end Command

/-! ## The law -/

/-- **The span context of a call** is settled when the call begins: what the call writes stands in
the span of the lock, and this in the span that the locker was given or else in the one that the
caller was in, whatever callers and other calls do in the meantime; a probe writes where its caller
is. -/
theorem span_context (s : Session σ) (l : Locker) (verb : Verb) (c : Cluster)
    (before after : List (Act σ)) :
    let lock : Cluster → Span := fun c =>
      ⟨.info, "cpinit_lock::service", "control_plane_init_lock",
        [⟨"namespace", c.ns, false⟩, ⟨"cluster_name", c.name, false⟩,
          ⟨"record_name", c.uid ++ "-controlplane", false⟩]⟩
    let scopeFrom : Scope → Scope := fun caller =>
      if verb = .probe then caller else l.scope.getD caller ++ [lock c]
    let S := (System.fresh s).perform before
    let caller := (before.foldl Act.callers s.journal.entered).head?.getD []
    let begun := S.act (.begin l verb c)
    let S' := begun.perform after
    (WritesIn (scopeFrom caller) S.journal begun.journal ∧
      ∀ store,
        WritesIn (scopeFrom caller) S'.journal (S'.act (.ask S.calls.length store)).journal ∧
        WritesIn (scopeFrom caller) S'.journal (S'.act (.hear S.calls.length store)).journal) ∧
    S'.journal.entered = (before ++ after).foldl Act.callers s.journal.entered ∧
    (∀ store, WritesIn (scopeFrom s.journal.current) s.journal
      (l.run store verb c s).2.journal) ∧
    ∀ (cmd : Command) (t : Transport σ) (conf : Configuration),
      s.journal.current = [] → cmd.verb ≠ .probe →
      WritesIn [] s.journal (cmd.resolve t conf s).2.journal ∧
      (∀ e s', cmd.resolve t conf s = (.error e, s') →
        (cmd.run t conf s).2.journal = s'.journal) ∧
      ∀ c' s', cmd.resolve t conf s = (.ok c', s') →
        ∃ b, (cmd.run t conf s).1 = .ok b ∧
          (cmd.run t conf s).2.journal.entered = s.journal.entered ∧
          (cmd.run t conf s).2.journal.events = s'.journal.events ++
            (Locker.callNotes (configMapStore t) cmd.verb c' s'.state).map
              (⟨·, [⟨.info, "cpinit_server::command", "cpinit",
                [⟨"command", cmd.verb.word, true⟩]⟩, lock c']⟩) ++
            [⟨finishedNote cmd.verb c' b, []⟩] := by
  intro lock scopeFrom S caller begun S'
  have hscope : ∀ outer, l.callScope verb c outer = scopeFrom outer := by
    intro outer
    cases verb <;> rfl
  have hcaller : S.journal.current = caller :=
    congrArg (·.head?.getD []) ((System.fresh s).entered_perform before)
  have hbegin := S.begin_writesIn l verb c
  obtain ⟨p, hcall⟩ := System.scope_perform (S.getElem?_act_begin l verb c) after
  rw [hcaller, hscope] at hbegin hcall
  refine ⟨⟨hbegin, fun store => ⟨?_, ?_⟩⟩, ?_, fun store => ?_, fun cmd t conf hout hv => ?_⟩
  · exact System.ask_writesIn hcall store
  · exact System.hear_writesIn hcall store
  · rw [List.foldl_append]
    refine (begun.entered_perform after).trans ?_
    rw [hbegin.entered]
    exact congrArg (after.foldl Act.callers ·) ((System.fresh s).entered_perform before)
  · rw [l.run_journal, ← hscope]
    exact writesIn_extend ..
  · have hresolve := cmd.resolve_writesIn t conf s
    rw [hout] at hresolve
    refine ⟨hresolve, fun e s' h => ?_, fun c' s' h => ?_⟩
    · rw [Command.run_of_unresolved h]
    · have hrun := Command.run_events hv h
      rw [hout] at hrun
      exact hrun

/-- A transport that nothing answers. -/
def brokenTransport : Transport Unit := ⟨fun _ u => (.transport "connection refused", u)⟩

theorem span_context_refused :
    let cmd : Command := ⟨.acquire, ⟨"ns1", "cl1", some "abc-123", none, none, false⟩⟩
    let conf : Configuration := ⟨.table [], none⟩
    let c : Cluster := ⟨"ns1", "cl1", "abc-123", "cluster.x-k8s.io/v1beta1", "Cluster"⟩
    let notes := Locker.callNotes (configMapStore brokenTransport) .acquire c ()
    notes.length = 1 ∧ ∃ b, (cmd.run brokenTransport conf ⟨(), {}⟩).2.journal.events =
      notes.map (⟨·, [commandSpan .acquire, lockSpan c]⟩) ++ [⟨finishedNote .acquire c b, []⟩] := by
  intro cmd conf c notes
  have hnotes : notes.length = 1 := by decide +kernel
  have hresolve : cmd.resolve brokenTransport conf ⟨(), {}⟩ = (.ok c, ⟨(), {}⟩) := rfl
  obtain ⟨-, -, -, hcommand⟩ := span_context (⟨(), {}⟩ : Session Unit) {} .acquire c [] []
  obtain ⟨-, -, hrun⟩ := hcommand cmd brokenTransport conf rfl (by decide)
  obtain ⟨b, -, -, hevents⟩ := hrun c _ hresolve
  rw [List.nil_append] at hevents
  exact ⟨hnotes, b, hevents⟩

end ClusterLock
