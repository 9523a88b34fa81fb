import ClusterLock.Proofs.CallEvents
import ClusterLock.Proofs.FailClosed
import ClusterLock.Proofs.FetchedCluster

/-
  Commands that fail. A transport is `recorded` by writing down the requests that it carries, which
  changes nothing else (`Command.run_recorded`). `Command.FetchFails` and `Command.ProbeFails` are
  the two ways to fail; each leaves the journal without a count and without the closing event, and
  has sent nothing but GET requests. `command_fate` puts this together with what a command that
  does not fail leaves behind.
-/
namespace ClusterLock

variable {σ : Type}

/-! ## Recorded transports -/

/-- The transport with a record of the requests that it carries. -/
def Transport.recorded (t : Transport σ) : Transport (σ × List Request) where
  send q s := ((t.send q s.1).1, ((t.send q s.1).2, s.2 ++ [q]))

theorem Transport.ask_recorded (t : Transport σ) {α : Type} (request : Except ApiError Request)
    (read : Reader α) (s : σ × List Request) :
    t.recorded.ask request read s =
      ((t.ask request read s.1).1,
        ((t.ask request read s.1).2, s.2 ++ request.toOption.toList)) := by
  obtain ⟨s, qs⟩ := s
  cases request with
  | error e => simp [ask, Except.toOption]
  | ok q => rfl

theorem ConfigMapStore.verdict_recorded (t : Transport σ) (q : StoreCall)
    (s : σ × List Request) :
    (configMapStore t.recorded).verdict q s =
      (((configMapStore t).verdict q s.1).1,
        (((configMapStore t).verdict q s.1).2, s.2 ++ q.request.toOption.toList)) := by
  cases q with
  | get ns name =>
    simp only [RecordStore.verdict_get, configMapStore, ConfigMapStore.get, Transport.ask_recorded,
      StoreCall.request]
  | create r =>
    simp only [RecordStore.verdict_create, configMapStore, ConfigMapStore.create,
      Transport.ask_recorded, StoreCall.request]
  | delete ns name =>
    simp only [RecordStore.verdict_delete, configMapStore, ConfigMapStore.delete,
      Transport.ask_recorded, StoreCall.request]

/-! ## What a command says -/

/-- The note is the one that closes a command. -/
def Note.IsClosing (n : Note) : Prop := n.message = "Command finished"

/-- Nothing is counted and nothing closes a command; other things may be said. -/
structure Quiet (j j' : Journal) : Prop where
  entered : j'.entered = j.entered
  counts : j'.counts = j.counts
  events : ∃ evs, j'.events = j.events ++ evs ∧ ∀ e ∈ evs, ¬ e.note.IsClosing

theorem Quiet.refl (j : Journal) : Quiet j j :=
  ⟨rfl, rfl, [], (List.append_nil _).symm, fun _ he => nomatch he⟩

theorem Quiet.trans {j j' j'' : Journal} (h : Quiet j j') (h' : Quiet j' j'') : Quiet j j'' := by
  obtain ⟨evs, hevs, hquiet⟩ := h.events
  obtain ⟨evs', hevs', hquiet'⟩ := h'.events
  refine ⟨h'.entered.trans h.entered, h'.counts.trans h.counts, evs ++ evs', ?_, fun e he => ?_⟩
  · rw [hevs', hevs, List.append_assoc]
  · exact (List.mem_append.1 he).elim (hquiet e) (hquiet' e)

theorem Quiet.current {j j' : Journal} (h : Quiet j j') : j'.current = j.current := by
  rw [Journal.current, Journal.current, h.entered]

theorem quiet_write {n : Note} (hn : ¬ n.IsClosing) (j : Journal) : Quiet j (j.write n) := by
  refine ⟨rfl, rfl, [⟨n, j.current⟩], rfl, fun e he => ?_⟩
  rw [List.mem_singleton.1 he]
  exact hn

/-- No note of a lock call closes a command. -/
theorem callNotes_not_closing (t : Transport σ) (verb : Verb) (c : Cluster) (s : σ) :
    ∀ n ∈ Locker.callNotes (configMapStore t) verb c s, ¬ n.IsClosing := by
  have hannounce : ∀ q, ∀ n ∈ (configMapStore t).announce q, ¬ n.IsClosing := by
    intro q n hn
    cases q with
    | get ns name => cases hn
    | create r =>
      rw [List.mem_singleton.1 hn]
      exact (by decide : "Creating lock configmap" ≠ "Command finished")
    | delete ns name =>
      rw [List.mem_singleton.1 hn]
      exact (by decide : "Deleting lock configmap" ≠ "Command finished")
  have hstart : ∀ n ∈ (verb.start c).2, ¬ n.IsClosing := by
    intro n hn
    cases verb <;> cases hv : c.validate <;>
      simp_all [Verb.start, Verb.note, Verb.errorNote, Note.IsClosing]
  have hprobe : ∀ a, ∀ n ∈ (verb.afterProbe a).2, ¬ n.IsClosing := by
    intro a n hn
    cases verb <;> cases a with
    | ok u => simp_all [Verb.afterProbe, Verb.note, Note.IsClosing]
    | error e =>
      cases e <;> simp_all [Verb.afterProbe, Verb.note, Verb.errorNote, Note.IsClosing]
  have hdecision : ∀ a, ∀ n ∈ (verb.afterDecision a).2, ¬ n.IsClosing := by
    intro a n hn
    cases verb <;> cases a with
    | ok u => simp_all [Verb.afterDecision, Verb.note, Note.IsClosing]
    | error e =>
      cases e <;> simp_all [Verb.afterDecision, Verb.note, Verb.errorNote, Note.IsClosing]
  have hnotes : ∀ (p : Phase) (s : σ), ∀ n ∈ p.notes (configMapStore t) verb c s,
      ¬ n.IsClosing := by
    intro p s n hn
    cases p with
    | finished o => cases hn
    | probing => exact (List.mem_append.1 hn).elim (hannounce _ n) (hprobe _ n)
    | deciding => exact (List.mem_append.1 hn).elim (hannounce _ n) (hdecision _ n)
  intro n hn
  rcases List.mem_append.1 hn with hn | hn
  · exact (List.mem_append.1 hn).elim (hstart n) (hnotes _ _ n)
  · exact hnotes _ _ n hn

/-! ## The cluster of a command -/

/-- The cluster that an object stands for, complete or not. What the object says of its version and
kind counts more than the resource it was asked for as. -/
def AnyObject.identity (o : AnyObject) (r : Resource) : Cluster :=
  let types := o.types.getD (r.apiVersion, r.kind)
  ⟨o.metadata.ns.getD "", o.metadata.name.getD "", o.metadata.uid.getD "", types.1, types.2⟩

theorem AnyObject.cluster_eq_validate (o : AnyObject) (r : Resource) :
    o.cluster r = (o.identity r).validate := by
  unfold cluster identity
  cases o.types <;> rfl

namespace Command

/-- The object that a command asks for, and the state after the reply. -/
def fetched (cmd : Command) (t : Transport σ) (conf : Configuration) (s : σ) :
    Except ApiError AnyObject × σ :=
  t.ask (Transport.getRequest conf.clusterResource cmd.args.ns cmd.args.name) AnyObject.read s

/-- The command comes by the cluster: it is spelled out, or the object that is fetched says all of
it. -/
inductive Resolves (cmd : Command) (t : Transport σ) (conf : Configuration) (s : σ) :
    Cluster → σ → Prop
  | spelled {c : Cluster} (h : conf.explicitCluster cmd.args = some c) : Resolves cmd t conf s c s
  | fetched {o : AnyObject} (h : cmd.args.fetch = true)
      (got : (cmd.fetched t conf s).1 = .ok o)
      (complete : (o.identity conf.clusterResource).Complete) :
      Resolves cmd t conf s (o.identity conf.clusterResource) (cmd.fetched t conf s).2

/-- The object is asked for, and the request fails or the object does not say all of the
cluster. -/
def FetchFails (cmd : Command) (t : Transport σ) (conf : Configuration) (s : σ) : Prop :=
  cmd.args.fetch = true ∧
    ((∃ e, (cmd.fetched t conf s).1 = .error e) ∨
      ∃ o, (cmd.fetched t conf s).1 = .ok o ∧ ¬ (o.identity conf.clusterResource).Complete)

/-- The record is asked for, and the reply is an error other than that there is none. -/
def ProbeFails (cmd : Command) (t : Transport σ) (conf : Configuration) (s : σ) : Prop :=
  cmd.verb = .probe ∧ ∃ c s', cmd.Resolves t conf s c s' ∧
    ∃ e, (ApiClient.carriedBy t).probed c s' = .error e ∧ ¬ SaysMissing (.error e)

/-- The requests for the object of the cluster. -/
def objectRequests (cmd : Command) (conf : Configuration) : List Request :=
  if cmd.args.fetch then
    (Transport.getRequest conf.clusterResource cmd.args.ns cmd.args.name).toOption.toList
  else []

variable (cmd : Command) (t : Transport σ) (conf : Configuration) (s : Session σ)

theorem fetchedNote_not_closing (ns : String) (o : AnyObject) : ¬ (fetchedNote ns o).IsClosing :=
  (by decide : "Fetched cluster" ≠ "Command finished")

/-- A command comes by its cluster, or it fails to fetch it; it counts nothing on the way. -/
theorem resolve_spec :
    ∃ r s', cmd.resolve t conf s = (r, s') ∧ Quiet s.journal s'.journal ∧
      ((∃ c, r = .ok c ∧ cmd.Resolves t conf s.state c s'.state) ∨
        ∃ e, r = .error e ∧ cmd.FetchFails t conf s.state) := by
  obtain ⟨state, j⟩ := s
  cases hexplicit : conf.explicitCluster cmd.args with
  | some c =>
    refine ⟨.ok c, ⟨state, j⟩, by rw [resolve, hexplicit], .refl _, Or.inl ⟨c, rfl, ?_⟩⟩
    exact .spelled hexplicit
  | none =>
    have hfetch : cmd.args.fetch = true := by
      unfold Configuration.explicitCluster at hexplicit
      split at hexplicit
      · assumption
      · cases hexplicit
    obtain ⟨answer, state', hgot⟩ : ∃ answer state', cmd.fetched t conf state = (answer, state') :=
      ⟨_, _, rfl⟩
    have hask : t.ask (Transport.getRequest conf.clusterResource cmd.args.ns cmd.args.name)
        AnyObject.read state = (answer, state') := hgot
    cases answer with
    | error e =>
      have hresolve : ∃ f, cmd.resolve t conf ⟨state, j⟩ = (.error f, ⟨state', j⟩) := by
        rw [resolve, hexplicit]
        simp only [fetchCluster, hask]
        exact ⟨_, rfl⟩
      obtain ⟨f, hresolve⟩ := hresolve
      exact ⟨_, _, hresolve, .refl _,
        Or.inr ⟨f, rfl, hfetch, Or.inl ⟨e, congrArg Prod.fst hgot⟩⟩⟩
    | ok o =>
      have hresolve : cmd.resolve t conf ⟨state, j⟩ =
          ((o.identity conf.clusterResource).validate,
            ⟨state', j.write (fetchedNote cmd.args.ns o)⟩) := by
        rw [resolve, hexplicit]
        simp only [fetchCluster, hask, AnyObject.cluster_eq_validate]
      have hok : (cmd.fetched t conf state).1 = .ok o := congrArg Prod.fst hgot
      refine ⟨_, _, hresolve, quiet_write (fetchedNote_not_closing _ o) j, ?_⟩
      by_cases hc : (o.identity conf.clusterResource).Complete
      · have hresolves : cmd.Resolves t conf state (o.identity conf.clusterResource)
            (cmd.fetched t conf state).2 := .fetched hfetch hok hc
        rw [hgot] at hresolves
        exact Or.inl ⟨_, Cluster.validate_of_complete hc, hresolves⟩
      · obtain ⟨e, he⟩ := Cluster.validate_of_not_complete hc
        exact Or.inr ⟨e, he, hfetch, Or.inr ⟨o, hok, hc⟩⟩

variable {cmd t conf}

theorem not_spelled {c : Cluster} (h : cmd.args.fetch = true) :
    conf.explicitCluster cmd.args ≠ some c := by
  rw [Configuration.explicitCluster, if_pos h]
  nofun

theorem Resolves.unique {s u u' : σ} {c c' : Cluster} (h : cmd.Resolves t conf s c u)
    (h' : cmd.Resolves t conf s c' u') : c' = c ∧ u' = u := by
  cases h with
  | spelled hc =>
    cases h' with
    | spelled hc' =>
      rw [hc] at hc'
      cases hc'
      exact ⟨rfl, rfl⟩
    | fetched hfetch => exact absurd hc (not_spelled hfetch)
  | fetched hfetch got =>
    cases h' with
    | spelled hc' => exact absurd hc' (not_spelled hfetch)
    | fetched _ got' =>
      rw [got] at got'
      cases got'
      exact ⟨rfl, rfl⟩

theorem Resolves.not_fetchFails {s u : σ} {c : Cluster} (h : cmd.Resolves t conf s c u) :
    ¬ cmd.FetchFails t conf s := by
  rintro ⟨hfetch, hfails⟩
  cases h with
  | spelled hc => exact not_spelled hfetch hc
  | fetched _ got complete =>
    rw [got] at hfails
    rcases hfails with ⟨e, he⟩ | ⟨o, ho, hnot⟩
    · cases he
    · cases ho
      exact hnot complete

/-! ## Carrying out and closing a command -/

/-- What follows the locker's call: the span is left, and the answer noted. -/
def close (v : Verb) (c : Cluster) (r : Except CommandError Bool × Session σ) : Session σ :=
  match r.1 with
  | .error _ => { r.2 with journal := r.2.journal.leave }
  | .ok b => { r.2 with journal := r.2.journal.leave.write (finishedNote v c b) }

theorem run_of_unresolved {s s' : Session σ} {e : Failure}
    (h : cmd.resolve t conf s = (.error e, s')) :
    cmd.run t conf s = (.error (.unresolved e), s') := by
  simp only [run, h]

theorem run_of_resolved {s s' : Session σ} {c : Cluster}
    (h : cmd.resolve t conf s = (.ok c, s')) :
    cmd.run t conf s =
      ((carryOut t cmd.verb c s').1, close cmd.verb c (carryOut t cmd.verb c s')) := by
  cases hcall : carryOut t cmd.verb c s' with
  | mk answer s'' =>
    rw [carryOut] at hcall
    simp only [run, h, hcall]
    cases answer <;> rfl

/-- Once the span of the command is left, the call has written notes that close nothing, and raised
the counter of its outcome. -/
theorem carryOut_journal (t : Transport σ) (v : Verb) (c : Cluster) (s : Session σ) :
    ∃ (o : Outcome) (evs : List Event), o.verb = v ∧
      (carryOut t v c s).1 = o.answer.mapError .unreadable ∧
      (carryOut t v c s).2.journal.leave =
        ⟨s.journal.entered, s.journal.events ++ evs, s.journal.counts ++ o.counter?.toList⟩ ∧
      ∀ e ∈ evs, ¬ e.note.IsClosing := by
  let scope := s.journal.current ++ [commandSpan v]
  let l : Locker := { scope := some scope }
  let inside : Session σ := { s with journal := s.journal.enter scope }
  obtain ⟨o, ho, hv⟩ := l.run_outcome (configMapStore t) v c inside
  obtain ⟨a, ha, hexec⟩ := l.execute_eq (configMapStore t) v c inside
  have hcall : carryOut t v c s =
      (a.mapError .unreadable, (l.run (configMapStore t) v c inside).2) := hexec
  rw [LockCall.answer?, ho] at ha
  refine ⟨o, (Locker.callNotes (configMapStore t) v c s.state).map
    (⟨·, l.callScope v c inside.journal.current⟩), hv, ?_, ?_, ?_⟩
  · rw [hcall, ← Option.some.inj ha]
  · rw [hcall, l.run_journal, ho]
    rfl
  · intro e he
    obtain ⟨n, hn, rfl⟩ := List.mem_map.1 he
    exact callNotes_not_closing t v c _ n hn

/-- Only a probe can fail, and it does if the reply is an error other than that there is none. -/
theorem carryOut_error_iff {c : Cluster} {s : Session σ} :
    (∃ e, (carryOut t cmd.verb c s).1 = .error e) ↔
      cmd.verb = .probe ∧ ∃ e, (ApiClient.carriedBy t).probed c s.state = .error e ∧
        ¬ SaysMissing (.error e) := by
  obtain ⟨verb, args⟩ := cmd
  cases verb with
  | acquire =>
    constructor
    · rintro ⟨e, ⟨⟩⟩
    · rintro ⟨⟨⟩, -⟩
  | release =>
    constructor
    · rintro ⟨e, ⟨⟩⟩
    · rintro ⟨⟨⟩, -⟩
  | probe =>
    let scope := s.journal.current ++ [commandSpan .probe]
    have hfate := ({ scope := some scope } : Locker).probeFate (ApiClient.carriedBy t) (c := c)
      { s with journal := s.journal.enter scope }
    rw [← ApiClient.configMapStore_eq] at hfate
    have hcall : (carryOut t .probe c s).1 = (({ scope := some scope } : Locker).isLocked
        (configMapStore t) c { s with journal := s.journal.enter scope }).1.mapError
          .unreadable := rfl
    dsimp only at hfate ⊢
    rw [hcall]
    generalize Prod.fst (Locker.isLocked _ _ _ _) = answer at hfate ⊢
    obtain ⟨hfound, habsent, hunreadable, -⟩ := hfate
    constructor
    · rintro ⟨e, he⟩
      refine ⟨rfl, ?_⟩
      cases hgot : (ApiClient.carriedBy t).probed c s.state with
      | ok u =>
        rw [hfound.2 hgot] at he
        cases he
      | error e' =>
        refine ⟨e', rfl, fun hmissing => ?_⟩
        rw [habsent.2 (hgot ▸ hmissing)] at he
        cases he
    · rintro ⟨-, e, he, hmissing⟩
      rw [hunreadable e he (he ▸ hmissing)]
      exact ⟨_, rfl⟩

/-! ## Requests -/

/-- The requests that a command sends. -/
def requests (cmd : Command) (t : Transport σ) (conf : Configuration) (s : Session σ) :
    List Request :=
  (cmd.run t.recorded conf ⟨(s.state, []), s.journal⟩).2.state.2

/-- The cluster is come by as without the record, which then holds the requests for the object. -/
theorem resolve_recorded {s s' : Session σ} {r : Except Failure Cluster}
    (h : cmd.resolve t conf s = (r, s')) :
    cmd.resolve t.recorded conf ⟨(s.state, []), s.journal⟩ =
      (r, ⟨(s'.state, cmd.objectRequests conf), s'.journal⟩) := by
  have hexplicit : conf.explicitCluster cmd.args = none ↔ cmd.args.fetch = true := by
    unfold Configuration.explicitCluster
    cases cmd.args.fetch <;> simp
  rw [resolve] at h ⊢
  rw [objectRequests]
  cases hc : conf.explicitCluster cmd.args with
  | some c =>
    rw [hc] at h
    cases h
    rw [if_neg fun hfetch => by rw [hexplicit.2 hfetch] at hc; cases hc]
  | none =>
    rw [hc] at h
    rw [if_pos (hexplicit.1 hc)]
    simp only [fetchCluster, Transport.ask_recorded] at h ⊢
    generalize t.ask _ AnyObject.read s.state = got at h ⊢
    obtain ⟨answer, state⟩ := got
    cases answer <;> (cases h; rfl)

theorem carryOut_recorded (v : Verb) (c : Cluster) (s : Session σ) (qs : List Request) :
    carryOut t v c s =
      ((carryOut t.recorded v c ⟨(s.state, qs), s.journal⟩).1,
        ⟨(carryOut t.recorded v c ⟨(s.state, qs), s.journal⟩).2.state.1,
          (carryOut t.recorded v c ⟨(s.state, qs), s.journal⟩).2.journal⟩) := by
  have hverdict : ∀ q (s : σ × List Request), (configMapStore t).verdict q s.1 =
      (((configMapStore t.recorded).verdict q s).1,
        ((configMapStore t.recorded).verdict q s).2.1) := by
    intro q s
    rw [ConfigMapStore.verdict_recorded]
  exact Locker.execute_eq_map (f := Prod.fst) hverdict rfl _ v c (s.state, qs) _

/-- A command does the same with the record of its requests as without. -/
theorem run_recorded (cmd : Command) (t : Transport σ) (conf : Configuration) (s : Session σ) :
    cmd.run t.recorded conf ⟨(s.state, []), s.journal⟩ =
      ((cmd.run t conf s).1, ⟨((cmd.run t conf s).2.state, cmd.requests t conf s),
        (cmd.run t conf s).2.journal⟩) := by
  obtain ⟨r, s', hr⟩ : ∃ r s', cmd.resolve t conf s = (r, s') := ⟨_, _, rfl⟩
  have hresolve := resolve_recorded hr
  unfold requests
  cases r with
  | error e => rw [run_of_unresolved hr, run_of_unresolved hresolve]
  | ok c =>
    rw [run_of_resolved hr, run_of_resolved hresolve,
      carryOut_recorded cmd.verb c s' (cmd.objectRequests conf)]
    obtain ⟨answer, s''⟩ := carryOut t.recorded cmd.verb c _
    cases answer <;> rfl

theorem requests_of_unresolved {s s' : Session σ} {e : Failure}
    (h : cmd.resolve t conf s = (.error e, s')) :
    cmd.requests t conf s = cmd.objectRequests conf := by
  rw [requests, run_of_unresolved (resolve_recorded h)]

/-- A probe makes one call on the store. -/
theorem probe_state (l : Locker) (store : RecordStore σ) (c : Cluster) (s : Session σ) :
    (l.execute store .probe c s).2.state = (store.verdict (Verb.probeCall c) s.state).2 := by
  rw [l.execute_state, l.run_state]
  have hfinished : ∀ a, (Verb.probe.afterProbe a).1.isFinished = true := by
    intro a
    cases a with
    | ok u => rfl
    | error e => cases e <;> rfl
  show (Phase.advance store .probe c (Verb.probe.afterProbe _).1 _).2 = _
  rw [Phase.advance_finished store .probe c (hfinished _)]
  rfl

theorem requests_of_probe {s s' : Session σ} {c : Cluster} (hv : cmd.verb = .probe)
    (h : cmd.resolve t conf s = (.ok c, s')) :
    cmd.requests t conf s = cmd.objectRequests conf ++
      (Transport.getRequest configMaps c.ns c.lockName).toOption.toList := by
  have hclose : ∀ r : Except CommandError Bool × Session (σ × List Request),
      (close cmd.verb c r).state = r.2.state := by
    rintro ⟨answer, s''⟩
    cases answer <;> rfl
  rw [requests, run_of_resolved (resolve_recorded h)]
  dsimp only
  rw [hclose, hv, carryOut, probe_state, ConfigMapStore.verdict_recorded]
  rfl

theorem method_of_mem {r : Resource} {ns name : String} {q : Request}
    (h : q ∈ (Transport.getRequest r ns name).toOption.toList) : q.method = .get := by
  cases hget : Transport.getRequest r ns name with
  | error e =>
    rw [hget] at h
    cases h
  | ok q' =>
    rw [hget] at h
    rw [List.mem_singleton.1 h]
    exact Transport.method_of_getRequest hget

theorem method_of_objectRequests {q : Request} (h : q ∈ cmd.objectRequests conf) :
    q.method = .get := by
  unfold objectRequests at h
  split at h
  · exact method_of_mem h
  · cases h

/-! ## What becomes of a command -/

/-- What a command that fails has done: it has read, and that is all. -/
structure Harmless (cmd : Command) (t : Transport σ) (conf : Configuration) (s : Session σ) :
    Prop where
  reads : ∀ q ∈ cmd.requests t conf s, q.method = .get
  quiet : Quiet s.journal (cmd.run t conf s).2.journal

/-- What a command with an answer leaves behind: the call of the locker has answered about the
cluster that the command is about, and one event, the last, closes the command. -/
structure Closed (cmd : Command) (t : Transport σ) (conf : Configuration) (s : Session σ)
    (b : Bool) (c : Cluster) : Prop where
  called : ∃ s', cmd.resolve t conf s = (.ok c, s') ∧ cmd.Resolves t conf s.state c s'.state ∧
    (carryOut t cmd.verb c s').1 = .ok b
  events : ∃ evs, (cmd.run t conf s).2.journal.events = s.journal.events ++ evs ++
      [⟨⟨.info, commandTarget, "Command finished",
        [⟨"namespace", c.ns, false⟩, ⟨"cluster_name", c.name, false⟩,
          ⟨"record_name", c.uid ++ "-controlplane", false⟩,
          ⟨"outcome", cmd.verb.label b, true⟩]⟩, s.journal.current⟩] ∧
    ∀ e ∈ evs, ¬ e.note.IsClosing

/-- What becomes of a command, whatever the replies are. -/
structure Fate (cmd : Command) (t : Transport σ) (conf : Configuration) (s : Session σ) :
    Prop where
  error_iff : (∃ e, (cmd.run t conf s).1 = .error e) ↔
    cmd.FetchFails t conf s.state ∨ cmd.ProbeFails t conf s.state
  /-- An acquire or a release of a cluster that is known has an answer. -/
  answered : cmd.verb ≠ .probe → ∀ c s', cmd.Resolves t conf s.state c s' →
    ∃ b, (cmd.run t conf s).1 = .ok b
  harmless : ∀ e, (cmd.run t conf s).1 = .error e → cmd.Harmless t conf s
  /-- A cluster that is not known is not asked about. -/
  unresolved : cmd.FetchFails t conf s.state → cmd.requests t conf s =
    (Transport.getRequest conf.clusterResource cmd.args.ns cmd.args.name).toOption.toList
  closed : ∀ b, (cmd.run t conf s).1 = .ok b → ∃ c, cmd.Closed t conf s b c

theorem fate_of_unresolved {s s' : Session σ} {e : Failure}
    (h : cmd.resolve t conf s = (.error e, s')) (hquiet : Quiet s.journal s'.journal)
    (hfails : cmd.FetchFails t conf s.state) : cmd.Fate t conf s := by
  have hrun := run_of_unresolved h
  have hrequests := requests_of_unresolved h
  constructor
  case error_iff => exact ⟨fun _ => Or.inl hfails, fun _ => ⟨_, congrArg Prod.fst hrun⟩⟩
  case answered => exact fun _ c s' hresolves => absurd hfails hresolves.not_fetchFails
  case harmless =>
    refine fun _ _ => ⟨fun q hq => method_of_objectRequests (hrequests ▸ hq), ?_⟩
    rw [hrun]
    exact hquiet
  case unresolved =>
    intro hfails
    rw [hrequests, objectRequests, if_pos hfails.1]
  case closed =>
    intro b hb
    rw [hrun] at hb
    cases hb

theorem fate_of_resolved {s s' : Session σ} {c : Cluster}
    (h : cmd.resolve t conf s = (.ok c, s')) (hquiet : Quiet s.journal s'.journal)
    (hresolves : cmd.Resolves t conf s.state c s'.state) : cmd.Fate t conf s := by
  have hrun := run_of_resolved h
  have hanswer : (cmd.run t conf s).1 = (carryOut t cmd.verb c s').1 := by rw [hrun]
  have herror : (∃ e, (carryOut t cmd.verb c s').1 = .error e) ↔ _ := carryOut_error_iff
  obtain ⟨o, evs, hverb, hout, hjournal, hevs⟩ := carryOut_journal t cmd.verb c s'
  obtain ⟨before, hbefore, hsilent⟩ := hquiet.events
  have hother : ∀ e ∈ before ++ evs, ¬ e.note.IsClosing := fun e he =>
    (List.mem_append.1 he).elim (hsilent e) (hevs e)
  constructor
  case error_iff =>
    rw [hanswer, herror]
    constructor
    · rintro ⟨hv, e, he, hmissing⟩
      exact Or.inr ⟨hv, c, s'.state, hresolves, e, he, hmissing⟩
    · rintro (hfails | ⟨hv, c', u, hresolves', e, he, hmissing⟩)
      · exact absurd hfails hresolves.not_fetchFails
      · obtain ⟨rfl, rfl⟩ := hresolves.unique hresolves'
        exact ⟨hv, e, he, hmissing⟩
  case answered =>
    intro hv _ _ _
    rw [hanswer]
    cases hcall : (carryOut t cmd.verb c s').1 with
    | ok b => exact ⟨b, rfl⟩
    | error e => exact absurd (herror.1 ⟨e, hcall⟩).1 hv
  case harmless =>
    intro e he
    rw [hanswer] at he
    obtain ⟨hv, -⟩ := herror.1 ⟨e, he⟩
    constructor
    case reads =>
      intro q hq
      rw [requests_of_probe hv h] at hq
      exact (List.mem_append.1 hq).elim method_of_objectRequests method_of_mem
    case quiet =>
      -- the call that failed was a probe, which counts nothing
      have hcount : o.counter? = none := by
        rw [hv] at hverb
        cases o with
        | acquire o => cases hverb
        | release o => cases hverb
        | found b => rfl
        | unreadable e => rfl
      have hleft : (cmd.run t conf s).2.journal =
          ⟨s'.journal.entered, s'.journal.events ++ evs, s'.journal.counts ++ []⟩ := by
        rw [hrun]
        simp only [close, he]
        rw [hjournal, hcount]
        rfl
      rw [hleft]
      refine hquiet.trans ⟨rfl, List.append_nil _, evs, rfl, hevs⟩
  case unresolved => exact fun hfails => absurd hfails hresolves.not_fetchFails
  case closed =>
    intro b hb
    rw [hanswer] at hb
    refine ⟨c, ⟨s', h, hresolves, hb⟩, before ++ evs, ?_, hother⟩
    rw [hrun]
    simp only [close, hb]
    rw [hjournal]
    simp only [Journal.write, hbefore, List.append_assoc]
    rw [← hquiet.current]
    rfl

/-- **A command that fails has locked and unlocked nothing**, whatever the API server replies; one
that does not fail closes with one event that tells what has become of it. -/
theorem command_fate (cmd : Command) (t : Transport σ) (conf : Configuration) (s : Session σ) :
    cmd.Fate t conf s := by
  obtain ⟨r, s', h, hquiet, ⟨c, rfl, hresolves⟩ | ⟨e, rfl, hfails⟩⟩ := cmd.resolve_spec t conf s
  · exact fate_of_resolved h hquiet hresolves
  · exact fate_of_unresolved h hquiet hfails

end Command

end ClusterLock
