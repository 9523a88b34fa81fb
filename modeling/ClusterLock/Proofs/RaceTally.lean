import ClusterLock.Proofs.Balance
import ClusterLock.Proofs.CallDiscipline
import ClusterLock.Proofs.RepeatedCalls
import ClusterLock.Race

/-
  Races for one cluster on a contested store, in which every call has probed before any goes on
  (`Race`). A `Tally` says how far a race has come: as many probes as have reached the store had the
  answers of a store that is only probed, as many creates or deletes had those of a store that gets
  nothing else, and the calls stand in the phases to which these answers lead. `Tally.start`,
  `Tally.probe` and `Tally.decide` are the moves, `Tally.opening` and `Tally.closing` the runs
  before the barrier and after it, and `Race.tally` is where a race ends, in whatever order its
  calls go.
-/
namespace ClusterLock

/-! ## Races -/

namespace System

variable {σ : Type}

/-- The number of calls in a phase. -/
def phaseCount (S : System σ) (p : Phase) : Nat := S.calls.countP (·.phase == p)

theorem phaseCount_start (store : RecordStore σ) (S : System σ) (l : Locker) (caller : Scope)
    (verb : Verb) (c : Cluster) (p : Phase) :
    (S.move store (.start l caller verb c)).phaseCount p =
      S.phaseCount p + if (verb.start c).1 = p then 1 else 0 := by
  rw [phaseCount, calls_move_start, List.countP_append, List.countP_singleton, phaseCount]
  simp only [beq_iff_eq]

/-- A turn takes one call from its phase to the next. -/
theorem turn_spec {store : RecordStore σ} {S : System σ} {i : Nat} {call : LockCall}
    (h : S.calls[i]? = some call) {p' : Phase} {t : σ}
    (hadvance : call.phase.advance store call.verb call.cluster S.state = (p', t)) :
    (S.move store (.turn i none)).state = t ∧
      (S.move store (.turn i none)).calls.length = S.calls.length ∧
      ∀ p, (S.move store (.turn i none)).phaseCount p + (if call.phase = p then 1 else 0) =
        S.phaseCount p + if p' = p then 1 else 0 := by
  have hcalls := calls_move_turn store h none
  have hstate := state_move_turn store h none
  rw [RecordStore.failing_none, hadvance] at hcalls hstate
  refine ⟨hstate, by rw [hcalls, List.length_set], fun p => ?_⟩
  obtain ⟨hi, hcall⟩ := List.getElem?_eq_some_iff.1 h
  have hmem : (if call.phase = p then 1 else 0) ≤ S.calls.countP (·.phase == p) := by
    by_cases hp : call.phase = p
    · rw [if_pos hp]
      exact List.countP_pos_iff.2 ⟨call, List.mem_of_getElem? h, by simpa using hp⟩
    · rw [if_neg hp]
      exact Nat.zero_le _
  rw [phaseCount, hcalls, List.countP_set hi, hcall, phaseCount]
  simp only [beq_iff_eq]
  omega

/-- Every call has the verb and the cluster. -/
def Agrees (S : System σ) (verb : Verb) (c : Cluster) : Prop :=
  ∀ call ∈ S.calls, call.verb = verb ∧ call.cluster = c

end System

/-- A move in a race before all have probed: a call on the cluster is begun, or a call that has not
gone on from its probe takes its turn. -/
def Move.Opens {σ : Type} (verb : Verb) (c : Cluster) (S : System σ) : Move → Prop
  | .start _ _ v d => v = verb ∧ d = c
  | .turn i fault => fault = none ∧ ∀ call ∈ S.calls[i]?, call.phase ≠ .deciding

/-- Moves of that sort one after the other. -/
def Opening {σ : Type} (store : RecordStore σ) (verb : Verb) (c : Cluster) :
    System σ → List Move → Prop
  | _, [] => True
  | S, m :: ms => m.Opens verb c S ∧ Opening store verb c (S.move store m) ms

/-- A race of so many calls on a cluster. In the moves up to the barrier all calls are begun and
have probed, in whatever order, and none has gone on; in the moves after it they go on, in whatever
order, until all are over. -/
structure Race {σ : Type} (store : RecordStore σ) (s : σ) (verb : Verb) (c : Cluster) (n : Nat)
    (before after : List Move) : Prop where
  opening : Opening store verb c (System.fresh ⟨s, {}⟩) before
  begun : ((System.fresh ⟨s, {}⟩).run store before).calls.length = n
  probed : ∀ call ∈ ((System.fresh ⟨s, {}⟩).run store before).calls, call.phase ≠ .probing
  closing : ∀ m ∈ after, ∃ i, m = .turn i none
  ended : ∀ call ∈ ((System.fresh ⟨s, {}⟩).run store (before ++ after)).calls, call.isFinished

/-! ## The tally of a race -/

theorem takeD_succ_eq_append {α : Type} (l : List α) (k : Nat) (a : α) :
    l.takeD (k + 1) a = l.takeD k a ++ [(l.drop k).headD a] := by
  induction k generalizing l with
  | zero => cases l <;> rfl
  | succ k ih =>
    have htail : l.tail.drop k = l.drop (k + 1) := by
      rw [← List.drop_one, List.drop_drop, Nat.add_comm]
    rw [List.takeD_succ, ih l.tail, htail, ← List.cons_append, ← List.takeD_succ]

namespace Contested

variable (s : Contested) (q : StoreCall)

/-- The answers to a call that is made so many times, and the records after them. -/
def served (k : Nat) : List (Except StoreError Unit) × MemoryStore :=
  s.inner.serve q ((s.faultsFor q.kind).takeD k none)

theorem served_succ (k : Nat) :
    s.served q (k + 1) =
      let answered := (memoryStore.failing (((s.faultsFor q.kind).drop k).headD none)).verdict q
        (s.served q k).2
      ((s.served q k).1 ++ [answered.1], answered.2) := by
  rw [served, takeD_succ_eq_append, MemoryStore.serve_append]
  rfl

/-- Probes leave the records as they are. -/
theorem served_probe_snd (c : Cluster) (k : Nat) : (s.served (Verb.probeCall c) k).2 = s.inner := by
  have hsame : memoryStore.verdict (Verb.probeCall c) s.inner =
      ((memoryStore.verdict (Verb.probeCall c) s.inner).1, s.inner) :=
    Prod.ext rfl (MemoryStore.get_snd _ _ s.inner)
  rw [served, MemoryStore.serve_of_same hsame]

/-- A store that has come as far as so many calls answers the next one as the list of answers goes
on. -/
theorem verdict_served {t : Contested} {k : Nat} (hothers : t.intrusions = [])
    (hfaults : t.faultsFor q.kind = (s.faultsFor q.kind).drop k)
    (hinner : t.inner = (s.served q k).2) :
    ∃ a, (s.served q (k + 1)).1 = (s.served q k).1 ++ [a] ∧
      contestedStore.verdict q t = (a, t.past q (s.served q (k + 1)).2) := by
  rw [served_succ, contestedStore_verdict hothers, hfaults, hinner]
  exact ⟨_, rfl, rfl⟩

end Contested

/-- How a race stands after `k` probes and `j` creates or deletes. -/
structure Tally (s : Contested) (verb : Verb) (c : Cluster) (S : System Contested) (k j : Nat) :
    Prop where
  agrees : S.Agrees verb c
  undisturbed : S.state.intrusions = []
  probeFaults : S.state.faultsFor .get = (s.faultsFor .get).drop k
  decisionFaults : S.state.faultsFor (verb.decisionCall c).kind =
    (s.faultsFor (verb.decisionCall c).kind).drop j
  made : S.state.calls = s.calls ++ List.replicate k (Verb.probeCall c) ++
    List.replicate j (verb.decisionCall c)
  contents : S.state.inner = (s.served (verb.decisionCall c) j).2
  probing : S.phaseCount .probing + k = S.calls.length
  deciding : S.phaseCount .deciding + j =
    (s.served (Verb.probeCall c) k).1.countP fun a => (verb.afterProbe a).1 == .deciding
  finished : ∀ o, S.phaseCount (.finished o) =
    ((s.served (Verb.probeCall c) k).1.countP fun a => (verb.afterProbe a).1 == .finished o) +
      (s.served (verb.decisionCall c) j).1.countP fun b => (verb.afterDecision b).1 == o

theorem System.Agrees.turn {σ : Type} {store : RecordStore σ} {S : System σ} {verb : Verb}
    {c : Cluster} (h : S.Agrees verb c) (i : Nat) :
    (S.move store (.turn i none)).Agrees verb c := by
  cases hi : S.calls[i]? with
  | none => rwa [move_turn_of_none store hi]
  | some call =>
    intro call' hmem
    rw [calls_move_turn store hi none] at hmem
    rcases List.mem_or_eq_of_mem_set hmem with hmem | rfl
    · exact h call' hmem
    · exact h call (List.mem_of_getElem? hi)

theorem Verb.kind_decisionCall {verb : Verb} (h : verb ≠ .probe) (c : Cluster) :
    (verb.decisionCall c).kind ≠ .get := by
  cases verb with
  | acquire => nofun
  | release => nofun
  | probe => exact absurd rfl h

namespace Tally

variable {s : Contested} {verb : Verb} {c : Cluster} {S : System Contested} {k j : Nat}

theorem fresh (hs : s.intrusions = []) : Tally s verb c (System.fresh ⟨s, {}⟩) 0 0 where
  agrees := by
    intro call hmem
    cases hmem
  undisturbed := hs
  probeFaults := rfl
  decisionFaults := rfl
  made := by simp [System.fresh]
  contents := rfl
  probing := rfl
  deciding := rfl
  finished o := rfl

/-- A beginning. -/
theorem start (h : Tally s verb c S k j) (hc : c.Complete) (l : Locker) (caller : Scope) :
    Tally s verb c (S.move contestedStore (.start l caller verb c)) k j := by
  have hphase : (verb.start c).1 = .probing := by rw [Verb.start_fst, if_pos (Or.inr hc)]
  have hcalls := System.calls_move_start contestedStore S l caller verb c
  have hcount := System.phaseCount_start contestedStore S l caller verb c
  rw [hphase] at hcount
  refine ⟨?_, h.undisturbed, h.probeFaults, h.decisionFaults, h.made, h.contents, ?_, ?_, ?_⟩
  · intro call hmem
    rw [hcalls, List.mem_append, List.mem_singleton] at hmem
    rcases hmem with hmem | rfl
    · exact h.agrees call hmem
    · exact ⟨rfl, rfl⟩
  · have hprobing := h.probing
    rw [hcount, if_pos rfl, hcalls, List.length_append, List.length_singleton]
    omega
  · rw [hcount, if_neg (by simp)]
    exact h.deciding
  · intro o
    rw [hcount, if_neg (by simp)]
    exact h.finished o

/-- A probe. -/
theorem probe (h : Tally s verb c S k 0) (hv : verb ≠ .probe) {i : Nat} {call : LockCall}
    (hi : S.calls[i]? = some call) (hp : call.phase = .probing) :
    Tally s verb c (S.move contestedStore (.turn i none)) (k + 1) 0 := by
  obtain ⟨hverb, hcluster⟩ := h.agrees call (List.mem_of_getElem? hi)
  have hinner : S.state.inner = (s.served (Verb.probeCall c) k).2 := by
    rw [s.served_probe_snd]
    exact h.contents
  obtain ⟨a, hserved, hverdict⟩ :=
    s.verdict_served (Verb.probeCall c) h.undisturbed h.probeFaults hinner
  rw [s.served_probe_snd] at hverdict
  have hadvance : call.phase.advance contestedStore call.verb call.cluster S.state =
      ((verb.afterProbe a).1, S.state.past (Verb.probeCall c) s.inner) := by
    rw [hp, hverb, hcluster, Phase.advance, hverdict]
  obtain ⟨hstate, hlength, hcount⟩ := System.turn_spec hi hadvance
  rw [hp] at hcount
  have hfaults := Contested.faultsFor_past S.state (Verb.probeCall c) s.inner
  refine ⟨h.agrees.turn i, ?_, ?_, ?_, ?_, ?_, ?_, ?_, ?_⟩
  · rw [hstate]
    exact h.undisturbed
  · rw [hstate, hfaults, ← List.tail_drop]
    exact (if_pos rfl).trans (congrArg List.tail h.probeFaults)
  · rw [hstate, hfaults]
    exact (if_neg (Verb.kind_decisionCall hv c)).trans h.decisionFaults
  · have hmade : (S.state.past (Verb.probeCall c) s.inner).calls =
        S.state.calls ++ [Verb.probeCall c] := rfl
    rw [hstate, hmade, h.made, List.replicate_succ']
    simp
  · rw [hstate]
    rfl
  · have hprobing := h.probing
    have hmoved := hcount .probing
    rw [if_pos rfl, if_neg (verb.afterProbe_ne_probing a)] at hmoved
    omega
  · have hdeciding := h.deciding
    have hmoved := hcount .deciding
    rw [if_neg (by simp)] at hmoved
    rw [hserved, List.countP_append, List.countP_singleton]
    simp only [beq_iff_eq]
    omega
  · intro o
    have hfinished := h.finished o
    have hmoved := hcount (.finished o)
    rw [if_neg (by simp)] at hmoved
    rw [hserved, List.countP_append, List.countP_singleton]
    simp only [beq_iff_eq]
    omega

/-- A create or a delete. -/
theorem decide (h : Tally s verb c S k j) (hv : verb ≠ .probe) {i : Nat} {call : LockCall}
    (hi : S.calls[i]? = some call) (hp : call.phase = .deciding) :
    Tally s verb c (S.move contestedStore (.turn i none)) k (j + 1) := by
  obtain ⟨hverb, hcluster⟩ := h.agrees call (List.mem_of_getElem? hi)
  obtain ⟨b, hserved, hverdict⟩ :=
    s.verdict_served (verb.decisionCall c) h.undisturbed h.decisionFaults h.contents
  have hadvance : call.phase.advance contestedStore call.verb call.cluster S.state =
      (.finished (verb.afterDecision b).1, S.state.past (verb.decisionCall c)
        (s.served (verb.decisionCall c) (j + 1)).2) := by
    rw [hp, hverb, hcluster, Phase.advance, hverdict]
  obtain ⟨hstate, hlength, hcount⟩ := System.turn_spec hi hadvance
  rw [hp] at hcount
  have hfaults := Contested.faultsFor_past S.state (verb.decisionCall c)
    (s.served (verb.decisionCall c) (j + 1)).2
  refine ⟨h.agrees.turn i, ?_, ?_, ?_, ?_, ?_, ?_, ?_, ?_⟩
  · rw [hstate]
    exact h.undisturbed
  · rw [hstate, hfaults]
    exact (if_neg (Verb.kind_decisionCall hv c).symm).trans h.probeFaults
  · rw [hstate, hfaults, ← List.tail_drop]
    exact (if_pos rfl).trans (congrArg List.tail h.decisionFaults)
  · have hmade : (S.state.past (verb.decisionCall c)
        (s.served (verb.decisionCall c) (j + 1)).2).calls =
        S.state.calls ++ [verb.decisionCall c] := rfl
    rw [hstate, hmade, h.made, List.replicate_succ', List.append_assoc]
  · rw [hstate]
    rfl
  · have hprobing := h.probing
    have hmoved := hcount .probing
    rw [if_neg (by simp), if_neg (by simp)] at hmoved
    omega
  · have hdeciding := h.deciding
    have hmoved := hcount .deciding
    rw [if_pos rfl, if_neg (by simp)] at hmoved
    omega
  · intro o
    have hfinished := h.finished o
    have hmoved := hcount (.finished o)
    simp only [Phase.finished.injEq] at hmoved
    rw [if_neg (by simp)] at hmoved
    rw [hserved, List.countP_append, List.countP_singleton]
    simp only [beq_iff_eq]
    omega

/-- A turn of a call that is over does nothing, and neither does one of a call that is not there. -/
theorem idle (h : Tally s verb c S k j) {i : Nat} (hi : ∀ call ∈ S.calls[i]?, call.isFinished) :
    Tally s verb c (S.move contestedStore (.turn i none)) k j := by
  cases hcall : S.calls[i]? with
  | none => rwa [System.move_turn_of_none contestedStore hcall]
  | some call =>
    have hover : call.isFinished := hi call (by rw [hcall]; rfl)
    rwa [System.move_turn_of_isFinished contestedStore hcall none hover]

/-- Before the barrier there are probes only. -/
theorem opening (h : Tally s verb c S k 0) (hv : verb ≠ .probe) (hc : c.Complete) (ms : List Move)
    (hms : Opening contestedStore verb c S ms) :
    ∃ k, Tally s verb c (S.run contestedStore ms) k 0 := by
  induction ms generalizing S k with
  | nil => exact ⟨k, h⟩
  | cons m ms ih =>
    obtain ⟨hm, hms⟩ := hms
    have hmove : ∃ k, Tally s verb c (S.move contestedStore m) k 0 := by
      cases m with
      | start l caller v d =>
        obtain ⟨rfl, rfl⟩ := hm
        exact ⟨k, h.start hc l caller⟩
      | turn i fault =>
        obtain ⟨rfl, hphase⟩ := hm
        cases hi : S.calls[i]? with
        | none => exact ⟨k, h.idle (by simp [hi])⟩
        | some call =>
          have hnot : call.phase ≠ .deciding := hphase call hi
          cases hp : call.phase with
          | probing => exact ⟨k + 1, h.probe hv hi hp⟩
          | deciding => exact absurd hp hnot
          | finished o =>
            refine ⟨k, h.idle fun call' hcall' => ?_⟩
            rw [hi] at hcall'
            cases hcall'
            rw [LockCall.isFinished_eq, hp]
            rfl
    obtain ⟨k, hmove⟩ := hmove
    exact ih hmove hms

/-- After it there are creates or deletes only. -/
theorem closing (h : Tally s verb c S k j) (hv : verb ≠ .probe) (hk : k = S.calls.length)
    (ms : List Move) (hms : ∀ m ∈ ms, ∃ i, m = .turn i none) :
    ∃ j, Tally s verb c (S.run contestedStore ms) k j ∧
      (S.run contestedStore ms).calls.length = k := by
  induction ms generalizing S j with
  | nil => exact ⟨j, h, hk.symm⟩
  | cons m ms ih =>
    obtain ⟨i, rfl⟩ := hms m List.mem_cons_self
    have hrest : ∀ m ∈ ms, ∃ i, m = .turn i none := fun m hm => hms m (List.mem_cons_of_mem _ hm)
    have hlength : (S.move contestedStore (.turn i none)).calls.length = S.calls.length := by
      cases hi : S.calls[i]? with
      | none => rw [System.move_turn_of_none contestedStore hi]
      | some call => rw [System.calls_move_turn contestedStore hi, List.length_set]
    have hmove : ∃ j, Tally s verb c (S.move contestedStore (.turn i none)) k j := by
      cases hi : S.calls[i]? with
      | none => exact ⟨j, h.idle (by simp [hi])⟩
      | some call =>
        cases hp : call.phase with
        | deciding => exact ⟨j + 1, h.decide hv hi hp⟩
        | probing =>
          -- all have probed
          exfalso
          have hprobing := h.probing
          have hpos : 0 < S.phaseCount .probing :=
            List.countP_pos_iff.2 ⟨call, List.mem_of_getElem? hi, by simpa using hp⟩
          omega
        | finished o =>
          refine ⟨j, h.idle fun call' hcall' => ?_⟩
          rw [hi] at hcall'
          cases hcall'
          rw [LockCall.isFinished_eq, hp]
          rfl
    obtain ⟨j, hmove⟩ := hmove
    exact ih hmove (hk.trans hlength.symm) hrest

end Tally

theorem System.run_append {σ : Type} (store : RecordStore σ) (S : System σ) (ms ms' : List Move) :
    S.run store (ms ++ ms') = (S.run store ms).run store ms' :=
  List.foldl_append

/-- A race in the end: every call has probed, and those that the probe has left open have made
their create or delete. -/
theorem Race.tally {s : Contested} (hs : s.intrusions = []) {verb : Verb} (hv : verb ≠ .probe)
    {c : Cluster} (hc : c.Complete) {n : Nat} {before after : List Move}
    (h : Race contestedStore s verb c n before after) :
    Tally s verb c ((System.fresh ⟨s, {}⟩).run contestedStore (before ++ after)) n
        ((s.served (Verb.probeCall c) n).1.countP fun a => (verb.afterProbe a).1 == .deciding) ∧
      ((System.fresh ⟨s, {}⟩).run contestedStore (before ++ after)).calls.length = n := by
  obtain ⟨k, hopen⟩ := (Tally.fresh hs).opening hv hc before h.opening
  have hk : k = ((System.fresh ⟨s, {}⟩).run contestedStore before).calls.length := by
    have hnone : ((System.fresh ⟨s, {}⟩).run contestedStore before).phaseCount .probing = 0 := by
      refine List.countP_eq_zero.2 fun call hmem hp => ?_
      exact h.probed call hmem (by simpa using hp)
    have hprobing := hopen.probing
    omega
  obtain ⟨j, hclose, hlength⟩ := hopen.closing hv hk after h.closing
  rw [← System.run_append] at hclose hlength
  have hover := h.ended
  have hkn : k = n := hk.trans h.begun
  subst hkn
  have hj : j = (s.served (Verb.probeCall c) k).1.countP
      fun a => (verb.afterProbe a).1 == .deciding := by
    have hnone : ((System.fresh ⟨s, {}⟩).run contestedStore (before ++ after)).phaseCount
        .deciding = 0 := by
      refine List.countP_eq_zero.2 fun call hmem hp => ?_
      have hphase : call.phase = .deciding := by simpa using hp
      have hfin := hover call hmem
      rw [LockCall.isFinished_eq, hphase] at hfin
      cases hfin
    have hdeciding := hclose.deciding
    omega
  subst hj
  exact ⟨hclose, hlength⟩

end ClusterLock
