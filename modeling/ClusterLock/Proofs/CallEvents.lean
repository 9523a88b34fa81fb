import ClusterLock.Proofs.CallDiscipline

/-
  What a lock call writes to its journal, whatever the store answers. The notes of a turn depend on
  its phase and on the answer that it gets (`Phase.notes`); a whole call writes those of its
  beginning and of its two turns, all in one scope, raises the counter of its outcome and leaves
  the scopes as they were (`Locker.run_journal`). Two stores that answer alike and announce the
  same are therefore told apart by nothing in the journal (`Locker.execute_eq_map`).
-/
namespace ClusterLock

variable {σ τ : Type}

/-! ## The journal of a turn -/

/-- The notes of a call's turn in this phase. -/
def Phase.notes (store : RecordStore σ) (verb : Verb) (c : Cluster) : Phase → σ → List Note
  | probing, s => store.announce (Verb.probeCall c) ++
      (verb.afterProbe (store.verdict (Verb.probeCall c) s).1).2
  | deciding, s => store.announce (verb.decisionCall c) ++
      (verb.afterDecision (store.verdict (verb.decisionCall c) s).1).2
  | finished _, _ => []

namespace Journal

/-- The notes are written in that scope, and the counters raised. -/
def extend (j : Journal) (scope : Scope) (notes : List Note) (counters : List Counter) : Journal :=
  ⟨j.entered, j.events ++ notes.map (⟨·, scope⟩), j.counts ++ counters⟩

theorem extend_extend (j : Journal) (scope : Scope) (ns ns' : List Note) (cs cs' : List Counter) :
    (j.extend scope ns cs).extend scope ns' cs' = j.extend scope (ns ++ ns') (cs ++ cs') := by
  simp only [extend, List.map_append, List.append_assoc]

theorem extend_nil (j : Journal) (scope : Scope) : j.extend scope [] [] = j := by
  simp only [extend, List.map_nil, List.append_nil]

theorem writeAll_within (j : Journal) (scope : Scope) (notes : List Note) :
    ((j.enter scope).writeAll notes).leave = j.extend scope notes [] := by
  rw [writeAll_eq, current_enter]
  simp only [leave, enter, extend, List.tail_cons, List.append_nil]

theorem close_extend (j : Journal) (scope : Scope) (notes : List Note) (p : Phase) :
    LockCall.close (j.extend scope notes []) p = j.extend scope notes p.counters := by
  cases p with
  | probing => rfl
  | deciding => rfl
  | finished o =>
    cases h : o.counter? with
    | none => simp only [LockCall.close, Phase.counters, h, Option.toList]
    | some c =>
      simp only [LockCall.close, Phase.counters, h, count, extend, Option.toList, List.append_nil]

end Journal

/-- **One turn** writes its notes in the scope of the call, and raises the counter of the phase
that it comes to. -/
theorem LockCall.step_journal (store : RecordStore σ) (call : LockCall) (s : Session σ) :
    (call.step store s).2.journal =
      s.journal.extend call.scope (call.phase.notes store call.verb call.cluster s.state)
        (if call.isFinished then []
          else (call.phase.advance store call.verb call.cluster s.state).1.counters) := by
  obtain ⟨verb, c, scope, phase⟩ := call
  have hboth : ∀ (notes notes' : List Note) (p : Phase),
      close (((s.journal.enter scope).writeAll notes).writeAll notes').leave p =
        s.journal.extend scope (notes ++ notes') p.counters := by
    intro notes notes' p
    rw [← Journal.close_extend, ← Journal.writeAll_within]
    simp only [Journal.writeAll, List.foldl_append]
  cases phase with
  | finished o => simp only [step, Phase.notes, isFinished, if_true, Journal.extend_nil]
  | probing => exact hboth _ _ _
  | deciding => exact hboth _ _ (.finished _)

/-! ## The journal of a call -/

namespace Locker

/-- The notes of a whole call. -/
def callNotes (store : RecordStore σ) (verb : Verb) (c : Cluster) (s : σ) : List Note :=
  (verb.start c).2 ++ (verb.start c).1.notes store verb c s ++
    ((verb.start c).1.advance store verb c s).1.notes store verb c
      ((verb.start c).1.advance store verb c s).2

theorem start_journal (l : Locker) (verb : Verb) (c : Cluster) (s : Session σ) :
    (l.start verb c s).2.journal =
      s.journal.extend (l.callScope verb c s.journal.current) (verb.start c).2
        (verb.start c).1.counters := by
  simp only [start, Journal.writeAll_within, Journal.close_extend]

/-- A whole call writes its notes in its own scope and raises the counter of its outcome. -/
theorem run_journal (l : Locker) (store : RecordStore σ) (verb : Verb) (c : Cluster)
    (s : Session σ) :
    (l.run store verb c s).2.journal =
      s.journal.extend (l.callScope verb c s.journal.current) (callNotes store verb c s.state)
        (l.run store verb c s).1.phase.counters := by
  have hcounts := l.run_counts store verb c s
  have hjournal : ∃ cs, (l.run store verb c s).2.journal =
      s.journal.extend (l.callScope verb c s.journal.current)
        (callNotes store verb c s.state) cs := by
    simp only [run, LockCall.step_journal, LockCall.step_fst, LockCall.step_state, start_fst,
      start_state, start_journal, Journal.extend_extend]
    exact ⟨_, rfl⟩
  obtain ⟨cs, hcs⟩ := hjournal
  rw [hcs] at hcounts ⊢
  rw [List.append_cancel_left hcounts]

/-! ## Stores that answer alike -/

section

variable {store : RecordStore σ} {store' : RecordStore τ} {f : σ → τ}
  (hf : ∀ q s, store'.verdict q (f s) = ((store.verdict q s).1, f (store.verdict q s).2))
  (hann : store'.announce = store.announce)

include hf hann

theorem callNotes_map (verb : Verb) (c : Cluster) (s : σ) :
    callNotes store' verb c (f s) = callNotes store verb c s := by
  have hnotes : ∀ (p : Phase) (s : σ), p.notes store' verb c (f s) = p.notes store verb c s := by
    intro p s
    cases p with
    | finished o => rfl
    | probing => simp only [Phase.notes, hf, hann]
    | deciding => simp only [Phase.notes, hf, hann]
  have hadvance : ∀ (p : Phase) (s : σ), p.advance store' verb c (f s) =
      ((p.advance store verb c s).1, f (p.advance store verb c s).2) := by
    intro p s
    cases p with
    | finished o => rfl
    | probing => simp only [Phase.advance, hf]
    | deciding => simp only [Phase.advance, hf]
  simp only [callNotes, hnotes, hadvance]

/-- A whole call on such a store answers the same and writes the same. -/
theorem execute_eq_map (l : Locker) (v : Verb) (c : Cluster) (s : σ) (j : Journal) :
    l.execute store' v c ⟨f s, j⟩ =
      ((l.execute store v c ⟨s, j⟩).1, ⟨f (l.execute store v c ⟨s, j⟩).2.state,
        (l.execute store v c ⟨s, j⟩).2.journal⟩) := by
  obtain ⟨hphase, hstate⟩ := l.run_map hf v c s j j
  obtain ⟨a, ha, hexec⟩ := l.execute_eq store v c ⟨s, j⟩
  obtain ⟨a', ha', hexec'⟩ := l.execute_eq store' v c ⟨f s, j⟩
  have hanswer : a' = a := by
    rw [LockCall.answer?, hphase] at ha'
    exact Option.some.inj (ha'.symm.trans ha)
  have hjournal : (l.run store' v c ⟨f s, j⟩).2.journal = (l.run store v c ⟨s, j⟩).2.journal := by
    rw [run_journal, run_journal, hphase, callNotes_map hf hann]
  rw [hexec, hexec', hanswer, ← hstate, ← hjournal]

end

end Locker

end ClusterLock
