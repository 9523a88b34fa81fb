import ClusterLock.Proofs.Independence

/-
  What the probe tells of the call that comes next on a store in memory. A probe answers whether a
  record is filed (`isLocked_memory`), an acquire is granted if none is and the cluster is complete
  (`acquire_memory`), a release if the cluster is complete (`release_memory`); a call that is told
  no leaves the store as it was (`state_of_not_granted`). `probe_forecasts` puts them one after the
  other. The probe does not ask whether the cluster is complete, so that its no is not always the
  promise of a lock.
-/
namespace ClusterLock

theorem Outcome.granted_of_answer {o : Outcome} {b : Bool} (h : o.answer = .ok b) :
    o.granted = b := by
  cases o with
  | unreadable e => cases h
  | acquire o => exact Except.ok.inj h
  | release o => exact Except.ok.inj h
  | found present => exact Except.ok.inj h

namespace Locker

/-! ## What a call leaves -/

section

variable (l : Locker) (verb : Verb) (c : Cluster) (s : Session MemoryStore)

theorem leaves_run :
    (l.run memoryStore verb c s).1.phase.Leaves c s.state (l.run memoryStore verb c s).2.state := by
  refine l.run_invariant memoryStore verb c (P := fun p m => p.Leaves c s.state m) ?_
    (Phase.leaves_start c s.state verb)
  intro p m h
  cases hf : p.isFinished with
  | true =>
    rw [Phase.advance_finished _ _ _ hf]
    exact h
  | false =>
    rw [(Phase.leaves_of_not_finished c hf).1 h]
    exact Phase.leaves_advance c s.state verb hf none

/-- A call that is told no has changed nothing. -/
theorem state_of_not_granted (h : (l.run memoryStore verb c s).1.granted = false) :
    (l.run memoryStore verb c s).2.state = s.state := by
  rcases Phase.leaves_cases (l.leaves_run verb c s) with ⟨hp, -⟩ | ⟨hp, -⟩ | ⟨-, -, hsame⟩
  · rw [LockCall.granted, hp] at h
    cases h
  · rw [LockCall.granted, hp] at h
    cases h
  · exact hsame

end

/-! ## What a call answers -/

section

variable (l : Locker) (c : Cluster) (s : Session MemoryStore)

/-- A call answers as the atomic lock does and leaves the same keys. -/
theorem run_memory (verb : Verb) {b : Bool} {held : Finset String}
    (h : LockOp.apply ⟨verb, c, none⟩ s.state.keys = (.ok b, held)) :
    (l.run memoryStore verb c s).1.granted = b ∧
      (l.run memoryStore verb c s).2.state.keys = held := by
  obtain ⟨o, hp, happly⟩ := LockOp.apply_run l verb c s
  rw [h] at happly
  have hanswer : o.answer = .ok b := (congrArg Prod.fst happly).symm
  have hkeys : (l.run memoryStore verb c s).2.state.keys = held := (congrArg Prod.snd happly).symm
  refine ⟨?_, hkeys⟩
  rw [LockCall.granted, hp]
  exact Outcome.granted_of_answer hanswer

theorem isLocked_memory :
    (l.isLocked memoryStore c s).1 = .ok (decide (c.key ∈ s.state.keys)) ∧
      (l.isLocked memoryStore c s).2.state = s.state := by
  have hrun : (l.run memoryStore .probe c s).1.granted = decide (c.key ∈ s.state.keys) :=
    (l.run_memory c s .probe rfl).1
  have hleaves := l.leaves_run .probe c s
  obtain ⟨o, hp, happly⟩ := LockOp.apply_run l .probe c s
  obtain ⟨o', hp', hverb⟩ := l.run_outcome memoryStore .probe c s
  rw [Phase.finished.inj (hp'.symm.trans hp)] at hverb
  rw [hp] at hleaves
  cases o with
  | acquire o => cases hverb
  | release o => cases hverb
  | unreadable e => cases congrArg Prod.fst happly
  | found present =>
    simp only [isLocked, hp]
    exact ⟨congrArg Except.ok hrun, hleaves⟩

theorem acquire_memory :
    (l.acquire memoryStore c s).1 = decide (c.Complete ∧ c.key ∉ s.state.keys) ∧
      (c.Complete → c.key ∈ (l.acquire memoryStore c s).2.state.keys) := by
  by_cases h : c.Complete ∧ c.key ∉ s.state.keys
  · obtain ⟨hyes, hkeys⟩ := l.run_memory c s .acquire (if_pos h)
    refine ⟨hyes.trans (decide_eq_true h).symm, fun _ => ?_⟩
    show c.key ∈ (l.run memoryStore .acquire c s).2.state.keys
    rw [hkeys]
    exact Finset.mem_insert_self _ _
  · obtain ⟨hno, hkeys⟩ := l.run_memory c s .acquire (if_neg h)
    refine ⟨hno.trans (decide_eq_false h).symm, fun hc => ?_⟩
    show c.key ∈ (l.run memoryStore .acquire c s).2.state.keys
    rw [hkeys]
    by_contra hk
    exact h ⟨hc, hk⟩

theorem release_memory :
    (l.release memoryStore c s).1 = decide c.Complete ∧
      (c.Complete → c.key ∉ (l.release memoryStore c s).2.state.keys) := by
  by_cases h : c.Complete
  · obtain ⟨hyes, hkeys⟩ := l.run_memory c s .release (if_pos h)
    refine ⟨hyes.trans (decide_eq_true h).symm, fun _ => ?_⟩
    show c.key ∉ (l.run memoryStore .release c s).2.state.keys
    rw [hkeys]
    exact Finset.notMem_erase _ _
  · obtain ⟨hno, -⟩ := l.run_memory c s .release (if_neg h)
    exact ⟨hno.trans (decide_eq_false h).symm, fun hc => absurd hc h⟩

end

end Locker

/-! ## One call after the other -/

/-- **What the probe foretells**, whatever the store holds and whatever the cluster is. To a
complete cluster its no promises the lock and its yes a release; an incomplete one is refused both,
and nothing changes. After a yes no acquire is granted or changes anything. -/
theorem probe_forecasts (l l' : Locker) (c : Cluster) (s : Session MemoryStore) :
    let probed := l.isLocked memoryStore c s
    let acquired := l'.acquire memoryStore c probed.2
    let released := l'.release memoryStore c probed.2
    ((l.execute memoryStore .probe c s).1 = .ok (s.state.contains c.ns c.lockName) ∧
        probed.1 = .ok (s.state.contains c.ns c.lockName) ∧ probed.2.state = s.state) ∧
      (probed.1 = .ok false → (acquired.1 = true ↔ c.Complete) ∧
        (c.Complete → (l.isLocked memoryStore c acquired.2).1 = .ok true)) ∧
      (probed.1 = .ok true → acquired.1 = false ∧ acquired.2.state = s.state ∧
        (released.1 = true ↔ c.Complete) ∧
        (c.Complete → (l.isLocked memoryStore c released.2).1 = .ok false)) ∧
      (¬ c.Complete → acquired.1 = false ∧ acquired.2.state = s.state ∧
        released.1 = false ∧ released.2.state = s.state) := by
  intro probed acquired released
  obtain ⟨hprobe, hstate⟩ := l.isLocked_memory c s
  obtain ⟨hacquire, hheld⟩ := l'.acquire_memory c probed.2
  obtain ⟨hrelease, hgone⟩ := l'.release_memory c probed.2
  rw [hstate] at hacquire
  have hfound : probed.1 = .ok (s.state.contains c.ns c.lockName) := by
    rw [MemoryStore.contains_eq]
    exact hprobe
  have hunchanged : acquired.1 = false → acquired.2.state = s.state := by
    intro h
    exact (l'.state_of_not_granted .acquire c probed.2 h).trans hstate
  have hunchanged' : released.1 = false → released.2.state = s.state := by
    intro h
    exact (l'.state_of_not_granted .release c probed.2 h).trans hstate
  refine ⟨⟨?_, hfound, hstate⟩, fun hno => ?_, fun hyes => ?_, fun hc => ?_⟩
  · show (l.isLocked memoryStore c s).1.mapError CommandError.unreadable = _
    rw [show (l.isLocked memoryStore c s).1 = _ from hfound]
    rfl
  · have hfree : c.key ∉ s.state.keys := of_decide_eq_false (Except.ok.inj (hprobe.symm.trans hno))
    refine ⟨?_, fun hc => ?_⟩
    · rw [show acquired.1 = _ from hacquire, decide_eq_true_iff, and_iff_left hfree]
    · rw [(l.isLocked_memory c acquired.2).1, decide_eq_true (hheld hc)]
  · have htaken : c.key ∈ s.state.keys := of_decide_eq_true (Except.ok.inj (hprobe.symm.trans hyes))
    have hdenied : acquired.1 = false := by
      rw [show acquired.1 = _ from hacquire]
      exact decide_eq_false fun h => h.2 htaken
    refine ⟨hdenied, hunchanged hdenied, ?_, fun hc => ?_⟩
    · rw [show released.1 = _ from hrelease, decide_eq_true_iff]
    · rw [(l.isLocked_memory c released.2).1, decide_eq_false (hgone hc)]
  · have hdenied : acquired.1 = false := by
      rw [show acquired.1 = _ from hacquire]
      exact decide_eq_false fun h => hc h.1
    have hdenied' : released.1 = false := by
      rw [show released.1 = _ from hrelease]
      exact decide_eq_false hc
    exact ⟨hdenied, hunchanged hdenied, hdenied', hunchanged' hdenied'⟩

theorem probe_forecasts_free :
    let c : Cluster := ⟨"ns1", "cl1", "abc-123", "cluster.x-k8s.io/v1beta1", "Cluster"⟩
    let probed := ({} : Locker).isLocked memoryStore c ⟨∅, {}⟩
    let acquired := ({} : Locker).acquire memoryStore c probed.2
    c.Complete ∧ probed.1 = .ok false ∧ acquired.1 = true ∧
      (({} : Locker).isLocked memoryStore c acquired.2).1 = .ok true := by
  intro c probed acquired
  have hc : c.Complete := by decide
  have hno : probed.1 = .ok false := by decide
  obtain ⟨-, hfree, -, -⟩ := probe_forecasts {} {} c ⟨∅, {}⟩
  obtain ⟨hgranted, hfound⟩ := hfree hno
  exact ⟨hc, hno, hgranted.2 hc, hfound hc⟩

/-- A cluster without a uid: the probe finds nothing, and still there is no lock to be had. With a
record under its key the probe finds it, and still it is not released. -/
theorem probe_misleads_incomplete :
    let c : Cluster := ⟨"ns1", "cl1", "", "cluster.x-k8s.io/v1beta1", "Cluster"⟩
    let empty : Session MemoryStore := ⟨∅, {}⟩
    let taken : Session MemoryStore := ⟨((∅ : MemoryStore).create (.forCluster c)).2, {}⟩
    let l : Locker := {}
    ((l.isLocked memoryStore c empty).1 = .ok false ∧
        (l.acquire memoryStore c (l.isLocked memoryStore c empty).2).1 = false) ∧
      (l.isLocked memoryStore c taken).1 = .ok true ∧
        (l.release memoryStore c (l.isLocked memoryStore c taken).2).1 = false := by
  decide +kernel

end ClusterLock
