import ClusterLock.Proofs.RaceOrders

/-
  How many calls win a race, and what becomes of the others. The tally of a race that is over
  (`Race.tally`) tells how many probes ended in each way and how many creates or deletes did; both
  have a closed form in the faults alone (`Contested.countP_probed` and `OneShot.serve_good`), and
  the counters tell the same numbers (`System.total_eq_phaseCount`). `race_ends` puts them together
  for acquires and releases.
-/
namespace ClusterLock

/-! ## Totals -/

namespace System

variable {σ : Type} (store : RecordStore σ) (s : σ) (ms : List Move)

/-- The total of a counter is the number of calls that have come to its outcome. -/
theorem total_eq_phaseCount (k : Counter) :
    ((fresh ⟨s, {}⟩).run store ms).session.journal.total k =
      ((fresh ⟨s, {}⟩).run store ms).phaseCount (.finished k.outcome) := by
  have hsame : ∀ call : LockCall,
      call.counter?.any (· == k) = (call.phase == .finished k.outcome) := by
    intro call
    rw [Bool.eq_iff_iff, beq_iff_eq, ← LockCall.counter?_eq_some]
    cases call.counter? <;> simp
  have hcounts := countP_counts store s ms (· == k)
  simp only [hsame] at hcounts
  exact hcounts

variable {verb : Verb} {c : Cluster} (hv : verb ≠ .probe)
  (hagrees : ((fresh ⟨s, {}⟩).run store ms).Agrees verb c)
  (hover : ∀ call ∈ ((fresh ⟨s, {}⟩).run store ms).calls, call.isFinished)

include hv hagrees hover

/-- Each of the calls is counted once when all of them are over. -/
theorem length_counts :
    ((fresh ⟨s, {}⟩).run store ms).counts.length =
      ((fresh ⟨s, {}⟩).run store ms).calls.length := by
  have hcounts := countP_counts store s ms fun _ => true
  rw [List.countP_true] at hcounts
  rw [hcounts]
  refine List.countP_eq_length.2 fun call hmem => ?_
  have hfin := hover call hmem
  have hown := own_run store ⟨s, {}⟩ ms call hmem
  have hprobe : call.verb ≠ .probe := by rwa [(hagrees call hmem).1]
  obtain ⟨v, d, scope, phase⟩ := call
  cases phase with
  | probing => cases hfin
  | deciding => cases hfin
  | finished o =>
    have hverb : o.verb ≠ .probe := by rwa [hown o rfl]
    cases o with
    | acquire o => rfl
    | release o => rfl
    | found b => exact absurd rfl hverb
    | unreadable e => exact absurd rfl hverb

omit hv in
/-- What the counters tell of acquires that are all over. -/
theorem acquire_totals (hv : verb = .acquire) :
    let S := (fresh ⟨s, {}⟩).run store ms
    S.session.journal.sum Counter.acquireName = S.calls.length ∧
      winners S.calls = S.session.journal.total (.acquire .acquired) := by
  intro S
  have hown := own_run store ⟨s, {}⟩ ms
  constructor
  · rw [Journal.sum_eq, countP_counts]
    refine List.countP_eq_length.2 fun call hmem => ?_
    rw [(hown call hmem).any_counter?.1, (hagrees call hmem).1, hv, hover call hmem]
    rfl
  · have htotal := countP_counts store s ms (· == .acquire .acquired)
    refine Eq.trans ?_ htotal.symm
    refine List.countP_congr fun call hmem => ?_
    rw [(hown call hmem).any_counter?.2.1, (hagrees call hmem).1, hv]
    rfl

omit hv in
/-- What they tell of releases. -/
theorem release_totals (hv : verb = .release) :
    let S := (fresh ⟨s, {}⟩).run store ms
    S.session.journal.sum Counter.releaseName = S.calls.length ∧
      winners S.calls = S.session.journal.total (.release .released) +
        S.session.journal.total (.release .absent) := by
  intro S
  have hown := own_run store ⟨s, {}⟩ ms
  constructor
  · rw [Journal.sum_eq, countP_counts]
    refine List.countP_eq_length.2 fun call hmem => ?_
    rw [(hown call hmem).any_counter?.2.2.1, (hagrees call hmem).1, hv, hover call hmem]
    rfl
  · have htotal := countP_counts store s ms
      fun k => k == .release .released || k == .release .absent
    have hsum := Counter.sum_count (fun k => k == .release .released || k == .release .absent)
      S.counts
    refine Eq.trans ?_ (htotal.symm.trans hsum.symm)
    refine List.countP_congr fun call hmem => ?_
    rw [(hown call hmem).any_counter?.2.2.2, (hagrees call hmem).1, hv]
    rfl

end System

/-! ## Closed forms -/

namespace Contested

variable (s : Contested) (c : Cluster) (n : Nat)

/-- The faults that the first calls of a kind meet. No fault is an entry too. -/
def firstFaults (kind : CallKind) (n : Nat) : List (Option StoreError) :=
  (s.faultsFor kind).takeD n none

/-- The number of creates in a race of so many acquires: those go on that find no record and those
that are told so. -/
def createsIn : Nat :=
  (if s.inner.contains c.ns c.lockName then 0 else (s.firstFaults .get n).count none) +
    (s.firstFaults .get n).countP (·.any StoreError.isNotFound)

/-- The number of deletes in a race of so many releases: those go on that find the record. -/
def deletesIn : Nat :=
  if s.inner.contains c.ns c.lockName then (s.firstFaults .get n).count none else 0

/-- The number of acquires that win: one if there is no record and a create goes through. -/
def wonIn : Nat :=
  if s.inner.contains c.ns c.lockName = false ∧ none ∈ s.firstFaults .create (s.createsIn c n)
  then 1 else 0

/-- The number of releases that delete the record: one if a delete goes through. -/
def removedIn : Nat := if none ∈ s.firstFaults .delete (s.deletesIn c n) then 1 else 0

theorem wonIn_eq :
    (if (!s.inner.contains c.ns c.lockName) = true ∧
      none ∈ s.firstFaults .create (s.createsIn c n) then 1 else 0) = s.wonIn c n := by
  simp only [wonIn, Bool.not_eq_true']

theorem wonIn_le : s.wonIn c n ≤ (s.firstFaults .create (s.createsIn c n)).count none := by
  unfold wonIn
  split
  · rename_i h
    exact List.count_pos_iff.2 h.2
  · exact Nat.zero_le _

/-- No delete is made of a record that is not there. -/
theorem removedIn_eq :
    (if s.inner.contains c.ns c.lockName = true ∧
      none ∈ s.firstFaults .delete (s.deletesIn c n) then 1 else 0) = s.removedIn c n := by
  unfold removedIn
  cases h : s.inner.contains c.ns c.lockName with
  | true => simp
  | false => simp [deletesIn, h, firstFaults]

/-- Counting the answers to the probes: those that go through all find the record, or none does. -/
theorem countP_probed {p : Except StoreError Unit → Bool} {f : StoreError → Bool}
    (hf : ∀ e, p (.error e) = f e) :
    (s.served (Verb.probeCall c) n).1.countP p =
      (if (if s.inner.contains c.ns c.lockName then p (.ok ())
        else f (.notFound c.ns c.lockName)) then (s.firstFaults .get n).count none else 0) +
        (s.firstFaults .get n).countP (·.any f) := by
  have hanswer : memoryStore.verdict (Verb.probeCall c) s.inner =
      (if s.inner.contains c.ns c.lockName then .ok () else .error (.notFound c.ns c.lockName),
        s.inner) := by
    rw [Verb.probeCall, MemoryStore.verdict_get, MemoryStore.contains_eq]
    simp only [decide_eq_true_eq]
    rfl
  rw [served, MemoryStore.serve_of_same hanswer, countP_struck]
  simp only [hf]
  cases s.inner.contains c.ns c.lockName with
  | true => rfl
  | false =>
    simp only [Bool.false_eq_true, if_false, hf]
    rfl

/-- The probes that leave an acquire open. -/
theorem countP_acquire_deciding :
    (s.served (Verb.probeCall c) n).1.countP (fun a => (Verb.acquire.afterProbe a).1 == .deciding) =
      s.createsIn c n := by
  rw [s.countP_probed c n (f := StoreError.isNotFound) fun e => by cases e <;> rfl, createsIn]
  cases s.inner.contains c.ns c.lockName <;> rfl

theorem countP_any_false (fs : List (Option StoreError)) :
    fs.countP (·.any fun _ => false) = 0 := by
  simp

/-- The probes that settle it. -/
theorem countP_acquire_finished (o : AcquireOutcome) (ho : o ≠ .error) :
    (s.served (Verb.probeCall c) n).1.countP
        (fun a => (Verb.acquire.afterProbe a).1 == .finished (.acquire o)) =
      if o = .held ∧ s.inner.contains c.ns c.lockName then (s.firstFaults .get n).count none
      else 0 := by
  rw [s.countP_probed c n (f := fun _ => false) fun e => by
    cases e <;> cases o <;> first | rfl | exact absurd rfl ho, countP_any_false]
  cases s.inner.contains c.ns c.lockName <;> cases o <;> rfl

/-- The probes that leave a release open. -/
theorem countP_release_deciding :
    (s.served (Verb.probeCall c) n).1.countP (fun a => (Verb.release.afterProbe a).1 == .deciding) =
      s.deletesIn c n := by
  rw [s.countP_probed c n (f := fun _ => false) fun e => by cases e <;> rfl, countP_any_false,
    deletesIn]
  cases s.inner.contains c.ns c.lockName <;> rfl

/-- The probes that settle it: they find nothing to remove. -/
theorem countP_release_released :
    (s.served (Verb.probeCall c) n).1.countP
      (fun a => (Verb.release.afterProbe a).1 == .finished (.release .released)) = 0 := by
  rw [s.countP_probed c n (f := fun _ => false) fun e => by cases e <;> rfl, countP_any_false]
  cases s.inner.contains c.ns c.lockName <;> rfl

theorem countP_release_absent :
    (s.served (Verb.probeCall c) n).1.countP
        (fun a => (Verb.release.afterProbe a).1 == .finished (.release .absent)) =
      (if s.inner.contains c.ns c.lockName then 0 else (s.firstFaults .get n).count none) +
        (s.firstFaults .get n).countP (·.any StoreError.isNotFound) := by
  rw [s.countP_probed c n (f := StoreError.isNotFound) fun e => by cases e <;> rfl]
  cases s.inner.contains c.ns c.lockName <;> rfl

end Contested

namespace Verb

theorem afterDecision_acquired :
    (fun b => (acquire.afterDecision b).1 == .acquire .acquired) = isGood := by
  funext b
  cases b with
  | ok u => rfl
  | error e => cases e <;> rfl

theorem afterDecision_lostRace :
    (fun b => (acquire.afterDecision b).1 == .acquire .lostRace) =
      failsBy StoreError.isAlreadyExists := by
  funext b
  cases b with
  | ok u => rfl
  | error e => cases e <;> rfl

theorem afterDecision_held :
    (fun b => (acquire.afterDecision b).1 == .acquire .held) = fun _ => false := by
  funext b
  cases b with
  | ok u => rfl
  | error e => cases e <;> rfl

theorem afterDecision_released :
    (fun b => (release.afterDecision b).1 == .release .released) = isGood := by
  funext b
  cases b with
  | ok u => rfl
  | error e => cases e <;> rfl

theorem afterDecision_absent :
    (fun b => (release.afterDecision b).1 == .release .absent) =
      failsBy StoreError.isNotFound := by
  funext b
  cases b with
  | ok u => rfl
  | error e => cases e <;> rfl

end Verb

/-- How a race of so many acquires ends. -/
structure AcquireRaceEnds (s : Contested) (c : Cluster) (n : Nat) (S : System Contested) :
    Prop where
  calls : S.state.calls = s.calls ++ List.replicate n (.get c.ns c.lockName) ++
    List.replicate (s.createsIn c n) (.create (.forCluster c))
  granted : winners S.calls = s.wonIn c n
  acquired : S.session.journal.total (.acquire .acquired) = s.wonIn c n
  held : S.session.journal.total (.acquire .held) =
    if s.inner.contains c.ns c.lockName then (s.firstFaults .get n).count none else 0
  lostRace : S.session.journal.total (.acquire .lostRace) =
    (s.firstFaults .create (s.createsIn c n)).countP (·.any StoreError.isAlreadyExists) +
      ((s.firstFaults .create (s.createsIn c n)).count none - s.wonIn c n)
  others : S.session.journal.total (.acquire .error) =
    n - (S.session.journal.total (.acquire .acquired) + S.session.journal.total (.acquire .held) +
      S.session.journal.total (.acquire .lostRace))
  counted : S.session.journal.sum Counter.acquireName = n ∧ S.counts.length = n
  contents : S.state.inner =
    if s.wonIn c n = 1 then (s.inner.create (.forCluster c)).2 else s.inner

/-- How a race of so many releases ends. -/
structure ReleaseRaceEnds (s : Contested) (c : Cluster) (n : Nat) (S : System Contested) :
    Prop where
  calls : S.state.calls = s.calls ++ List.replicate n (.get c.ns c.lockName) ++
    List.replicate (s.deletesIn c n) (.delete c.ns c.lockName)
  granted : winners S.calls =
    (if s.inner.contains c.ns c.lockName then 0 else (s.firstFaults .get n).count none) +
      (s.firstFaults .get n).countP (·.any StoreError.isNotFound) +
      (s.firstFaults .delete (s.deletesIn c n)).count none +
      (s.firstFaults .delete (s.deletesIn c n)).countP (·.any StoreError.isNotFound)
  released : S.session.journal.total (.release .released) = s.removedIn c n
  absent : S.session.journal.total (.release .absent) = winners S.calls - s.removedIn c n
  others : S.session.journal.total (.release .error) = n - winners S.calls
  counted : S.session.journal.sum Counter.releaseName = n ∧ S.counts.length = n
  contents : S.state.inner =
    if s.removedIn c n = 1 then (s.inner.delete c.ns c.lockName).2 else s.inner

section

variable {s : Contested} (hs : s.intrusions = []) {c : Cluster} (hc : c.Complete) {n : Nat}
  {before after : List Move}

include hs hc

theorem acquireRaceEnds (h : Race contestedStore s .acquire c n before after) :
    AcquireRaceEnds s c n ((System.fresh ⟨s, {}⟩).run contestedStore (before ++ after)) := by
  obtain ⟨htally, hlength⟩ := h.tally hs (by decide) hc
  rw [s.countP_acquire_deciding] at htally
  have htotal := System.total_eq_phaseCount contestedStore s (before ++ after)
  have hcounted := System.length_counts contestedStore s (before ++ after) (by decide)
    htally.agrees h.ended
  obtain ⟨hsum, hgranted⟩ := System.acquire_totals contestedStore s (before ++ after)
    htally.agrees h.ended rfl
  generalize (System.fresh ⟨s, {}⟩).run contestedStore (before ++ after) = S at *
  have hserved : s.served (Verb.acquire.decisionCall c) (s.createsIn c n) =
    s.inner.serve (.create (.forCluster c)) (s.firstFaults .create (s.createsIn c n)) := rfl
  obtain ⟨hgood, hstate⟩ := (oneShot_create c).serve_good s.inner
    (s.firstFaults .create (s.createsIn c n))
  have hlate := (oneShot_create c).countP_isGood_add (p := StoreError.isAlreadyExists) rfl s.inner
    (s.firstFaults .create (s.createsIn c n))
  rw [← hserved] at hgood hlate hstate
  rw [s.wonIn_eq] at hgood
  have hacquired : S.session.journal.total (.acquire .acquired) = s.wonIn c n := by
    rw [htotal, Counter.outcome, htally.finished, s.countP_acquire_finished c n .acquired (by simp),
      Verb.afterDecision_acquired, hgood]
    simp
  have hheld : S.session.journal.total (.acquire .held) =
      if s.inner.contains c.ns c.lockName then (s.firstFaults .get n).count none else 0 := by
    rw [htotal, Counter.outcome, htally.finished, s.countP_acquire_finished c n .held (by simp),
      Verb.afterDecision_held]
    simp
  have hlostRace : S.session.journal.total (.acquire .lostRace) =
      (s.firstFaults .create (s.createsIn c n)).countP (·.any StoreError.isAlreadyExists) +
        ((s.firstFaults .create (s.createsIn c n)).count none - s.wonIn c n) := by
    have hle := s.wonIn_le c n
    rw [htotal, Counter.outcome, htally.finished, s.countP_acquire_finished c n .lostRace (by simp),
      Verb.afterDecision_lostRace, if_neg (by simp)]
    omega
  have hfour : S.session.journal.sum Counter.acquireName =
      S.session.journal.total (.acquire .acquired) + S.session.journal.total (.acquire .held) +
        S.session.journal.total (.acquire .lostRace) +
        S.session.journal.total (.acquire .error) := by
    simp [Journal.sum, Counter.all, Counter.name, Counter.acquireName, Counter.releaseName]
    omega
  refine ⟨htally.made, hgranted.trans hacquired, hacquired, hheld, hlostRace, by omega,
    ⟨hsum.trans hlength, hcounted.trans hlength⟩, ?_⟩
  rw [htally.contents, hstate, ← s.wonIn_eq]
  by_cases hopen : (!s.inner.contains c.ns c.lockName) = true ∧
    none ∈ s.firstFaults .create (s.createsIn c n)
  · rw [if_pos hopen, if_pos (if_pos hopen)]
    rfl
  · rw [if_neg hopen, if_neg (by rw [if_neg hopen]; decide)]

theorem releaseRaceEnds (h : Race contestedStore s .release c n before after) :
    ReleaseRaceEnds s c n ((System.fresh ⟨s, {}⟩).run contestedStore (before ++ after)) := by
  obtain ⟨htally, hlength⟩ := h.tally hs (by decide) hc
  rw [s.countP_release_deciding] at htally
  have htotal := System.total_eq_phaseCount contestedStore s (before ++ after)
  have hcounted := System.length_counts contestedStore s (before ++ after) (by decide)
    htally.agrees h.ended
  obtain ⟨hsum, hgranted⟩ := System.release_totals contestedStore s (before ++ after)
    htally.agrees h.ended rfl
  generalize (System.fresh ⟨s, {}⟩).run contestedStore (before ++ after) = S at *
  have hserved : s.served (Verb.release.decisionCall c) (s.deletesIn c n) =
    s.inner.serve (.delete c.ns c.lockName) (s.firstFaults .delete (s.deletesIn c n)) := rfl
  obtain ⟨hgood, hstate⟩ := (oneShot_delete c).serve_good s.inner
    (s.firstFaults .delete (s.deletesIn c n))
  have hlate := (oneShot_delete c).countP_isGood_add (p := StoreError.isNotFound) rfl s.inner
    (s.firstFaults .delete (s.deletesIn c n))
  rw [← hserved] at hgood hlate hstate
  rw [s.removedIn_eq] at hgood
  have hreleased : S.session.journal.total (.release .released) = s.removedIn c n := by
    rw [htotal, Counter.outcome, htally.finished, s.countP_release_released,
      Verb.afterDecision_released, hgood, Nat.zero_add]
  have habsent : S.session.journal.total (.release .absent) + s.removedIn c n =
      (if s.inner.contains c.ns c.lockName then 0 else (s.firstFaults .get n).count none) +
        (s.firstFaults .get n).countP (·.any StoreError.isNotFound) +
        (s.firstFaults .delete (s.deletesIn c n)).count none +
        (s.firstFaults .delete (s.deletesIn c n)).countP (·.any StoreError.isNotFound) := by
    rw [htotal, Counter.outcome, htally.finished, s.countP_release_absent,
      Verb.afterDecision_absent]
    omega
  have hthree : S.session.journal.sum Counter.releaseName =
      S.session.journal.total (.release .released) + S.session.journal.total (.release .absent) +
        S.session.journal.total (.release .error) := by
    simp [Journal.sum, Counter.all, Counter.name, Counter.acquireName, Counter.releaseName]
    omega
  refine ⟨htally.made, by omega, hreleased, by omega, by omega,
    ⟨hsum.trans hlength, hcounted.trans hlength⟩, ?_⟩
  rw [htally.contents, hstate, ← s.removedIn_eq]
  by_cases hopen : s.inner.contains c.ns c.lockName = true ∧
    none ∈ s.firstFaults .delete (s.deletesIn c n)
  · rw [if_pos hopen, if_pos (if_pos hopen)]
    rfl
  · rw [if_neg hopen, if_neg (by rw [if_neg hopen]; decide)]

end

/-- **How a race ends**, whatever the schedule: of any number of lockers, on a store in memory with
any records and any faults, in any order before the barrier and after it. -/
theorem race_ends {s : Contested} (hs : s.intrusions = []) {c : Cluster} (hc : c.Complete) (n : Nat)
    (before after : List Move) :
    (Race contestedStore s .acquire c n before after →
      AcquireRaceEnds s c n ((System.fresh ⟨s, {}⟩).run contestedStore (before ++ after))) ∧
    (Race contestedStore s .release c n before after →
      ReleaseRaceEnds s c n ((System.fresh ⟨s, {}⟩).run contestedStore (before ++ after))) := by
  constructor
  · intro h
    exact acquireRaceEnds hs hc h
  · intro h
    exact releaseRaceEnds hs hc h

/-- The race that is run ends so too. -/
theorem race_run_ends {s : Contested} (hs : s.intrusions = []) {c : Cluster} (hc : c.Complete)
    (n : Nat) :
    (let r := race contestedStore .acquire c n ⟨s, {}⟩; AcquireRaceEnds s c n ⟨r.1, r.2⟩) ∧
      let r := race contestedStore .release c n ⟨s, {}⟩; ReleaseRaceEnds s c n ⟨r.1, r.2⟩ := by
  have hrace : ∀ verb, Race contestedStore s verb c n
      (startMoves verb c (List.replicate n ({}, [])) ++ turnMoves (List.range n))
      (turnMoves (List.range n)) := by
    intro verb
    have horder : (List.range n).Perm
        (List.range (List.replicate n (({} : Locker), ([] : Scope))).length) := by
      rw [List.length_replicate]
    have hrace := Race.of_orders contestedStore s verb hc _ horder horder
    rwa [List.length_replicate] at hrace
  dsimp only
  rw [← race_eq_run, ← race_eq_run]
  exact ⟨acquireRaceEnds hs hc (hrace .acquire), releaseRaceEnds hs hc (hrace .release)⟩

/-- Three lockers, one of which is told wrongly that there is no record; the first create fails. -/
def threeFaulty : Contested :=
  { faults := [(.get, none), (.get, some (.notFound "ns1" "abc-123-controlplane")),
      (.create, some (.unavailable "timeout"))] }

/-- The record is there; one probe fails and so does nothing else. -/
def threeHeld (c : Cluster) : Contested :=
  { inner := ((∅ : MemoryStore).create (.forCluster c)).2
    faults := [(.get, none), (.get, some (.unavailable "timeout"))] }

theorem race_ends_three :
    let c : Cluster := ⟨"ns1", "cl1", "abc-123", "cluster.x-k8s.io/v1beta1", "Cluster"⟩
    let ls : List (Locker × Scope) := [({}, []), ({}, []), ({}, [])]
    let S := (System.fresh ⟨threeFaulty, {}⟩).run contestedStore
      (startMoves .acquire c ls ++ turnMoves [2, 0, 1] ++ turnMoves [1, 2, 0])
    let R := (System.fresh ⟨threeHeld c, {}⟩).run contestedStore
      (startMoves .release c ls ++ turnMoves [0, 2, 1] ++ turnMoves [2, 1, 0])
    (winners S.calls = 1 ∧ S.session.journal.total (.acquire .lostRace) = 1 ∧
      S.session.journal.total (.acquire .error) = 1) ∧
    (winners R.calls = 2 ∧ R.session.journal.total (.release .released) = 1 ∧
      R.session.journal.total (.release .error) = 1) := by
  intro c ls S R
  have hc : c.Complete := by decide
  have hacquire : Race contestedStore threeFaulty .acquire c 3
      (startMoves .acquire c ls ++ turnMoves [2, 0, 1]) (turnMoves [1, 2, 0]) :=
    Race.of_orders contestedStore threeFaulty .acquire hc ls (by decide) (by decide)
  have hrelease : Race contestedStore (threeHeld c) .release c 3
      (startMoves .release c ls ++ turnMoves [0, 2, 1]) (turnMoves [2, 1, 0]) :=
    Race.of_orders contestedStore (threeHeld c) .release hc ls (by decide) (by decide)
  have hends : AcquireRaceEnds threeFaulty c 3 S := (race_ends rfl hc 3 _ _).1 hacquire
  have hends' : ReleaseRaceEnds (threeHeld c) c 3 R := (race_ends rfl hc 3 _ _).2 hrelease
  clear_value S R
  have hwon : S.session.journal.total (.acquire .acquired) = 1 :=
    hends.acquired.trans (by decide +kernel)
  have hheld : S.session.journal.total (.acquire .held) = 0 := hends.held.trans (by decide +kernel)
  have hlost : S.session.journal.total (.acquire .lostRace) = 1 :=
    hends.lostRace.trans (by decide +kernel)
  have hgranted : winners R.calls = 2 := hends'.granted.trans (by decide +kernel)
  have hreleased : R.session.journal.total (.release .released) = 1 :=
    hends'.released.trans (by decide +kernel)
  have herror := hends.others
  have herror' := hends'.others
  rw [hwon, hheld, hlost] at herror
  rw [hgranted] at herror'
  exact ⟨⟨hends.granted.trans (hends.acquired.symm.trans hwon), hlost, herror⟩, hgranted, hreleased,
    herror'⟩

end ClusterLock
