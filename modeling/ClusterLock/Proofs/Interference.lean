import ClusterLock.Race
import ClusterLock.Proofs.MemoryTurn

/-
  A lock call on a store that others use too and that can fail. An `Intruder` stands before the
  store in memory: ahead of each store call it lets other parties create and delete, and then it
  may answer the call by any error without making it. What has been done and which faults were met
  is logged beside the store, for statements only. `Exact` is the invariant of a call: the
  store is what other parties have made of it, changed by the call just as its phase says.
  `exact_advance` keeps it in a turn, and `exact_effect` reads off what a whole acquire or release
  leaves. The queues of a contested store are one intruder (`contested_verdict`).
-/
namespace ClusterLock

/-! ## Other parties and faults -/

/-- What comes before a store call: the acts of other parties, and the error that takes the
call's place, if any. Decisions may rest on the call, the store and a state of their own. -/
structure Intruder (τ : Type) where
  acts : StoreCall → MemoryStore → τ → List Intrusion
  fault : StoreCall → MemoryStore → τ → Option StoreError
  next : StoreCall → MemoryStore → τ → τ

/-- The store in memory behind an intruder. -/
structure Intruded (τ : Type) where
  inner : MemoryStore
  mind : τ
  /-- What other parties have done so far. -/
  deeds : List Intrusion := []
  /-- The faults that were met so far. -/
  faults : List StoreError := []

/-- The store that other parties alone make of this one. -/
def MemoryStore.applyAll (m : MemoryStore) (deeds : List Intrusion) : MemoryStore :=
  deeds.foldl Intrusion.apply m

theorem MemoryStore.applyAll_append (m : MemoryStore) (ds es : List Intrusion) :
    m.applyAll (ds ++ es) = (m.applyAll ds).applyAll es := List.foldl_append

variable {τ : Type}

namespace Intruder

variable (w : Intruder τ)

/-- What happens before a call. -/
def meet (q : StoreCall) (s : Intruded τ) : Option StoreError × Intruded τ :=
  let acts := w.acts q s.inner s.mind
  let fault := w.fault q s.inner s.mind
  (fault,
    { inner := s.inner.applyAll acts
      mind := w.next q s.inner s.mind
      deeds := s.deeds ++ acts
      faults := s.faults ++ fault.toList })

/-- A call that goes through unless a fault takes its place. -/
def attempt {α : Type} (q : StoreCall) (act : MemoryStore → Except StoreError α × MemoryStore)
    (s : Intruded τ) : Except StoreError α × Intruded τ :=
  match w.meet q s with
  | (some e, s) => (.error e, s)
  | (none, s) => let (answer, inner) := act s.inner; (answer, { s with inner })

def store : RecordStore (Intruded τ) where
  get ns name := w.attempt (.get ns name) (MemoryStore.get ns name)
  create r := w.attempt (.create r) (MemoryStore.create r)
  delete ns name := w.attempt (.delete ns name) (MemoryStore.delete ns name)

theorem inner_meet (q : StoreCall) {s : Intruded τ} {m : MemoryStore}
    (h : s.inner = m.applyAll s.deeds) :
    (w.meet q s).2.inner = m.applyAll (w.meet q s).2.deeds := by
  simp only [meet]
  rw [h, MemoryStore.applyAll_append]

/-- A call meets the intruder and then the store in memory with the fault in the way. -/
theorem verdict_eq (q : StoreCall) (s : Intruded τ) :
    w.store.verdict q s =
      (((memoryStore.failing (w.meet q s).1).verdict q (w.meet q s).2.inner).1,
        { (w.meet q s).2 with
          inner := ((memoryStore.failing (w.meet q s).1).verdict q (w.meet q s).2.inner).2 }) := by
  cases h : w.meet q s with
  | mk fault met =>
    cases fault with
    | none => cases q <;> simp only [RecordStore.verdict, store, attempt, h] <;> rfl
    | some e => cases q <;> simp only [RecordStore.verdict, store, attempt, h] <;> rfl

/-- A turn of a call under way does the same. -/
theorem advance_eq (verb : Verb) (c : Cluster) {p : Phase} (hf : p.isFinished = false)
    (s : Intruded τ) :
    ∃ q, p.advance w.store verb c s =
      ((p.advance (memoryStore.failing (w.meet q s).1) verb c (w.meet q s).2.inner).1,
        { (w.meet q s).2 with
          inner := (p.advance (memoryStore.failing (w.meet q s).1) verb c
            (w.meet q s).2.inner).2 }) := by
  cases p with
  | finished o => cases hf
  | probing => exact ⟨Verb.probeCall c, by simp only [Phase.advance, verdict_eq]⟩
  | deciding => exact ⟨verb.decisionCall c, by simp only [Phase.advance, verdict_eq]⟩

/-! ## What a call leaves -/

/-- The store is what other parties have made of `m`, changed by the call as its phase says. -/
def Exact (c : Cluster) (m : MemoryStore) (p : Phase) (s : Intruded τ) : Prop :=
  p.Leaves c (m.applyAll s.deeds) s.inner

theorem exact_advance (verb : Verb) {c : Cluster} {m : MemoryStore} {p : Phase} {s : Intruded τ}
    (h : Exact c m p s) :
    Exact c m (p.advance w.store verb c s).1 (p.advance w.store verb c s).2 := by
  cases hf : p.isFinished with
  | true =>
    rw [Phase.advance_finished _ _ _ hf]
    exact h
  | false =>
    obtain ⟨q, hq⟩ := w.advance_eq verb c hf s
    have hmet := w.inner_meet q ((Phase.leaves_of_not_finished c hf).1 h)
    rw [hq, Exact, ← hmet]
    exact Phase.leaves_advance c _ verb hf _

/-- If every fault so far is honest about absence, a release that has been granted leaves nothing
under its key. -/
def Vacant (c : Cluster) (p : Phase) (s : Intruded τ) : Prop :=
  (∀ e ∈ s.faults, e.isNotFound = false) → ∀ o, p = .finished o → o.granted = true →
    s.inner.lookup c.key = none

theorem vacant_advance {c : Cluster} {p : Phase} {s : Intruded τ} (h : Vacant c p s) :
    Vacant c (p.advance w.store .release c s).1 (p.advance w.store .release c s).2 := by
  cases hf : p.isFinished with
  | true =>
    rw [Phase.advance_finished _ _ _ hf]
    exact h
  | false =>
    obtain ⟨q, hq⟩ := w.advance_eq .release c hf s
    rw [hq]
    intro hfaults o ho hg
    refine Phase.lookup_of_granted c _ hf (fun e he => hfaults e ?_) ho hg
    exact List.mem_append_right _ (Option.mem_toList.2 he)

end Intruder

/-- What an acquire leaves of a store that held `m` before. -/
structure AcquireEffect (c : Cluster) (m : MemoryStore) (granted : Bool) (s : Intruded τ) :
    Prop where
  /-- The contents are what other parties alone have made of them, and the cluster's record if
  and only if the answer is yes. -/
  contents : s.inner.lookup =
    if granted then Function.update (m.applyAll s.deeds).lookup c.key (some (.forCluster c))
    else (m.applyAll s.deeds).lookup
  /-- The record takes no other record's place. -/
  free : granted = true → (m.applyAll s.deeds).lookup c.key = none

/-- What a release leaves of a store that held `m` before. -/
structure ReleaseEffect (c : Cluster) (m : MemoryStore) (granted : Bool) (released : Prop)
    [Decidable released] (s : Intruded τ) : Prop where
  /-- The contents are what other parties alone have made of them, less the cluster's key if and
  only if the release counts as released. -/
  contents : s.inner.lookup =
    if released then Function.update (m.applyAll s.deeds).lookup c.key none
    else (m.applyAll s.deeds).lookup
  /-- A release that counts as released has removed a record and answers yes. -/
  held : released → ((m.applyAll s.deeds).lookup c.key).isSome ∧ granted = true
  /-- If no fault said that there was no record, there is none after a yes. -/
  vacant : (∀ e ∈ s.faults, e.isNotFound = false) → granted = true → s.inner.lookup c.key = none

namespace Intruder

variable {c : Cluster} {m : MemoryStore} {o : Outcome} {s : Intruded τ}

theorem Exact.acquireEffect (h : Exact c m (.finished o) s) (hv : o.verb = .acquire) :
    AcquireEffect c m o.granted s := by
  cases o with
  | release o => cases hv
  | found b => cases hv
  | unreadable e => cases hv
  | acquire o =>
    cases o with
    | acquired => exact ⟨MemoryStore.lookup_of_acquired h, fun _ => h.1⟩
    | _ => exact ⟨congrArg MemoryStore.lookup h, fun hg => by cases hg⟩

theorem Exact.releaseEffect (h : Exact c m (.finished o) s) (hv : o.verb = .release)
    (hvacant : Vacant c (.finished o) s) {released : Prop} [Decidable released]
    (hr : released ↔ o = .release .released) :
    ReleaseEffect c m o.granted released s := by
  have hend : (∀ e ∈ s.faults, e.isNotFound = false) → o.granted = true →
      s.inner.lookup c.key = none := fun hfaults hg => hvacant hfaults o rfl hg
  by_cases hyes : released
  · cases hr.1 hyes
    refine ⟨?_, fun _ => ⟨h.1, rfl⟩, hend⟩
    rw [if_pos hyes]
    exact MemoryStore.lookup_of_released h
  · refine ⟨?_, fun hyes' => absurd hyes' hyes, hend⟩
    rw [if_neg hyes]
    rcases Phase.leaves_cases h with ⟨hp, -⟩ | ⟨hp, -⟩ | ⟨-, -, hsame⟩
    · cases hp
      cases hv
    · cases hp
      exact absurd (hr.2 rfl) hyes
    · exact congrArg MemoryStore.lookup hsame

end Intruder

/-! ## Whole calls -/

/-- The counter was raised between the two journals. -/
def Journal.Raised (j j' : Journal) (k : Counter) : Prop := j.total k < j'.total k

instance (j j' : Journal) (k : Counter) : Decidable (j.Raised j' k) :=
  inferInstanceAs (Decidable (_ < _))

theorem Journal.raised_iff {j j' : Journal} {ks : List Counter} (h : j'.counts = j.counts ++ ks)
    (k : Counter) : j.Raised j' k ↔ k ∈ ks := by
  rw [Raised, total, total, h, List.count_append, ← List.count_pos_iff]
  omega

theorem Outcome.released_mem_counters (o : Outcome) :
    Counter.release .released ∈ (Phase.finished o).counters ↔ o = .release .released := by
  cases o with
  | acquire o => simp [Phase.counters, Outcome.counter?]
  | release o => simp [Phase.counters, Outcome.counter?, eq_comm]
  | found b => simp [Phase.counters, Outcome.counter?]
  | unreadable e => simp [Phase.counters, Outcome.counter?]

section Call

variable (w : Intruder τ) (l : Locker) (c : Cluster) (m : MemoryStore) (t : τ) (j : Journal)

theorem exact_run (verb : Verb) :
    Intruder.Exact c m (l.run w.store verb c ⟨{ inner := m, mind := t }, j⟩).1.phase
      (l.run w.store verb c ⟨{ inner := m, mind := t }, j⟩).2.state :=
  l.run_invariant w.store verb c (fun _ _ h => w.exact_advance verb h)
    (Phase.leaves_start c m verb)

theorem vacant_run :
    Intruder.Vacant c (l.run w.store .release c ⟨{ inner := m, mind := t }, j⟩).1.phase
      (l.run w.store .release c ⟨{ inner := m, mind := t }, j⟩).2.state := by
  refine l.run_invariant w.store .release c (fun _ _ h => w.vacant_advance h) ?_
  -- a call that is over at its beginning has been refused
  intro _ o ho hg
  rw [Verb.start_fst] at ho
  split at ho
  · cases ho
  · cases ho
    cases hg

/-- **The exact effect of a call** under faults and interference, whatever the store held. -/
theorem exact_effect :
    let s : Session (Intruded τ) := ⟨{ inner := m, mind := t }, j⟩
    AcquireEffect c m (l.acquire w.store c s).1 (l.acquire w.store c s).2.state ∧
      ReleaseEffect c m (l.release w.store c s).1
        (j.Raised (l.release w.store c s).2.journal (.release .released))
        (l.release w.store c s).2.state := by
  intro s
  constructor
  · have hx := exact_run w l c m t j .acquire
    obtain ⟨o, hp, hv⟩ := l.run_outcome w.store .acquire c s
    have hg : (l.acquire w.store c s).1 = o.granted := by
      simp only [Locker.acquire, LockCall.granted, hp]
    rw [hg]
    rw [hp] at hx
    exact hx.acquireEffect hv
  · have hx := exact_run w l c m t j .release
    have hvacant := vacant_run w l c m t j
    obtain ⟨o, hp, hv⟩ := l.run_outcome w.store .release c s
    have hg : (l.release w.store c s).1 = o.granted := by
      simp only [Locker.release, LockCall.granted, hp]
    have hcounts := l.run_counts w.store .release c s
    rw [hp] at hx hvacant hcounts
    rw [hg]
    exact hx.releaseEffect hv hvacant
      ((Journal.raised_iff hcounts _).trans o.released_mem_counters)

end Call

/-! ## Contested stores -/

/-- The queues of a contested store, as an intruder. -/
def queued : Intruder Contested where
  acts q _ t := (takeFor q.kind t.intrusions).1.toList
  fault q _ t := (takeFor q.kind t.faults).1.join
  next q _ t :=
    { t with
      intrusions := (takeFor q.kind t.intrusions).2
      faults := (takeFor q.kind t.faults).2
      calls := t.calls ++ [q] }

/-- The contested store that a store behind its queues is. -/
def Intruded.contested (s : Intruded Contested) : Contested := { s.mind with inner := s.inner }

theorem contested_meet (q : StoreCall) (s : Intruded Contested) :
    s.contested.meet q = ((queued.meet q s).1, (queued.meet q s).2.contested) := by
  cases h : (takeFor q.kind s.mind.intrusions).1 with
  | none =>
    simp only [Contested.meet, Intruded.contested, Intruder.meet, queued, h]
    rfl
  | some i =>
    simp only [Contested.meet, Intruded.contested, Intruder.meet, queued, h]
    rfl

theorem contested_verdict (q : StoreCall) (s : Intruded Contested) :
    contestedStore.verdict q s.contested =
      ((queued.store.verdict q s).1, (queued.store.verdict q s).2.contested) := by
  have hmeet := contested_meet q s
  cases h : queued.meet q s with
  | mk fault met =>
    rw [h] at hmeet
    cases fault with
    | none =>
      cases q <;> simp only [RecordStore.verdict, contestedStore, Contested.attempt, hmeet,
        Intruder.store, Intruder.attempt, h] <;> rfl
    | some e =>
      cases q <;> simp only [RecordStore.verdict, contestedStore, Contested.attempt, hmeet,
        Intruder.store, Intruder.attempt, h]

/-- A lock call on a contested store is one on a store behind the queues, so that its effect is
exact as well. -/
theorem contested_run (l : Locker) (verb : Verb) (c : Cluster) (s : Intruded Contested)
    (j : Journal) :
    (l.run contestedStore verb c ⟨s.contested, j⟩).1.phase =
        (l.run queued.store verb c ⟨s, j⟩).1.phase ∧
      (l.run contestedStore verb c ⟨s.contested, j⟩).2.state =
        (l.run queued.store verb c ⟨s, j⟩).2.state.contested :=
  l.run_map (f := Intruded.contested) contested_verdict verb c s j j

/-- Another party comes between the probe and the create of an acquire, which is told no, and
between the probe and the delete of a release, which is told yes. -/
theorem exact_effect_overtaken :
    let c : Cluster := ⟨"ns1", "cl1", "abc-123", "cluster.x-k8s.io/v1beta1", "Cluster"⟩
    let rival : LockRecord := ⟨c.ns, c.lockName, []⟩
    let acquire := ({} : Locker).acquire queued.store c
      ⟨{ inner := ∅, mind := { intrusions := [(.create, .create rival)] } }, {}⟩
    let release := ({} : Locker).release queued.store c
      ⟨{ inner := ((∅ : MemoryStore).create rival).2,
         mind := { intrusions := [(.delete, .delete c.ns c.lockName)] } }, {}⟩
    (acquire.1 = false ∧ acquire.2.state.inner.lookup c.key = some rival) ∧
      (∀ e ∈ release.2.state.faults, e.isNotFound = false) ∧ release.1 = true ∧
        release.2.state.inner.lookup c.key = none := by
  intro c rival acquire release
  have hacquire := (exact_effect queued {} c ∅
    { intrusions := [(.create, .create rival)] } {}).1
  have hrelease := (exact_effect queued {} c ((∅ : MemoryStore).create rival).2
    { intrusions := [(.delete, .delete c.ns c.lockName)] } {}).2
  have hno : acquire.1 = false := by decide +kernel
  have hyes : release.1 = true := by decide +kernel
  have hfaults : ∀ e ∈ release.2.state.faults, e.isNotFound = false := by decide +kernel
  refine ⟨⟨hno, ?_⟩, hfaults, hyes, hrelease.vacant hfaults hyes⟩
  have hcontents := hacquire.contents
  rw [if_neg (by rw [hno]; decide)] at hcontents
  rw [hcontents]
  decide +kernel

end ClusterLock
