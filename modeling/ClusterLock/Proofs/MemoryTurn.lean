import ClusterLock.Proofs.Interleaving
import ClusterLock.Proofs.MemoryContents

/-
  One turn of a lock call on a store in memory, whatever fault the turn meets. `Phase.Leaves` says
  what a call in a phase has made of the store: an acquire that ended as acquired has filed its
  record under a free key, a release that ended as released has removed what was filed, and every
  other call has left the store as it was. `leaves_advance` is the step lemma and `leaves_cases`
  the view of what it says; the statements about other parties and about whole schedules rest on
  these two.
-/
namespace ClusterLock

/-- The key that the cluster's record is filed under. -/
def Cluster.key (c : Cluster) : String := recordKey c.ns c.lockName

@[simp] theorem LockRecord.key_forCluster (c : Cluster) : (forCluster c).key = c.key := rfl

namespace Phase

/-- What a call in this phase has made of the store that its last turn met. -/
def Leaves (c : Cluster) (met left : MemoryStore) : Phase → Prop
  | finished (.acquire .acquired) =>
    met.lookup c.key = none ∧ left = (met.create (.forCluster c)).2
  | finished (.release .released) =>
    (met.lookup c.key).isSome ∧ left = (met.delete c.ns c.lockName).2
  | _ => left = met

variable (c : Cluster) (m : MemoryStore)

theorem leaves_of_not_finished {p : Phase} (h : p.isFinished = false) {met left : MemoryStore} :
    p.Leaves c met left ↔ left = met := by
  cases p with
  | finished o => cases h
  | probing => exact Iff.rfl
  | deciding => exact Iff.rfl

/-- A call has filed a record, has removed one, or has left the store as it was. -/
theorem leaves_cases {c : Cluster} {p : Phase} {met left : MemoryStore} (h : p.Leaves c met left) :
    (p = .finished (.acquire .acquired) ∧ met.lookup c.key = none ∧
        left = (met.create (.forCluster c)).2) ∨
      (p = .finished (.release .released) ∧ (met.lookup c.key).isSome ∧
        left = (met.delete c.ns c.lockName).2) ∨
      (p ≠ .finished (.acquire .acquired) ∧ p ≠ .finished (.release .released) ∧ left = met) := by
  cases p with
  | probing => exact Or.inr (Or.inr ⟨nofun, nofun, h⟩)
  | deciding => exact Or.inr (Or.inr ⟨nofun, nofun, h⟩)
  | finished o =>
    cases o with
    | found b => exact Or.inr (Or.inr ⟨nofun, nofun, h⟩)
    | unreadable e => exact Or.inr (Or.inr ⟨nofun, nofun, h⟩)
    | acquire o =>
      cases o with
      | acquired => exact Or.inl ⟨rfl, h⟩
      | _ => exact Or.inr (Or.inr ⟨nofun, nofun, h⟩)
    | release o =>
      cases o with
      | released => exact Or.inr (Or.inl ⟨rfl, h⟩)
      | _ => exact Or.inr (Or.inr ⟨nofun, nofun, h⟩)

/-- No answer to a probe makes a call acquired or released. -/
theorem leaves_afterProbe (verb : Verb) (a : Except StoreError Unit) :
    (verb.afterProbe a).1.Leaves c m m := by
  cases verb <;> cases a with
  | ok u => rfl
  | error e => cases e <;> rfl

/-- Nor does an error in place of the create or the delete. -/
theorem leaves_afterDecision_error (verb : Verb) (e : StoreError) :
    (finished (verb.afterDecision (.error e)).1).Leaves c m m := by
  cases verb <;> cases e <;> rfl

theorem leaves_create : (finished (Verb.acquire.afterDecision
    (memoryStore.verdict (.create (.forCluster c)) m).1).1).Leaves c m
      (memoryStore.verdict (.create (.forCluster c)) m).2 := by
  rw [MemoryStore.verdict_create]
  by_cases h : (LockRecord.forCluster c).key ∈ m.keys
  · have hleft : (memoryStore.verdict (.create (.forCluster c)) m).2 = m :=
      congrArg Prod.snd (MemoryStore.create_of_isSome (MemoryStore.mem_keys.1 h))
    rw [if_pos h, hleft]
    exact leaves_afterDecision_error c m .acquire _
  · rw [if_neg h]
    exact ⟨MemoryStore.lookup_eq_none_iff.2 h, rfl⟩

theorem leaves_delete : (finished (Verb.release.afterDecision
    (memoryStore.verdict (.delete c.ns c.lockName) m).1).1).Leaves c m
      (memoryStore.verdict (.delete c.ns c.lockName) m).2 := by
  have hdelete : memoryStore.verdict (.delete c.ns c.lockName) m = m.delete c.ns c.lockName := rfl
  cases h : m.delete c.ns c.lockName with
  | mk answer left =>
    rw [hdelete, h]
    cases answer with
    | ok u =>
      refine ⟨?_, (congrArg Prod.snd h).symm⟩
      have hfst := congrArg Prod.fst h
      rw [MemoryStore.delete_fst] at hfst
      by_contra hnone
      rw [Cluster.key] at hnone
      rw [if_neg hnone] at hfst
      cases hfst
    | error e =>
      rw [MemoryStore.delete_error h]
      exact leaves_afterDecision_error c m .release e

/-- **One turn**: a call under way that ends as acquired or as released has made its change, and
every other turn leaves the store as it was. -/
theorem leaves_advance (verb : Verb) {p : Phase} (hf : p.isFinished = false)
    (fault : Option StoreError) :
    (p.advance (memoryStore.failing fault) verb c m).1.Leaves c m
      (p.advance (memoryStore.failing fault) verb c m).2 := by
  cases fault with
  | some e =>
    cases p with
    | finished o => cases hf
    | probing =>
      simp only [advance, RecordStore.verdict_failing_some]
      exact leaves_afterProbe c m verb _
    | deciding =>
      simp only [advance, RecordStore.verdict_failing_some]
      exact leaves_afterDecision_error c m verb e
  | none =>
    rw [RecordStore.failing_none]
    cases p with
    | finished o => cases hf
    | probing =>
      simp only [advance, Verb.probeCall, MemoryStore.verdict_get]
      exact leaves_afterProbe c m verb _
    | deciding =>
      cases verb with
      | acquire => exact leaves_create c m
      | release => exact leaves_delete c m
      | probe =>
        simp only [advance, Verb.decisionCall, MemoryStore.verdict_get]
        split <;> rfl

/-- A call that is refused at its beginning has made no change. -/
theorem leaves_start (verb : Verb) : (verb.start c).1.Leaves c m m := by
  rw [Verb.start_fst]
  split
  · rfl
  · cases verb <;> rfl

/-- A release that is granted leaves nothing under the key, unless a fault says that there was
nothing. -/
theorem lookup_of_granted {p : Phase} (hf : p.isFinished = false) {fault : Option StoreError}
    (hn : ∀ e ∈ fault, e.isNotFound = false) {o : Outcome}
    (ho : (p.advance (memoryStore.failing fault) .release c m).1 = .finished o)
    (hg : o.granted = true) :
    (p.advance (memoryStore.failing fault) .release c m).2.lookup c.key = none := by
  have hcases := Verb.release_of_granted _ c m hf ho hg
  cases fault with
  | some e =>
    exfalso
    have hfound : ∀ ns name, e ≠ .notFound ns name := by
      rintro ns name rfl
      cases hn _ rfl
    simp only [RecordStore.verdict_failing_some, Except.error.injEq] at hcases
    rcases hcases with ⟨-, ns, name, h⟩ | ⟨-, h | ⟨ns, name, h⟩⟩
    · exact hfound ns name h
    · cases h
    · exact hfound ns name h
  | none =>
    rw [RecordStore.failing_none] at hcases ⊢
    rcases hcases with ⟨rfl, ns, name, h⟩ | ⟨rfl, -⟩
    · simp only [advance, Verb.probeCall, MemoryStore.verdict_get] at h ⊢
      rw [MemoryStore.lookup_eq_none_iff]
      intro hk
      rw [Cluster.key] at hk
      rw [if_pos hk] at h
      cases h
    · have hleft : (deciding.advance memoryStore .release c m).2 =
          (m.delete c.ns c.lockName).2 := rfl
      rw [hleft, MemoryStore.lookup_delete]
      exact Function.update_self ..

end Phase

/-! ## What is filed afterwards -/

namespace MemoryStore

variable {c : Cluster} {m left : MemoryStore}

theorem lookup_of_acquired (h : (Phase.finished (.acquire .acquired)).Leaves c m left) :
    left.lookup = Function.update m.lookup c.key (some (.forCluster c)) := by
  obtain ⟨hnone, rfl⟩ := h
  exact lookup_create_of_none hnone

theorem lookup_of_released (h : (Phase.finished (.release .released)).Leaves c m left) :
    left.lookup = Function.update m.lookup c.key none := by
  obtain ⟨-, rfl⟩ := h
  exact lookup_delete c.ns c.lockName m

end MemoryStore

end ClusterLock
