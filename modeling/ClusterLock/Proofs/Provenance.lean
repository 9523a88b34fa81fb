import ClusterLock.Proofs.Exclusion
import ClusterLock.Proofs.MemoryTurn

/-
  Where the records of a store in memory come from, if only lockers use it: every one has been
  filed by the create of an acquire that was let in (`complete_of_wonAt`), so that it is the
  record of a complete cluster (`wellFiled_forCluster`). The schedules of `System.run` are the
  histories without other parties (`after_locks`), which makes `won_of_held` and `held_stays` the
  two halves of `wellKept`.
-/
namespace ClusterLock

/-! ## Schedules as histories -/

section

variable {σ κ : Type} (store : RecordStore σ)

/-- The history of a schedule: lockers and nobody else. -/
def locks (ms : List Move) : List (Incident σ) := ms.map .lock

theorem System.after_locks (S : System σ) (ms : List Move) (n : Nat) :
    S.after store (locks ms) n = S.run store (ms.take n) := by
  rw [System.after, locks, ← List.map_take, List.foldl_map]
  rfl

variable {held : σ → Contents κ}

theorem allowed_locks [DecidableEq κ] (ms : List Move) : ∀ e ∈ locks ms, e.Allowed held := by
  intro e he
  obtain ⟨m, -, rfl⟩ := List.mem_map.1 he
  trivial

theorem not_createdByOthersAt_locks (s : Session σ) (ms : List Move) (n : Nat) (k : κ) :
    ¬ CreatedByOthersAt held store s (locks ms) n k := by
  rintro ⟨e, he, ⟨act, rfl⟩, -⟩
  obtain ⟨m, -, hm⟩ := List.mem_map.1 (List.mem_of_getElem? he)
  cases hm

/-- Only acquires of complete clusters win. -/
theorem complete_of_wonAt {s : Session σ} {ms : List Move} {n i : Nat} {c : Cluster}
    (h : WonAt store s (locks ms) n i c) : c.Complete := by
  obtain ⟨e, -, -, ⟨call, hcall, -, rfl, hp⟩, -⟩ := h
  rw [System.after_locks] at hcall
  have hadmitted := (System.admitted_fresh s).run store (ms.take n) i call hcall
  rw [LockCall.Admitted, hp] at hadmitted
  exact hadmitted.2

end

/-! ## Records in order -/

/-- What a record says of itself, of its cluster and of the key that it is filed under. -/
structure WellFiled (k : String) (r : LockRecord) : Prop where
  key_eq : k = r.ns ++ "/" ++ r.name
  ns_ne : r.ns ≠ ""
  /-- The one owner is named in full, names the record, and is the only one. -/
  owner : ∃ o, r.owners = [o] ∧ o.apiVersion ≠ "" ∧ o.kind ≠ "" ∧ o.name ≠ "" ∧ o.uid ≠ "" ∧
    r.name = lockName o.uid ∧ ∀ uid, r.ownedBy uid = true ↔ uid = o.uid

theorem wellFiled_forCluster {c : Cluster} (hc : c.Complete) :
    WellFiled c.key (.forCluster c) := by
  obtain ⟨hns, hname, huid, hapi, hkind⟩ := hc
  refine ⟨rfl, hns, c.owner, rfl, hapi, hkind, hname, huid, rfl, fun uid => ?_⟩
  rw [LockRecord.ownedBy_forCluster, beq_iff_eq]
  exact eq_comm

/-- A store in memory that starts empty and is used by lockers only, after a schedule. -/
def lockedStore (j : Journal) (ms : List Move) : MemoryStore :=
  ((System.fresh ⟨∅, j⟩).run memoryStore ms).state

/-- What is true of the records after a schedule, and of one key all along. -/
structure WellKept (j : Journal) (ms : List Move) : Prop where
  wellFiled : ∀ k r, (lockedStore j ms).lookup k = some r → WellFiled k r
  /-- Some acquire has made the create that filed the record. -/
  won : ∀ k r, (lockedStore j ms).lookup k = some r →
    ∃ n i c, n < ms.length ∧ WonAt memoryStore ⟨∅, j⟩ (locks ms) n i c ∧ c.key = k ∧
      r = .forCluster c
  /-- While there is a record under a key, it stays the same. -/
  stays : ∀ k n n', n ≤ n' →
    (∀ m, n ≤ m → m ≤ n' → (lockedStore j (ms.take m)).lookup k ≠ none) →
      (lockedStore j (ms.take n')).lookup k = (lockedStore j (ms.take n)).lookup k

theorem won_of_lookup {j : Journal} {ms : List Move} {k : String} {r : LockRecord}
    (h : (lockedStore j ms).lookup k = some r) :
    ∃ n i c, n < ms.length ∧ WonAt memoryStore ⟨∅, j⟩ (locks ms) n i c ∧ c.key = k ∧
      r = .forCluster c := by
  rw [lockedStore, ← ms.take_length, ← System.after_locks] at h
  obtain ⟨n, i, c, hn, hk, hw, hr⟩ := won_of_held memoryStore_atomic (allowed_locks ms)
    (MemoryStore.lookup_empty k) (fun n => not_createdByOthersAt_locks memoryStore _ ms n k) h
  exact ⟨n, i, c, hn, hw, hk, hr⟩

theorem lookup_stays {j : Journal} {ms : List Move} {k : String} {n n' : Nat} (hn : n ≤ n')
    (h : ∀ m, n ≤ m → m ≤ n' → (lockedStore j (ms.take m)).lookup k ≠ none) :
    (lockedStore j (ms.take n')).lookup k = (lockedStore j (ms.take n)).lookup k := by
  simp only [lockedStore, ← System.after_locks] at h ⊢
  exact held_stays memoryStore_atomic (allowed_locks ms) hn h

/-- **Records in order**: any number of lockers, any clusters, any schedule and any faults. -/
theorem wellKept (j : Journal) (ms : List Move) : WellKept j ms where
  wellFiled := by
    intro k r h
    obtain ⟨n, i, c, -, hw, rfl, rfl⟩ := won_of_lookup h
    exact wellFiled_forCluster (complete_of_wonAt memoryStore hw)
  won := fun _ _ h => won_of_lookup h
  stays := fun _ _ _ hn h => lookup_stays hn h

/-- Three acquires of one uid pass the probe. The first create is hit by a fault, and the next one
files the record under the name that the cluster has there. -/
theorem wellKept_renamed :
    let c : Cluster := ⟨"ns1", "cl1", "abc-123", "cluster.x-k8s.io/v1beta1", "Cluster"⟩
    let d : Cluster := { c with name := "renamed" }
    let ms : List Move :=
      [.start {} [] .acquire c, .start {} [] .acquire d, .start {} [] .acquire d,
        .turn 0 none, .turn 1 none, .turn 2 none, .turn 1 (some (.unavailable "timeout")),
        .turn 2 none, .turn 0 none]
    (lockedStore {} ms).lookup c.key = some (.forCluster d) ∧
      WellFiled c.key (.forCluster d) := by
  intro c d ms
  have hlookup : (lockedStore {} ms).lookup c.key = some (.forCluster d) := by decide +kernel
  exact ⟨hlookup, (wellKept {} ms).wellFiled _ _ hlookup⟩

end ClusterLock
