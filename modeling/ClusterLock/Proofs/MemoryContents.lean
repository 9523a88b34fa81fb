import Mathlib.Data.Finset.Basic
import Mathlib.Logic.Function.Basic
import ClusterLock.MemoryStore
import ClusterLock.RecordStore

/-
  What the calls of the store in memory do to its contents, said without a case split on what is
  filed: as a function from keys to records (`lookup`) and as the set of keys (`keys`).
  `verdict_get`, `verdict_create` and `verdict_delete` say how a lock call sees the store.
-/
namespace ClusterLock.MemoryStore

/-! ## Records by key -/

theorem get_fst (ns name : String) (m : MemoryStore) :
    (m.get ns name).1 = (m.lookup (recordKey ns name)).elim (.error (.notFound ns name)) .ok := by
  unfold get
  split <;> rename_i h <;> rw [h] <;> rfl

theorem get_snd (ns name : String) (m : MemoryStore) : (m.get ns name).2 = m := by
  unfold get
  split <;> rfl

theorem create_fst (r : LockRecord) (m : MemoryStore) :
    (m.create r).1 =
      if (m.lookup r.key).isSome then .error (.alreadyExists r.ns r.name) else .ok r := by
  unfold create
  split <;> rename_i h <;> simp [h]

theorem lookup_create_of_none {r : LockRecord} {m : MemoryStore} (h : m.lookup r.key = none) :
    (m.create r).2.lookup = Function.update m.lookup r.key (some r) := by
  unfold create
  split
  · rename_i h'
    rw [h] at h'
    cases h'
  · funext k
    rw [lookup_insertNew, Function.update_apply]

theorem create_ok {r a : LockRecord} {m m' : MemoryStore} (h : m.create r = (.ok a, m')) :
    m.lookup r.key = none ∧ a = r ∧ m' = (m.create r).2 := by
  refine ⟨?_, ?_, (congrArg Prod.snd h).symm⟩
  · have h1 := congrArg Prod.fst h
    rw [create_fst] at h1
    split at h1
    · cases h1
    · rename_i hn
      rwa [Bool.not_eq_true, Option.isSome_eq_false_iff, Option.isNone_iff_eq_none] at hn
  · have h1 := congrArg Prod.fst h
    rw [create_fst] at h1
    split at h1
    · cases h1
    · cases h1
      rfl

theorem create_of_isSome {r : LockRecord} {m : MemoryStore} (h : (m.lookup r.key).isSome) :
    m.create r = (.error (.alreadyExists r.ns r.name), m) := by
  unfold create
  split
  · rfl
  · rename_i h'
    rw [h'] at h
    cases h

theorem create_error {r : LockRecord} {e : StoreError} {m m' : MemoryStore}
    (h : m.create r = (.error e, m')) : m' = m := by
  unfold create at h
  split at h
  · cases h
    rfl
  · cases h

theorem delete_fst (ns name : String) (m : MemoryStore) :
    (m.delete ns name).1 =
      if (m.lookup (recordKey ns name)).isSome then .ok () else .error (.notFound ns name) := by
  unfold delete
  split <;> rename_i h <;> rw [h] <;> rfl

/-- After a delete nothing is filed under the key, whether or not something was. -/
theorem lookup_delete (ns name : String) (m : MemoryStore) :
    (m.delete ns name).2.lookup = Function.update m.lookup (recordKey ns name) none := by
  unfold delete
  split
  · funext k
    rw [lookup_erase, Function.update_apply]
  · rename_i h
    rw [← h, Function.update_eq_self]

theorem delete_error {ns name : String} {e : StoreError} {m m' : MemoryStore}
    (h : m.delete ns name = (.error e, m')) : m' = m := by
  unfold delete at h
  split at h
  · cases h
  · cases h
    rfl

/-! ## The set of keys -/

/-- The keys under which something is filed. -/
def keys (m : MemoryStore) : Finset String := (m.entries.map (·.1)).toFinset

theorem mem_keys {m : MemoryStore} {k : String} : k ∈ m.keys ↔ (m.lookup k).isSome := by
  rw [keys, List.mem_toFinset, List.mem_map, lookup, List.lookup_isSome_iff]
  constructor
  · rintro ⟨e, he, rfl⟩
    exact ⟨e, he, beq_self_eq_true _⟩
  · rintro ⟨e, he, hk⟩
    exact ⟨e, he, (eq_of_beq hk).symm⟩

theorem lookup_eq_none_iff {m : MemoryStore} {k : String} : m.lookup k = none ↔ k ∉ m.keys := by
  rw [mem_keys, Bool.not_eq_true, Option.isSome_eq_false_iff, Option.isNone_iff_eq_none]

theorem keys_create (r : LockRecord) (m : MemoryStore) :
    (m.create r).2.keys = insert r.key m.keys := by
  by_cases h : r.key ∈ m.keys
  · rw [create_of_isSome (mem_keys.1 h), Finset.insert_eq_of_mem h]
  · ext k
    rw [Finset.mem_insert, mem_keys, mem_keys, lookup_create_of_none (lookup_eq_none_iff.2 h),
      Function.update_apply]
    by_cases hk : k = r.key
    · simp [hk]
    · simp [hk]

theorem keys_delete (ns name : String) (m : MemoryStore) :
    (m.delete ns name).2.keys = m.keys.erase (recordKey ns name) := by
  ext k
  rw [Finset.mem_erase, mem_keys, mem_keys, lookup_delete, Function.update_apply]
  by_cases hk : k = recordKey ns name
  · simp [hk]
  · simp [hk]

/-! ## What a lock call sees -/

theorem verdict_get (ns name : String) (m : MemoryStore) :
    memoryStore.verdict (.get ns name) m =
      (if recordKey ns name ∈ m.keys then .ok () else .error (.notFound ns name), m) := by
  have h1 : memoryStore.verdict (.get ns name) m = (forget (m.get ns name).1, (m.get ns name).2) :=
    rfl
  rw [h1, get_fst, get_snd]
  by_cases h : recordKey ns name ∈ m.keys
  · obtain ⟨r, hr⟩ := Option.isSome_iff_exists.1 (mem_keys.1 h)
    rw [if_pos h, hr]
    rfl
  · rw [if_neg h, lookup_eq_none_iff.2 h]
    rfl

theorem verdict_create (r : LockRecord) (m : MemoryStore) :
    (memoryStore.verdict (.create r) m).1 =
      if r.key ∈ m.keys then .error (.alreadyExists r.ns r.name) else .ok () := by
  have h1 : (memoryStore.verdict (.create r) m).1 = forget (m.create r).1 := rfl
  rw [h1, create_fst]
  by_cases h : r.key ∈ m.keys
  · rw [if_pos h, if_pos (mem_keys.1 h)]
    rfl
  · rw [if_neg h, if_neg (fun h' => h (mem_keys.2 h'))]
    rfl

theorem keys_verdict_create (r : LockRecord) (m : MemoryStore) :
    (memoryStore.verdict (.create r) m).2.keys = insert r.key m.keys :=
  keys_create r m

theorem verdict_delete (ns name : String) (m : MemoryStore) :
    (memoryStore.verdict (.delete ns name) m).1 =
      if recordKey ns name ∈ m.keys then .ok () else .error (.notFound ns name) := by
  have h1 : (memoryStore.verdict (.delete ns name) m).1 = (m.delete ns name).1 := rfl
  rw [h1, delete_fst]
  by_cases h : recordKey ns name ∈ m.keys
  · rw [if_pos h, if_pos (mem_keys.1 h)]
  · rw [if_neg h, if_neg (fun h' => h (mem_keys.2 h'))]

theorem keys_verdict_delete (ns name : String) (m : MemoryStore) :
    (memoryStore.verdict (.delete ns name) m).2.keys = m.keys.erase (recordKey ns name) :=
  keys_delete ns name m

end ClusterLock.MemoryStore
