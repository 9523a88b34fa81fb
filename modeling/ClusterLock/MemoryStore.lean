import ClusterLock.RecordStore

/-
  The store in memory. A record is filed under its namespace and name joined by a slash, and at
  most one record is filed under each key. `lookup_insert` and `lookup_erase` say what the two
  changes do to every key.
-/
namespace ClusterLock

/-- A table without the entries of one key. -/
theorem lookup_filter_ne {κ α : Type} [BEq κ] [LawfulBEq κ] [DecidableEq κ]
    (l : List (κ × α)) (key k : κ) :
    (l.filter (·.1 != key)).lookup k = if k = key then none else l.lookup k := by
  induction l with
  | nil => simp
  | cons e l ih =>
    obtain ⟨a, r⟩ := e
    by_cases ha : a = key
    · have hf : ((a, r) :: l).filter (·.1 != key) = l.filter (·.1 != key) := by simp [ha]
      rw [hf, ih]
      by_cases hk : k = key
      · simp [hk]
      · have hb : (k == a) = false := by rw [ha]; simpa using hk
        simp [hk, List.lookup_cons, hb]
    · have hf : ((a, r) :: l).filter (·.1 != key) = (a, r) :: l.filter (·.1 != key) := by simp [ha]
      rw [hf, List.lookup_cons, ih, List.lookup_cons]
      by_cases hk : k = key
      · have hb : (key == a) = false := by simpa using Ne.symm ha
        simp [hk, hb]
      · simp [hk]

/-- The key a record is filed under. -/
def recordKey (ns name : String) : String := ns ++ "/" ++ name

def LockRecord.key (r : LockRecord) : String := recordKey r.ns r.name

/-- Records by key, no key twice. -/
structure MemoryStore where
  entries : List (String × LockRecord)
  nodup : (entries.map (·.1)).Nodup

namespace MemoryStore

instance : EmptyCollection MemoryStore := ⟨⟨[], List.nodup_nil⟩⟩

instance : Inhabited MemoryStore := ⟨∅⟩

/-- The record filed under a key. -/
def lookup (m : MemoryStore) (key : String) : Option LockRecord := m.entries.lookup key

/-- The number of records. -/
def size (m : MemoryStore) : Nat := m.entries.length

def isEmpty (m : MemoryStore) : Bool := m.entries.isEmpty

def contains (m : MemoryStore) (ns name : String) : Bool := (m.lookup (recordKey ns name)).isSome

theorem not_mem_keys_of_lookup_eq_none {l : List (String × LockRecord)} {key : String}
    (h : l.lookup key = none) : key ∉ l.map (·.1) := by
  induction l with
  | nil => simp
  | cons e l ih =>
    obtain ⟨k, r⟩ := e
    simp only [List.lookup_cons] at h
    split at h
    · simp at h
    · rename_i hk
      simp only [List.map_cons, List.mem_cons, not_or]
      exact ⟨by simpa using hk, ih h⟩

/-- Files a record under a key that is free. -/
def insertNew (m : MemoryStore) (key : String) (r : LockRecord) (h : m.lookup key = none) :
    MemoryStore where
  entries := (key, r) :: m.entries
  nodup := by
    rw [List.map_cons, List.nodup_cons]
    exact ⟨not_mem_keys_of_lookup_eq_none h, m.nodup⟩

/-- Removes what is filed under a key. -/
def erase (m : MemoryStore) (key : String) : MemoryStore where
  entries := m.entries.filter (·.1 != key)
  nodup := (List.Sublist.map _ List.filter_sublist).nodup m.nodup

theorem lookup_insertNew (m : MemoryStore) (key : String) (r : LockRecord)
    (h : m.lookup key = none) (k : String) :
    (m.insertNew key r h).lookup k = if k = key then some r else m.lookup k := by
  by_cases hk : k = key
  · simp [lookup, insertNew, hk]
  · have hb : (k == key) = false := by simpa using hk
    simp [lookup, insertNew, List.lookup_cons, hk, hb]

theorem lookup_erase (m : MemoryStore) (key k : String) :
    (m.erase key).lookup k = if k = key then none else m.lookup k :=
  lookup_filter_ne m.entries key k

@[simp] theorem lookup_empty (key : String) : (∅ : MemoryStore).lookup key = none := rfl

def get (ns name : String) (m : MemoryStore) : Except StoreError LockRecord × MemoryStore :=
  match m.lookup (recordKey ns name) with
  | some r => (.ok r, m)
  | none => (.error (.notFound ns name), m)

def create (r : LockRecord) (m : MemoryStore) : Except StoreError LockRecord × MemoryStore :=
  match h : m.lookup r.key with
  | some _ => (.error (.alreadyExists r.ns r.name), m)
  | none => (.ok r, m.insertNew r.key r h)

def delete (ns name : String) (m : MemoryStore) : Except StoreError Unit × MemoryStore :=
  match m.lookup (recordKey ns name) with
  | some _ => (.ok (), m.erase (recordKey ns name))
  | none => (.error (.notFound ns name), m)

end MemoryStore

/-- The store in memory says nothing about its calls. -/
def memoryStore : RecordStore MemoryStore where
  get := MemoryStore.get
  create := MemoryStore.create
  delete := MemoryStore.delete

end ClusterLock
