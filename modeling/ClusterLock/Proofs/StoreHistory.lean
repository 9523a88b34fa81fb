import Mathlib.Data.Finset.Card
import ClusterLock.Proofs.MemoryContents

/-
  The store in memory against its history. A `Chronicle` is a store with all that it has been asked
  and has answered since it was empty. `ask_cases` says what a question can do to the store: it
  files a record under a free key, it frees a key under which something was filed, or it changes
  nothing. Hence the history tells what is filed under each key (`lookup_of`) and how much that is
  (`size_of`). `history_law` reads every answer of the store off its history.
-/
namespace ClusterLock.MemoryStore

/-- What a store in memory can be asked. -/
inductive Question
  | get (ns name : String)
  | create (record : LockRecord)
  | delete (ns name : String)
  | contains (ns name : String)
  | size
  | isEmpty

inductive Answer
  | record (answer : Except StoreError LockRecord)
  | removal (answer : Except StoreError Unit)
  | truth (b : Bool)
  | number (n : Nat)

/-- The answer to a question, and the store afterwards. -/
def ask (m : MemoryStore) : Question → Answer × MemoryStore
  | .get ns name => (.record (m.get ns name).1, (m.get ns name).2)
  | .create r => (.record (m.create r).1, (m.create r).2)
  | .delete ns name => (.removal (m.delete ns name).1, (m.delete ns name).2)
  | .contains ns name => (.truth (m.contains ns name), m)
  | .size => (.number m.size, m)
  | .isEmpty => (.truth m.isEmpty, m)

/-! ## Histories -/

/-- A question and the answer that it got. -/
structure Deed where
  question : Question
  answer : Answer

namespace Deed

/-- The record that a successful create has filed. -/
def filed? : Deed → Option LockRecord
  | ⟨.create r, .record (.ok _)⟩ => some r
  | _ => none

/-- The key that a successful delete has freed. -/
def freed? : Deed → Option String
  | ⟨.delete ns name, .removal (.ok _)⟩ => some (recordKey ns name)
  | _ => none

@[simp] theorem filed?_created (r a : LockRecord) :
    filed? ⟨.create r, .record (.ok a)⟩ = some r := rfl

@[simp] theorem freed?_created (r a : LockRecord) :
    freed? ⟨.create r, .record (.ok a)⟩ = none := rfl

@[simp] theorem filed?_deleted (ns name : String) :
    filed? ⟨.delete ns name, .removal (.ok ())⟩ = none := rfl

@[simp] theorem freed?_deleted (ns name : String) :
    freed? ⟨.delete ns name, .removal (.ok ())⟩ = some (recordKey ns name) := rfl

/-- The deed is a successful create or a successful delete under the key. -/
def Touches (d : Deed) (key : String) : Prop :=
  (∃ r, d.filed? = some r ∧ r.key = key) ∨ d.freed? = some key

@[simp] theorem touches_created {r a : LockRecord} {key : String} :
    Touches ⟨.create r, .record (.ok a)⟩ key ↔ r.key = key := by
  simp [Touches]

@[simp] theorem touches_deleted {ns name key : String} :
    Touches ⟨.delete ns name, .removal (.ok ())⟩ key ↔ recordKey ns name = key := by
  simp [Touches]

end Deed

/-- The latest successful create under the key was of this record, and no later successful delete
of the key followed. -/
def Stands (deeds : List Deed) (key : String) (r : LockRecord) : Prop :=
  ∃ before d after, deeds = before ++ d :: after ∧ d.filed? = some r ∧ r.key = key ∧
    ∀ d' ∈ after, ¬ d'.Touches key

theorem not_stands_nil (key : String) (r : LockRecord) : ¬ Stands [] key r := by
  rintro ⟨before, d, after, h, -⟩
  cases before <;> cases h

/-- A further deed files the record, or it leaves alone what is filed under the key. -/
theorem stands_snoc (deeds : List Deed) (d : Deed) (key : String) (r : LockRecord) :
    Stands (deeds ++ [d]) key r ↔
      (d.filed? = some r ∧ r.key = key) ∨ (¬ d.Touches key ∧ Stands deeds key r) := by
  constructor
  · rintro ⟨before, e, after, hdeeds, hfiled, hkey, hafter⟩
    rcases List.eq_nil_or_concat after with rfl | ⟨after', d', rfl⟩
    · cases (List.append_inj' hdeeds rfl).2
      exact Or.inl ⟨hfiled, hkey⟩
    · rw [List.concat_eq_append, ← List.cons_append, ← List.append_assoc] at hdeeds
      obtain ⟨rfl, hd⟩ := List.append_inj' hdeeds rfl
      cases hd
      rw [List.concat_eq_append] at hafter
      exact Or.inr ⟨hafter d (by simp), before, e, after', rfl, hfiled, hkey,
        fun d' hd' => hafter d' (List.mem_append_left _ hd')⟩
  · rintro (⟨hfiled, hkey⟩ | ⟨hd, before, e, after, rfl, hfiled, hkey, hafter⟩)
    · exact ⟨deeds, d, [], rfl, hfiled, hkey, fun _ h => nomatch h⟩
    · refine ⟨before, e, after ++ [d], by simp, hfiled, hkey, fun d' hd' => ?_⟩
      rcases List.mem_append.1 hd' with h | h
      · exact hafter d' h
      · rwa [List.mem_singleton.1 h]

/-- A store with all that it has been asked and has answered. -/
structure Chronicle where
  store : MemoryStore := ∅
  deeds : List Deed := []

namespace Chronicle

def ask (h : Chronicle) (q : Question) : Chronicle :=
  ⟨(h.store.ask q).2, h.deeds ++ [⟨q, (h.store.ask q).1⟩]⟩

/-- The chronicle of a store that was empty before these questions. -/
def of (qs : List Question) : Chronicle := qs.foldl ask {}

theorem of_snoc (qs : List Question) (q : Question) : of (qs ++ [q]) = (of qs).ask q :=
  List.foldl_append

end Chronicle

/-! ## One question -/

/-- **What a question does**: it files a record under a free key, it frees a key under which
something was filed, or it changes nothing. -/
theorem ask_cases (m : MemoryStore) (q : Question) :
    (∃ r, q = .create r ∧ m.lookup r.key = none ∧ (m.ask q).1 = .record (.ok r) ∧
        (m.ask q).2 = (m.create r).2) ∨
      (∃ ns name, q = .delete ns name ∧ (m.lookup (recordKey ns name)).isSome ∧
        (m.ask q).1 = .removal (.ok ()) ∧ (m.ask q).2 = (m.delete ns name).2) ∨
      ((⟨q, (m.ask q).1⟩ : Deed).filed? = none ∧ (⟨q, (m.ask q).1⟩ : Deed).freed? = none ∧
        (m.ask q).2 = m) := by
  cases q with
  | get ns name => exact Or.inr (Or.inr ⟨rfl, rfl, m.get_snd ns name⟩)
  | contains ns name => exact Or.inr (Or.inr ⟨rfl, rfl, rfl⟩)
  | size => exact Or.inr (Or.inr ⟨rfl, rfl, rfl⟩)
  | isEmpty => exact Or.inr (Or.inr ⟨rfl, rfl, rfl⟩)
  | create r =>
    cases h : m.lookup r.key with
    | none =>
      refine Or.inl ⟨r, rfl, h, ?_, rfl⟩
      simp only [ask, create_fst, h, Option.isSome_none, Bool.false_eq_true, if_false]
    | some r' =>
      have hcreate := create_of_isSome (r := r) (m := m) (by rw [h]; rfl)
      simp only [ask, hcreate, Deed.filed?, Deed.freed?, and_self, or_true]
  | delete ns name =>
    cases h : m.lookup (recordKey ns name) with
    | some r =>
      refine Or.inr (Or.inl ⟨ns, name, rfl, by rw [h]; rfl, ?_, rfl⟩)
      simp only [ask, delete_fst, h, Option.isSome_some, if_true]
    | none =>
      have hdelete : m.delete ns name = (.error (.notFound ns name), m) := by
        rw [delete, h]
      simp only [ask, hdelete, Deed.filed?, Deed.freed?, and_self, or_true]

theorem size_eq_card (m : MemoryStore) : m.size = m.keys.card := by
  rw [keys, List.toFinset_card_of_nodup m.nodup, List.length_map, size]

/-! ## Whole histories -/

namespace Chronicle

/-- What is filed under a key is what stands in the history. -/
theorem lookup_of (qs : List Question) (key : String) (r : LockRecord) :
    (of qs).store.lookup key = some r ↔ Stands (of qs).deeds key r := by
  induction qs using List.reverseRecOn generalizing r with
  | nil =>
    constructor
    · exact fun h => nomatch h
    · exact fun h => (not_stands_nil key r h).elim
  | append_singleton qs q ih =>
    rw [of_snoc, ask, stands_snoc, ← ih]
    rcases (of qs).store.ask_cases q with ⟨r', rfl, hfree, hanswer, hleft⟩ |
      ⟨ns, name, rfl, -, hanswer, hleft⟩ | ⟨hfiled, hfreed, hleft⟩
    · rw [hanswer, hleft, lookup_create_of_none hfree, Function.update_apply,
        Deed.touches_created, Deed.filed?_created]
      by_cases hk : key = r'.key
      · subst hk
        simp +contextual
      · have hother : ¬ (some r' = some r ∧ r.key = key) := by
          rintro ⟨⟨⟩, h⟩
          exact hk h.symm
        rw [if_neg hk, or_iff_right hother, and_iff_right (Ne.symm hk)]
    · rw [hanswer, hleft, lookup_delete, Function.update_apply, Deed.touches_deleted,
        Deed.filed?_deleted]
      by_cases hk : key = recordKey ns name
      · simp [hk]
      · simp [hk, Ne.symm hk]
    · simp [hleft, Deed.Touches, hfiled, hfreed]

/-- As much is filed as was created and not deleted. -/
theorem size_of (qs : List Question) :
    (of qs).store.size + (of qs).deeds.countP (·.freed?.isSome) =
      (of qs).deeds.countP (·.filed?.isSome) := by
  induction qs using List.reverseRecOn with
  | nil => rfl
  | append_singleton qs q ih =>
    rw [of_snoc, ask, List.countP_append, List.countP_append, List.countP_singleton,
      List.countP_singleton]
    rw [size_eq_card] at ih ⊢
    rcases (of qs).store.ask_cases q with ⟨r, rfl, hfree, hanswer, hleft⟩ |
      ⟨ns, name, rfl, htaken, hanswer, hleft⟩ | ⟨hfiled, hfreed, hleft⟩
    · rw [hanswer, hleft, keys_create,
        Finset.card_insert_of_notMem (lookup_eq_none_iff.1 hfree)]
      simp only [Deed.filed?_created, Deed.freed?_created, Option.isSome_some,
        Option.isSome_none, if_true, Bool.false_eq_true, if_false]
      omega
    · have hcard := Finset.card_erase_add_one (mem_keys.2 htaken)
      rw [hanswer, hleft, keys_delete]
      simp only [Deed.filed?_deleted, Deed.freed?_deleted, Option.isSome_some,
        Option.isSome_none, if_true, Bool.false_eq_true, if_false]
      omega
    · rw [hleft, hfiled, hfreed]
      exact ih

end Chronicle

/-! ## Answers -/

theorem get_eq_ok_iff {m : MemoryStore} {ns name : String} {r : LockRecord} :
    (m.get ns name).1 = .ok r ↔ m.lookup (recordKey ns name) = some r := by
  rw [get_fst]
  cases m.lookup (recordKey ns name) <;> simp

theorem get_eq_notFound_iff {m : MemoryStore} {ns name : String} :
    (m.get ns name).1 = .error (.notFound ns name) ↔ m.lookup (recordKey ns name) = none := by
  rw [get_fst]
  cases m.lookup (recordKey ns name) <;> simp

/-- What the history of a store tells about its next answers. -/
structure HistoryLaw (deeds : List Deed) (m : MemoryStore) : Prop where
  get_ok : ∀ ns name r, (m.get ns name).1 = .ok r ↔ Stands deeds (recordKey ns name) r
  get_notFound : ∀ ns name, (m.get ns name).1 = .error (.notFound ns name) ↔
    ¬ ∃ r, Stands deeds (recordKey ns name) r
  create_new : ∀ r : LockRecord, (m.get r.ns r.name).1 = .error (.notFound r.ns r.name) →
    (m.create r).1 = .ok r
  create_taken : ∀ r : LockRecord, (m.get r.ns r.name).1 ≠ .error (.notFound r.ns r.name) →
    m.create r = (.error (.alreadyExists r.ns r.name), m)
  delete_there : ∀ ns name, (∃ r, (m.get ns name).1 = .ok r) → (m.delete ns name).1 = .ok ()
  delete_missing : ∀ ns name, (¬ ∃ r, (m.get ns name).1 = .ok r) →
    m.delete ns name = (.error (.notFound ns name), m)
  contains_iff : ∀ ns name, m.contains ns name = true ↔ ∃ r, (m.get ns name).1 = .ok r
  size_eq : (m.size : Int) =
    deeds.countP (·.filed?.isSome) - deeds.countP (·.freed?.isSome)
  isEmpty_iff : m.isEmpty = true ↔ m.size = 0

/-- **The answers of a store are told by its history**, whatever it has been asked since it was
empty. -/
theorem history_law (qs : List Question) :
    HistoryLaw (Chronicle.of qs).deeds (Chronicle.of qs).store := by
  have hlookup := Chronicle.lookup_of qs
  have hsize := Chronicle.size_of qs
  generalize (Chronicle.of qs).store = m at hlookup hsize ⊢
  generalize (Chronicle.of qs).deeds = deeds at hlookup hsize ⊢
  constructor
  case get_ok => exact fun ns name r => get_eq_ok_iff.trans (hlookup _ r)
  case get_notFound =>
    intro ns name
    rw [get_eq_notFound_iff, Option.eq_none_iff_forall_ne_some, not_exists]
    exact forall_congr' fun r => not_congr (hlookup _ r)
  case create_new =>
    intro r h
    have hfree : m.lookup r.key = none := get_eq_notFound_iff.1 h
    rw [create_fst, hfree]
    rfl
  case create_taken =>
    intro r h
    rw [Ne, get_eq_notFound_iff] at h
    exact create_of_isSome (Option.isSome_iff_ne_none.2 h)
  case delete_there =>
    rintro ns name ⟨r, h⟩
    rw [delete_fst, get_eq_ok_iff.1 h]
    rfl
  case delete_missing =>
    intro ns name h
    have hfree : m.lookup (recordKey ns name) = none :=
      Option.eq_none_iff_forall_ne_some.2 fun r hr => h ⟨r, get_eq_ok_iff.2 hr⟩
    rw [delete, hfree]
  case contains_iff =>
    intro ns name
    rw [contains, Option.isSome_iff_exists]
    exact exists_congr fun r => get_eq_ok_iff.symm
  case size_eq => omega
  case isEmpty_iff => rw [isEmpty, List.isEmpty_iff_length_eq_zero, size]

/-- Under one key a record can be read by another namespace and name than its own. -/
example : ((Chronicle.of [.create ⟨"a", "b/c", []⟩]).store.get "a/b" "c").1 =
    .ok ⟨"a", "b/c", []⟩ := rfl

end ClusterLock.MemoryStore
