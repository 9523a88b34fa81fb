import Mathlib.Data.List.Count
import ClusterLock.Race
import ClusterLock.Proofs.Independence

/-
  A store in memory that gets the same call over and over while some of the calls are struck by
  faults. `MemoryStore.serve` is what it answers: to a get it says the same each time (`serve_get`);
  a create or a delete is good once, for the first call that goes through (`OneShot.goods`), and
  too late for all the others (`OneShot.goods_add_lates`). `contestedStore_verdict` finds the faults
  in the queues of a contested store: each call draws the first that is queued for its kind.
-/
namespace ClusterLock

/-! ## Queues -/

section

variable {α : Type} (kind : CallKind)

/-- What is queued for a kind of call, in order. -/
def queuedFor (kind : CallKind) (queue : List (CallKind × α)) : List α :=
  queue.filterMap fun e => if e.1 = kind then some e.2 else none

@[simp] theorem queuedFor_nil : queuedFor kind ([] : List (CallKind × α)) = [] := rfl

theorem queuedFor_cons (k : CallKind) (a : α) (queue : List (CallKind × α)) :
    queuedFor kind ((k, a) :: queue) =
      if k = kind then a :: queuedFor kind queue else queuedFor kind queue := by
  unfold queuedFor
  rw [List.filterMap_cons]
  by_cases h : k = kind
  · simp only [if_pos h]
  · simp only [if_neg h]

/-- A call draws the first entry that is queued for its kind. -/
theorem takeFor_fst (queue : List (CallKind × α)) :
    (takeFor kind queue).1 = (queuedFor kind queue).head? := by
  induction queue with
  | nil => rfl
  | cons e queue ih =>
    obtain ⟨k, a⟩ := e
    rw [takeFor, queuedFor_cons]
    by_cases h : k = kind
    · rw [if_pos h, if_pos h]
      rfl
    · rw [if_neg h, if_neg h]
      exact ih

/-- It leaves the others, and what is queued for other kinds. -/
theorem queuedFor_takeFor (kind' : CallKind) (queue : List (CallKind × α)) :
    queuedFor kind' (takeFor kind queue).2 =
      if kind' = kind then (queuedFor kind queue).tail else queuedFor kind' queue := by
  induction queue with
  | nil => rw [takeFor, queuedFor_nil, queuedFor_nil, List.tail_nil, ite_self]
  | cons e queue ih =>
    obtain ⟨k, a⟩ := e
    rw [takeFor]
    by_cases h : k = kind
    · subst h
      rw [if_pos rfl, queuedFor_cons, if_pos rfl, queuedFor_cons]
      by_cases h' : kind' = k
      · rw [if_pos h', h']
        rfl
      · rw [if_neg h', if_neg (Ne.symm h')]
    · rw [if_neg h]
      show queuedFor kind' ((k, a) :: (takeFor kind queue).2) = _
      rw [queuedFor_cons, queuedFor_cons, queuedFor_cons, if_neg h, ih]
      by_cases h' : kind' = kind
      · subst h'
        rw [if_pos rfl, if_neg h, if_pos rfl]
      · rw [if_neg h', if_neg h']

end

/-! ## Contested stores -/

namespace Contested

/-- The faults that are queued for a kind of call. -/
def faultsFor (s : Contested) (kind : CallKind) : List (Option StoreError) :=
  queuedFor kind s.faults

/-- The store after a call of this kind, in which it may have changed its records. -/
def past (s : Contested) (q : StoreCall) (inner : MemoryStore) : Contested :=
  { s with inner, faults := (takeFor q.kind s.faults).2, calls := s.calls ++ [q] }

theorem faultsFor_past (s : Contested) (q : StoreCall) (inner : MemoryStore) (kind : CallKind) :
    (s.past q inner).faultsFor kind =
      if kind = q.kind then (s.faultsFor q.kind).tail else s.faultsFor kind :=
  queuedFor_takeFor q.kind kind s.faults

end Contested

/-- If nobody else acts, a call on a contested store is a call on the store in memory that may be
struck by a fault. -/
theorem contestedStore_verdict {s : Contested} (hs : s.intrusions = []) (q : StoreCall) :
    contestedStore.verdict q s =
      let answered := (memoryStore.failing ((s.faultsFor q.kind).headD none)).verdict q s.inner
      (answered.1, s.past q answered.2) := by
  have hfault : (s.faultsFor q.kind).headD none = (takeFor q.kind s.faults).1.join := by
    rw [takeFor_fst, Contested.faultsFor]
    cases queuedFor q.kind s.faults <;> rfl
  have hmeet : Contested.meet q s = ((takeFor q.kind s.faults).1.join, s.past q s.inner) := by
    simp only [Contested.meet, hs, takeFor, Contested.past]
    rfl
  rw [hfault]
  cases hjoin : (takeFor q.kind s.faults).1.join with
  | none =>
    rw [hjoin] at hmeet
    cases q <;> simp only [RecordStore.verdict, contestedStore, Contested.attempt, hmeet] <;> rfl
  | some e =>
    rw [hjoin] at hmeet
    cases q <;> simp only [RecordStore.verdict, contestedStore, Contested.attempt, hmeet] <;> rfl

/-! ## The same call over and over -/

namespace MemoryStore

/-- The answers to a call that is made once for each entry of the list and struck by the faults in
it, and the store in the end. -/
def serve (q : StoreCall) :
    List (Option StoreError) → MemoryStore → List (Except StoreError Unit) × MemoryStore
  | [], m => ([], m)
  | fault :: faults, m =>
    let (a, m) := (memoryStore.failing fault).verdict q m
    let (as, m) := serve q faults m
    (a :: as, m)

theorem serve_append (q : StoreCall) (fs gs : List (Option StoreError)) (m : MemoryStore) :
    serve q (fs ++ gs) m =
      ((serve q fs m).1 ++ (serve q gs (serve q fs m).2).1, (serve q gs (serve q fs m).2).2) := by
  induction fs generalizing m with
  | nil => rfl
  | cons f fs ih => simp only [List.cons_append, serve, ih]

theorem serve_some (q : StoreCall) (e : StoreError) (fs : List (Option StoreError))
    (m : MemoryStore) :
    serve q (some e :: fs) m = (.error e :: (serve q fs m).1, (serve q fs m).2) := by
  simp only [serve, RecordStore.verdict_failing_some]

/-- A call that leaves the store as it is has the same answer each time it goes through. -/
theorem serve_of_same {q : StoreCall} {m : MemoryStore} {a : Except StoreError Unit}
    (h : memoryStore.verdict q m = (a, m)) (fs : List (Option StoreError)) :
    serve q fs m = (fs.map fun f => f.elim a .error, m) := by
  induction fs with
  | nil => rfl
  | cons f fs ih =>
    cases f with
    | none => simp only [serve, RecordStore.failing_none, h, ih, List.map_cons, Option.elim]
    | some e => simp only [serve_some, ih, List.map_cons, Option.elim]

end MemoryStore

/-- Counting such answers: those to the calls that go through, and the faults. -/
theorem countP_struck (p : Except StoreError Unit → Bool) (a : Except StoreError Unit)
    (fs : List (Option StoreError)) :
    (fs.map fun f => f.elim a .error).countP p =
      (if p a then fs.count none else 0) + fs.countP (·.any fun e => p (.error e)) := by
  induction fs with
  | nil => simp
  | cons f fs ih =>
    cases f with
    | none =>
      rw [List.map_cons, Option.elim, List.countP_cons, ih, List.count_cons_self,
        List.countP_cons_of_neg (by simp)]
      split <;> omega
    | some e =>
      have hne : some e ≠ none := nofun
      rw [List.map_cons, Option.elim, List.countP_cons, ih, List.count_cons_of_ne hne,
        Nat.add_assoc]
      cases hp : p (.error e) with
      | true => rw [if_pos rfl, List.countP_cons_of_pos (by simpa using hp)]
      | false =>
        rw [if_neg Bool.false_ne_true, List.countP_cons_of_neg (by simp [hp]), Nat.add_zero]

/-- A call that is good only as long as the store is open for it, and that closes the store. -/
structure OneShot (q : StoreCall) (opened : MemoryStore → Bool) (late : StoreError) : Prop where
  first : ∀ m, opened m = true →
    (memoryStore.verdict q m).1 = .ok () ∧ opened (memoryStore.verdict q m).2 = false
  later : ∀ m, opened m = false → memoryStore.verdict q m = (.error late, m)

/-- The answer is good. -/
def isGood : Except StoreError Unit → Bool
  | .ok _ => true
  | .error _ => false

/-- The answer is an error of this sort. -/
def failsBy (p : StoreError → Bool) : Except StoreError Unit → Bool
  | .ok _ => false
  | .error e => p e

namespace OneShot

variable {q : StoreCall} {opened : MemoryStore → Bool} {late : StoreError}
  (h : OneShot q opened late)

include h

/-- The first call that goes through on an open store, and those that come after it. -/
theorem serve_none {m : MemoryStore} (hm : opened m = true) (fs : List (Option StoreError)) :
    m.serve q (none :: fs) =
      (.ok () :: fs.map fun f => f.elim (.error late) .error, (memoryStore.verdict q m).2) := by
  obtain ⟨hgood, hclosed⟩ := h.first m hm
  have hrest := MemoryStore.serve_of_same (h.later _ hclosed) fs
  simp only [MemoryStore.serve, RecordStore.failing_none, hgood, hrest]

/-- One call is good if the store is open and not all calls are struck, and it is the only one that
changes the store. -/
theorem serve_good (m : MemoryStore) (fs : List (Option StoreError)) :
    (m.serve q fs).1.countP isGood = (if opened m = true ∧ none ∈ fs then 1 else 0) ∧
      (m.serve q fs).2 =
        if opened m = true ∧ none ∈ fs then (memoryStore.verdict q m).2 else m := by
  have hlate : ∀ gs : List (Option StoreError),
      (gs.map fun f => f.elim (Except.error late) Except.error).countP isGood = 0 := by
    intro gs
    rw [countP_struck]
    simp [isGood]
  cases hm : opened m with
  | false =>
    rw [MemoryStore.serve_of_same (h.later m hm), hlate]
    simp
  | true =>
    induction fs with
    | nil => simp [MemoryStore.serve]
    | cons f fs ih =>
      cases f with
      | none =>
        rw [h.serve_none hm, List.countP_cons_of_pos rfl, hlate]
        simp
      | some e =>
        have hnot : ¬ isGood (.error e) = true := nofun
        rw [MemoryStore.serve_some, List.countP_cons_of_neg hnot]
        simpa using ih

/-- The calls that go through are good or too late. -/
theorem countP_isGood_add {p : StoreError → Bool} (hp : p late = true) (m : MemoryStore)
    (fs : List (Option StoreError)) :
    (m.serve q fs).1.countP isGood + (m.serve q fs).1.countP (failsBy p) =
      fs.count none + fs.countP (·.any p) := by
  have hone : ∀ m, ((memoryStore.verdict q m).1 = .ok () ∨
      (memoryStore.verdict q m).1 = .error late) := by
    intro m
    cases hm : opened m with
    | true => exact Or.inl (h.first m hm).1
    | false => exact Or.inr (congrArg Prod.fst (h.later m hm))
  induction fs generalizing m with
  | nil => rfl
  | cons f fs ih =>
    cases f with
    | none =>
      have hrest := ih (memoryStore.verdict q m).2
      rw [List.count_cons_self, List.countP_cons_of_neg (by simp)]
      rcases hone m with ha | ha
      · simp only [MemoryStore.serve, RecordStore.failing_none, ha, List.countP_cons, isGood,
          failsBy, Bool.false_eq_true, if_true, if_false]
        omega
      · simp only [MemoryStore.serve, RecordStore.failing_none, ha, List.countP_cons, isGood,
          failsBy, hp, Bool.false_eq_true, if_true, if_false]
        omega
    | some e =>
      have hrest := ih m
      have hnot : some e ≠ none := nofun
      rw [List.count_cons_of_ne hnot]
      cases hpe : p e with
      | true =>
        simp only [MemoryStore.serve_some, List.countP_cons, isGood, failsBy, Option.any_some, hpe,
          Bool.false_eq_true, if_true, if_false]
        omega
      | false =>
        simp only [MemoryStore.serve_some, List.countP_cons, isGood, failsBy, Option.any_some, hpe,
          Bool.false_eq_true, if_false]
        omega

end OneShot

/-- Of the creates of a record the first that goes through is good if there is none yet. -/
theorem oneShot_create (c : Cluster) :
    OneShot (.create (.forCluster c)) (fun m => !m.contains c.ns c.lockName)
      (.alreadyExists c.ns c.lockName) where
  first m hm := by
    have hfree : c.key ∉ m.keys := by simpa [MemoryStore.contains_eq] using hm
    have hfiled : c.key ∈ (memoryStore.verdict (.create (.forCluster c)) m).2.keys := by
      rw [MemoryStore.keys_verdict_create, LockRecord.key_forCluster]
      exact Finset.mem_insert_self _ _
    refine ⟨?_, by simpa [MemoryStore.contains_eq] using hfiled⟩
    rw [MemoryStore.verdict_create, LockRecord.key_forCluster, if_neg hfree]
  later m hm := by
    have htaken : c.key ∈ m.keys := by simpa [MemoryStore.contains_eq] using hm
    have hsame : (m.create (.forCluster c)).2 = m :=
      congrArg Prod.snd (MemoryStore.create_of_isSome (MemoryStore.mem_keys.1 htaken))
    refine Prod.ext ?_ hsame
    rw [MemoryStore.verdict_create, LockRecord.key_forCluster]
    exact if_pos htaken

/-- Of the deletes of a record the first that goes through is good if there is one. -/
theorem oneShot_delete (c : Cluster) :
    OneShot (.delete c.ns c.lockName) (fun m => m.contains c.ns c.lockName)
      (.notFound c.ns c.lockName) where
  first m hm := by
    have htaken : c.key ∈ m.keys := by simpa [MemoryStore.contains_eq] using hm
    have hgone : c.key ∉ (memoryStore.verdict (.delete c.ns c.lockName) m).2.keys := by
      rw [MemoryStore.keys_verdict_delete]
      exact Finset.notMem_erase _ _
    refine ⟨?_, by simpa [MemoryStore.contains_eq] using hgone⟩
    rw [MemoryStore.verdict_delete]
    exact if_pos htaken
  later m hm := by
    have hfree : c.key ∉ m.keys := by simpa [MemoryStore.contains_eq] using hm
    have hfst : (m.delete c.ns c.lockName).1 = .error (.notFound c.ns c.lockName) :=
      (MemoryStore.verdict_delete c.ns c.lockName m).trans (if_neg hfree)
    have hdelete : m.delete c.ns c.lockName =
        (.error (.notFound c.ns c.lockName), (m.delete c.ns c.lockName).2) := Prod.ext hfst rfl
    exact Prod.ext hfst (MemoryStore.delete_error hdelete)

end ClusterLock
