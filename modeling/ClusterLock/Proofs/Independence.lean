import ClusterLock.Proofs.Linearization
import ClusterLock.Proofs.MemoryTurn

/-
  Lock calls on two clusters, one call after the other, on one store in memory. A call by itself
  answers as the atomic lock does (`apply_run`), and the atomic lock looks at one key only
  (`apply_local`) and changes no other (`mem_apply_of_ne`). Hence calls on another cluster can be
  left out if the keys differ (`undisturbed_of_key_ne`), and cannot if they are equal
  (`not_undisturbed_of_key_eq`). Namespace and uid are joined by a slash in the key, and a slash
  may occur in both, so that different clusters can have one key: `independent_iff` gives the
  exact condition.
-/
namespace ClusterLock

/-! ## A call by itself -/

namespace LockOp

/-- A whole call on a store in memory answers as the atomic lock does and leaves the same keys. -/
theorem apply_run (l : Locker) (v : Verb) (c : Cluster) (s : Session MemoryStore) :
    ∃ o, (l.run memoryStore v c s).1.phase = .finished o ∧
      apply ⟨v, c, none⟩ s.state.keys = (o.answer, (l.run memoryStore v c s).2.state.keys) := by
  rw [l.run_phase, l.run_state, Verb.start_fst]
  by_cases h : v = .probe ∨ c.Complete
  · rw [if_pos h]
    have hadmitted : LockCall.Admitted ⟨v, c, [], .probing⟩ := h
    rcases apply_advance_probing c s.state v h with hd | ⟨o, ho, happ⟩
    · have hgo := hadmitted.advance memoryStore s.state
      rw [hd] at hgo ⊢
      exact apply_advance_deciding c s.state v hgo.1 hgo.2
    · rw [ho]
      exact ⟨o, rfl, happ⟩
  · rw [if_neg h]
    exact ⟨v.refusal, rfl, apply_refused c v _ h⟩

/-- What a command answers on a store in memory, and the keys that it leaves. -/
theorem apply_execute (l : Locker) (v : Verb) (c : Cluster) (s : Session MemoryStore) :
    (l.execute memoryStore v c s).1 =
        (apply ⟨v, c, none⟩ s.state.keys).1.mapError .unreadable ∧
      (l.execute memoryStore v c s).2.state.keys = (apply ⟨v, c, none⟩ s.state.keys).2 := by
  obtain ⟨o, ho, happ⟩ := apply_run l v c s
  obtain ⟨a, ha, he⟩ := l.execute_eq memoryStore v c s
  rw [LockCall.answer?, ho] at ha
  cases ha
  rw [he, happ]
  exact ⟨rfl, rfl⟩

/-! ## One key -/

variable (op : LockOp) {held held' : Finset String}

/-- The atomic lock changes nothing about other keys. -/
theorem mem_apply_of_ne {k : String} (h : k ≠ op.key) : k ∈ (op.apply held).2 ↔ k ∈ held := by
  obtain ⟨verb, c, fault⟩ := op
  cases fault with
  | some e => cases verb <;> rfl
  | none =>
    cases verb with
    | probe => rfl
    | acquire =>
      simp only [apply]
      split
      · rw [Finset.mem_insert, or_iff_right h]
      · rfl
    | release =>
      simp only [apply]
      split
      · rw [Finset.mem_erase, and_iff_right h]
      · rfl

/-- What the atomic lock answers, and whether its key is held afterwards, rests on whether the key
is held before. -/
theorem apply_local (h : op.key ∈ held ↔ op.key ∈ held') :
    (op.apply held).1 = (op.apply held').1 ∧
      (op.key ∈ (op.apply held).2 ↔ op.key ∈ (op.apply held').2) := by
  obtain ⟨verb, c, fault⟩ := op
  cases fault with
  | some e => cases verb <;> exact ⟨rfl, h⟩
  | none =>
    cases verb with
    | probe =>
      simp only [apply, h]
      exact ⟨trivial, trivial⟩
    | acquire =>
      simp only [apply, h]
      split
      · simp
      · exact ⟨rfl, h⟩
    | release =>
      simp only [apply]
      split
      · simp
      · exact ⟨rfl, h⟩

end LockOp

/-! ## Calls one after the other -/

/-- One call: who is asked, what, and about which cluster. -/
structure Ask where
  locker : Locker
  verb : Verb
  cluster : Cluster

/-- Calls one after the other. Each answer stands beside the cluster that it is about. -/
def askAll : List Ask → Session MemoryStore →
    List (Cluster × Except CommandError Bool) × Session MemoryStore
  | [], s => ([], s)
  | a :: asks, s =>
    let (answer, s) := a.locker.execute memoryStore a.verb a.cluster s
    let (answers, s) := askAll asks s
    ((a.cluster, answer) :: answers, s)

/-- The answers about one cluster. -/
def answersAbout (c : Cluster) (answers : List (Cluster × Except CommandError Bool)) :
    List (Except CommandError Bool) :=
  (answers.filter (·.1 = c)).map (·.2)

/-- Calls on cluster `d` make no difference to the calls on cluster `c`: leaving them out changes
neither the answers about `c` nor whether its record is there in the end. -/
def Undisturbed (c d : Cluster) : Prop :=
  ∀ (asks : List Ask), (∀ a ∈ asks, a.cluster = c ∨ a.cluster = d) →
    ∀ (s : Session MemoryStore),
      answersAbout c (askAll asks s).1 =
          answersAbout c (askAll (asks.filter (·.cluster ≠ d)) s).1 ∧
        (askAll asks s).2.state.contains c.ns c.lockName =
          (askAll (asks.filter (·.cluster ≠ d)) s).2.state.contains c.ns c.lockName

/-- Neither of two clusters is disturbed by calls on the other. -/
def Independent (c d : Cluster) : Prop := Undisturbed c d ∧ Undisturbed d c

theorem MemoryStore.contains_eq {c : Cluster} {m : MemoryStore} :
    m.contains c.ns c.lockName = decide (c.key ∈ m.keys) := by
  rw [Bool.eq_iff_iff, decide_eq_true_iff, mem_keys]
  rfl

theorem answersAbout_cons (c : Cluster) (a : Cluster × Except CommandError Bool)
    (answers : List (Cluster × Except CommandError Bool)) :
    answersAbout c (a :: answers) =
      if a.1 = c then a.2 :: answersAbout c answers else answersAbout c answers := by
  by_cases h : a.1 = c
  · simp [answersAbout, h]
  · simp [answersAbout, h]

/-- The run lemma: two sessions that agree on one key go on agreeing on it when the calls about
another key are left out of the second. -/
theorem askAll_agree {c d : Cluster} (hk : c.key ≠ d.key) {asks : List Ask}
    (ha : ∀ a ∈ asks, a.cluster = c ∨ a.cluster = d) {s s' : Session MemoryStore}
    (h : c.key ∈ s.state.keys ↔ c.key ∈ s'.state.keys) :
    answersAbout c (askAll asks s).1 =
        answersAbout c (askAll (asks.filter (·.cluster ≠ d)) s').1 ∧
      (c.key ∈ (askAll asks s).2.state.keys ↔
        c.key ∈ (askAll (asks.filter (·.cluster ≠ d)) s').2.state.keys) := by
  have hcd : c ≠ d := fun hcd => hk (congrArg Cluster.key hcd)
  induction asks generalizing s s' with
  | nil => exact ⟨rfl, h⟩
  | cons a asks ih =>
    have hrest : ∀ b ∈ asks, b.cluster = c ∨ b.cluster = d :=
      fun b hb => ha b (List.mem_cons_of_mem _ hb)
    obtain ⟨hanswer, hkeys⟩ := LockOp.apply_execute a.locker a.verb a.cluster s
    rcases ha a List.mem_cons_self with hc | hd
    · obtain ⟨hanswer', hkeys'⟩ := LockOp.apply_execute a.locker a.verb a.cluster s'
      rw [hc] at hanswer hkeys hanswer' hkeys'
      obtain ⟨hsame, hstill⟩ := LockOp.apply_local ⟨a.verb, c, none⟩ h
      rw [LockOp.key, ← Cluster.key, ← hkeys, ← hkeys'] at hstill
      obtain ⟨hans, hend⟩ := ih hrest hstill
      rw [List.filter_cons_of_pos (by simpa [hc] using hcd)]
      simp only [askAll, answersAbout_cons, hc, if_pos]
      refine ⟨?_, hend⟩
      rw [hanswer, hanswer', hsame, hans]
    · rw [hd] at hkeys
      have hother : c.key ∈ (LockOp.apply ⟨a.verb, d, none⟩ s.state.keys).2 ↔
          c.key ∈ s.state.keys := LockOp.mem_apply_of_ne ⟨a.verb, d, none⟩ hk
      rw [← hkeys] at hother
      obtain ⟨hans, hend⟩ := ih hrest (hother.trans h)
      rw [List.filter_cons_of_neg (by simp [hd])]
      simp only [askAll, answersAbout_cons, hd, if_neg hcd.symm]
      exact ⟨hans, hend⟩

theorem undisturbed_of_key_ne {c d : Cluster} (hk : c.key ≠ d.key) : Undisturbed c d := by
  intro asks ha s
  have hself : c.key ∈ s.state.keys ↔ c.key ∈ s.state.keys := Iff.rfl
  obtain ⟨hans, hend⟩ := askAll_agree hk ha hself
  rw [MemoryStore.contains_eq, MemoryStore.contains_eq, decide_eq_decide]
  exact ⟨hans, hend⟩

/-- If two clusters have one key, an acquire for one of them is in the way of the other. -/
theorem not_undisturbed_of_key_eq {c d : Cluster} (hc : c.Complete) (hd : d.Complete)
    (hcd : c ≠ d) (hk : c.key = d.key) : ¬ Undisturbed c d := by
  intro h
  have hboth : ∀ a ∈ [(⟨{}, .acquire, d⟩ : Ask), ⟨{}, .acquire, c⟩],
      a.cluster = c ∨ a.cluster = d := by
    simp
  have hsame := (h _ hboth ⟨∅, {}⟩).1
  rw [List.filter_cons_of_neg (by simp), List.filter_cons_of_pos (by simpa using hcd),
    List.filter_nil] at hsame
  simp only [askAll, answersAbout_cons, if_neg hcd.symm, if_pos] at hsame
  rw [(LockOp.apply_execute {} .acquire c _).1, (LockOp.apply_execute {} .acquire c _).1,
    (LockOp.apply_execute {} .acquire d _).2] at hsame
  have hempty : (∅ : MemoryStore).keys = ∅ := rfl
  have hfirst : LockOp.apply ⟨.acquire, d, none⟩ ∅ = (.ok true, {d.key}) :=
    if_pos ⟨hd, Finset.notMem_empty _⟩
  have hfree : LockOp.apply ⟨.acquire, c, none⟩ ∅ = (.ok true, {c.key}) :=
    if_pos ⟨hc, Finset.notMem_empty _⟩
  have htaken : LockOp.apply ⟨.acquire, c, none⟩ {c.key} = (.ok false, {c.key}) :=
    if_neg fun hn => hn.2 (Finset.mem_singleton_self _)
  rw [hempty, hfirst, hfree, ← hk, htaken] at hsame
  cases hsame

/-! ## Clusters with one key -/

theorem Cluster.key_eq_iff {c d : Cluster} :
    c.key = d.key ↔ c.ns ++ "/" ++ c.uid = d.ns ++ "/" ++ d.uid := by
  simp only [key, recordKey, Cluster.lockName, ClusterLock.lockName, ← String.append_assoc]
  simp only [← String.toList_inj, String.toList_append, List.append_left_inj]

/-- A joined text tells its two parts, if the separator is missing where one of the parts could
reach over it. -/
theorem append_cons_inj {α : Type} {a : α} {xs ys xs' ys' : List α} (h : a ∉ xs' ∨ a ∉ ys)
    (h' : a ∉ xs ∨ a ∉ ys') (heq : xs ++ a :: ys = xs' ++ a :: ys') : xs = xs' ∧ ys = ys' := by
  rcases List.append_eq_append_iff.1 heq with ⟨zs, hx, hy⟩ | ⟨zs, hx, hy⟩
  · cases zs with
    | nil =>
      rw [List.append_nil] at hx
      exact ⟨hx.symm, (List.cons.inj hy).2⟩
    | cons z zs =>
      obtain ⟨rfl, rfl⟩ := List.cons.inj hy
      exfalso
      rcases h with h | h
      · exact h (by rw [hx]; simp)
      · exact h (by simp)
  · cases zs with
    | nil =>
      rw [List.append_nil] at hx
      exact ⟨hx, (List.cons.inj hy).2.symm⟩
    | cons z zs =>
      obtain ⟨rfl, rfl⟩ := List.cons.inj hy
      exfalso
      rcases h' with h' | h'
      · exact h' (by rw [hx]; simp)
      · exact h' (by simp)

/-- Without a slash in a namespace or in the other cluster's uid, one key means one namespace and
one uid. -/
theorem Cluster.ns_uid_of_key_eq {c d : Cluster}
    (h : '/' ∉ d.ns.toList ∨ '/' ∉ c.uid.toList) (h' : '/' ∉ c.ns.toList ∨ '/' ∉ d.uid.toList)
    (hk : c.key = d.key) : c.ns = d.ns ∧ c.uid = d.uid := by
  have hslash : "/".toList = ['/'] := by decide
  have heq := Cluster.key_eq_iff.1 hk
  rw [← String.toList_inj] at heq
  simp only [String.toList_append, hslash, List.append_assoc, List.singleton_append] at heq
  obtain ⟨hns, huid⟩ := append_cons_inj h h' heq
  exact ⟨String.toList_inj.1 hns, String.toList_inj.1 huid⟩

/-- **Independence**: different complete clusters do not disturb each other if and only if their
keys differ, which they do unless a slash in a namespace meets one in the other cluster's uid. -/
theorem independent_iff {c d : Cluster} (hc : c.Complete) (hd : d.Complete)
    (hcd : c.ns ≠ d.ns ∨ c.uid ≠ d.uid) :
    (Independent c d ↔ c.ns ++ "/" ++ c.uid ≠ d.ns ++ "/" ++ d.uid) ∧
      (('/' ∉ d.ns.toList ∨ '/' ∉ c.uid.toList) → ('/' ∉ c.ns.toList ∨ '/' ∉ d.uid.toList) →
        Independent c d) := by
  have hne : c ≠ d := by
    rintro rfl
    rcases hcd with h | h <;> exact h rfl
  have hiff : Independent c d ↔ c.key ≠ d.key :=
    ⟨fun h hk => not_undisturbed_of_key_eq hc hd hne hk h.1,
      fun hk => ⟨undisturbed_of_key_ne hk, undisturbed_of_key_ne hk.symm⟩⟩
  refine ⟨hiff.trans (not_congr Cluster.key_eq_iff), fun h h' => hiff.2 fun hk => ?_⟩
  obtain ⟨hns, huid⟩ := Cluster.ns_uid_of_key_eq h h' hk
  rcases hcd with hcd | hcd
  · exact hcd hns
  · exact hcd huid

/-- One uid in two namespaces: two locks, since neither namespace has a slash. -/
theorem independent_iff_twoNamespaces :
    let c : Cluster := ⟨"ns1", "cl1", "abc-123", "cluster.x-k8s.io/v1beta1", "Cluster"⟩
    let d : Cluster := ⟨"ns2", "cl1", "abc-123", "cluster.x-k8s.io/v1beta1", "Cluster"⟩
    c.Complete ∧ d.Complete ∧ c.ns ≠ d.ns ∧ c.ns ++ "/" ++ c.uid ≠ d.ns ++ "/" ++ d.uid ∧
      Independent c d := by
  intro c d
  have hc : c.Complete := by decide
  have hd : d.Complete := by decide
  have hns : c.ns ≠ d.ns := by decide
  have hind := (independent_iff hc hd (Or.inl hns)).2 (Or.inl (by decide)) (Or.inl (by decide))
  exact ⟨hc, hd, hns, (independent_iff hc hd (Or.inl hns)).1.1 hind, hind⟩

/-- Two clusters of different namespaces and uids that share one key. -/
theorem dependent_slashed :
    let c : Cluster := ⟨"a/b", "cl1", "c", "cluster.x-k8s.io/v1beta1", "Cluster"⟩
    let d : Cluster := ⟨"a", "cl1", "b/c", "cluster.x-k8s.io/v1beta1", "Cluster"⟩
    c.Complete ∧ d.Complete ∧ c.ns ≠ d.ns ∧ c.uid ≠ d.uid ∧ ¬ Independent c d := by
  intro c d
  have hc : c.Complete := by decide
  have hd : d.Complete := by decide
  have hk : c.key = d.key := by decide
  exact ⟨hc, hd, by decide, by decide,
    fun h => not_undisturbed_of_key_eq hc hd (by decide) hk h.1⟩

end ClusterLock
