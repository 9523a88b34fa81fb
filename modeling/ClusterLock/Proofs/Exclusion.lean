import ClusterLock.Proofs.Interleaving
import ClusterLock.Proofs.MemoryContents

/-
  Mutual exclusion. The lock is asked for on a store of which little is known (`AtomicStore`): a
  create that succeeds finds nothing under its key and files the record there, a delete that
  succeeds leaves nothing, a call that fails changes nothing, and a probe may answer anything.
  Other parties create and delete records at any moment. `held_meet` is the step lemma: what an
  incident can do to one key. `record_stays` is the run lemma: from a winning create on, the record
  under the key is the winner's until it is removed. `mutual_exclusion` puts both together with
  the calls that were told yes.
-/
namespace ClusterLock

variable {σ κ : Type}

/-! ## Stores that create atomically -/

/-- What a store holds, by key. -/
abbrev Contents (κ : Type) := κ → Option LockRecord

section

variable [DecidableEq κ]

/-- A store whose records are filed under `key` and seen through `held`. Nothing is said about
what a probe answers. -/
structure AtomicStore (key : String → String → κ) (held : σ → Contents κ)
    (store : RecordStore σ) : Prop where
  get_keeps : ∀ ns name s, held (store.get ns name s).2 = held s
  create_ok : ∀ r s a s', store.create r s = (.ok a, s') →
    held s (key r.ns r.name) = none ∧
      held s' = Function.update (held s) (key r.ns r.name) (some r)
  create_error : ∀ r s e s', store.create r s = (.error e, s') → held s' = held s
  delete_ok : ∀ ns name s s', store.delete ns name s = (.ok (), s') →
    held s' = Function.update (held s) (key ns name) none
  delete_error : ∀ ns name s e s', store.delete ns name s = (.error e, s') → held s' = held s

/-- What another party may do at a moment: create a record where there is none, or delete one. -/
def Interferes (held : σ → Contents κ) (act : σ → σ) : Prop :=
  ∀ s, held (act s) = held s ∨ ∃ k,
    held (act s) = Function.update (held s) k none ∨
      held s k = none ∧ ∃ r, held (act s) = Function.update (held s) k (some r)

variable {key : String → String → κ} {held : σ → Contents κ} {store : RecordStore σ}

/-- A fault in the way is one more way to fail. -/
theorem AtomicStore.failing (hs : AtomicStore key held store) (fault : Option StoreError) :
    AtomicStore key held (store.failing fault) := by
  cases fault with
  | none => exact hs
  | some e =>
    refine ⟨fun _ _ _ => rfl, ?_, ?_, ?_, ?_⟩
    · intro r s a s' h
      cases h
    · intro r s e' s' h
      cases h
      rfl
    · intro ns name s s' h
      cases h
    · intro ns name s e' s' h
      cases h
      rfl

/-- The key of a cluster's record. -/
def Cluster.keyIn (key : String → String → κ) (c : Cluster) : κ := key c.ns c.lockName

/-- What a turn can do to the contents: nothing, file the record of an acquire, or remove that of
a release. -/
theorem AtomicStore.held_advance (hs : AtomicStore key held store) (verb : Verb) (c : Cluster)
    (p : Phase) (s : σ) :
    held (p.advance store verb c s).2 = held s ∨
      (p = .deciding ∧ verb = .acquire ∧
        (∃ a, store.create (.forCluster c) s = (.ok a, (p.advance store verb c s).2)) ∧
        held s (c.keyIn key) = none ∧
        held (p.advance store verb c s).2 =
          Function.update (held s) (c.keyIn key) (some (.forCluster c))) ∨
      held (p.advance store verb c s).2 = Function.update (held s) (c.keyIn key) none := by
  cases p with
  | finished o => exact Or.inl rfl
  | probing => exact Or.inl (hs.get_keeps c.ns c.lockName s)
  | deciding =>
    cases verb with
    | probe => exact Or.inl (hs.get_keeps c.ns c.lockName s)
    | acquire =>
      have hv : (Phase.deciding.advance store .acquire c s).2 =
        (store.create (.forCluster c) s).2 := rfl
      rw [hv]
      cases h : store.create (.forCluster c) s with
      | mk answer s' =>
        cases answer with
        | ok a =>
          have hc := hs.create_ok _ _ _ _ h
          exact Or.inr (Or.inl ⟨rfl, rfl, ⟨a, rfl⟩, hc.1, hc.2⟩)
        | error e => exact Or.inl (hs.create_error _ _ _ _ h)
    | release =>
      have hv : (Phase.deciding.advance store .release c s).2 =
        (store.delete c.ns c.lockName s).2 := rfl
      rw [hv]
      cases h : store.delete c.ns c.lockName s with
      | mk answer s' =>
        cases answer with
        | ok u => exact Or.inr (Or.inr (hs.delete_ok _ _ _ _ h))
        | error e => exact Or.inl (hs.delete_error _ _ _ _ _ h)

end

/-! ## Runs with other parties -/

/-- One store call at a time: a move of a locker's caller, or an act of another party. -/
inductive Incident (σ : Type)
  | lock (m : Move)
  | others (act : σ → σ)

/-- Other parties only create and delete. -/
def Incident.Allowed [DecidableEq κ] (held : σ → Contents κ) : Incident σ → Prop
  | .lock _ => True
  | .others act => Interferes held act

namespace System

/-- The system after one more incident. -/
def meet (store : RecordStore σ) (S : System σ) : Incident σ → System σ
  | .lock m => S.move store m
  | .others act => { S with session := { S.session with state := act S.state } }

/-- The system after the first `n` incidents of a history. -/
def after (store : RecordStore σ) (S : System σ) (history : List (Incident σ)) (n : Nat) :
    System σ :=
  (history.take n).foldl (meet store) S

variable (store : RecordStore σ)

theorem after_succ (S : System σ) {history : List (Incident σ)} {n : Nat} {e : Incident σ}
    (h : history[n]? = some e) :
    S.after store history (n + 1) = (S.after store history n).meet store e := by
  unfold after
  rw [List.take_add_one, h, Option.toList_some, List.foldl_append]
  rfl

theorem after_succ_of_none (S : System σ) {history : List (Incident σ)} {n : Nat}
    (h : history[n]? = none) : S.after store history (n + 1) = S.after store history n := by
  unfold after
  rw [List.take_add_one, h, Option.toList_none, List.append_nil]

theorem getElem?_meet_of_isFinished {S : System σ} {i : Nat} {call : LockCall}
    (h : S.calls[i]? = some call) (hf : call.isFinished) (e : Incident σ) :
    (S.meet store e).calls[i]? = some call := by
  cases e with
  | lock m => exact getElem?_move_of_isFinished store h hf m
  | others act => exact h

/-- A call that has come to its end stays as it is. -/
theorem getElem?_after_of_isFinished {S : System σ} {history : List (Incident σ)} {i n m : Nat}
    {call : LockCall} (h : (S.after store history n).calls[i]? = some call)
    (hf : call.isFinished) (hnm : n ≤ m) : (S.after store history m).calls[i]? = some call := by
  induction hnm with
  | refl => exact h
  | @step m _ ih =>
    cases he : history[m]? with
    | none => rw [after_succ_of_none store S he, ih]
    | some e => rw [after_succ store S he, getElem?_meet_of_isFinished store ih hf]

/-- Call `i` is an acquire for the cluster that has been told yes. -/
def Granted (S : System σ) (i : Nat) (c : Cluster) : Prop :=
  ∃ call, S.calls[i]? = some call ∧ call.verb = .acquire ∧ call.cluster = c ∧
    call.granted = true

/-- This is the turn of call `i` in which the store creates the cluster's record for it. -/
def Wins (S : System σ) (e : Incident σ) (i : Nat) (c : Cluster) : Prop :=
  e = .lock (.turn i none) ∧
    (∃ call, S.calls[i]? = some call ∧ call.verb = .acquire ∧ call.cluster = c ∧
      call.phase = .deciding) ∧
    ∃ a s', store.create (.forCluster c) S.state = (.ok a, s')

/-! ## Winning and being told yes -/

theorem granted_of_wins {S : System σ} {e : Incident σ} {i : Nat} {c : Cluster}
    (h : S.Wins store e i c) : (S.meet store e).Granted i c := by
  obtain ⟨rfl, ⟨call, hc, hv, hcl, hp⟩, a, s', hw⟩ := h
  refine ⟨_, getElem?_move_turn store hc none, hv, hcl, ?_⟩
  rw [LockCall.granted_eq]
  refine ⟨.acquire .acquired, ?_, rfl⟩
  rw [RecordStore.failing_none, hp, hv, hcl]
  simp only [Phase.advance, Verb.decisionCall, RecordStore.verdict_create, hw]
  rfl

/-- A call that has been told yes has come to its end. -/
theorem Granted.isFinished {S : System σ} {i : Nat} {c : Cluster} (h : S.Granted i c) :
    ∃ call, S.calls[i]? = some call ∧ call.isFinished = true ∧ call.cluster = c := by
  obtain ⟨call, hc, -, hcl, hg⟩ := h
  obtain ⟨o, ho, -⟩ := call.granted_eq.1 hg
  exact ⟨call, hc, by rw [LockCall.isFinished_eq, ho]; rfl, hcl⟩

/-- An acquire is told yes by the turn in which its create succeeds and by nothing else. -/
theorem granted_meet {S : System σ} {e : Incident σ} {i : Nat} {c : Cluster}
    (h : (S.meet store e).Granted i c) : S.Granted i c ∨ S.Wins store e i c := by
  obtain ⟨call, hc, hv, hcl, hg⟩ := h
  cases e with
  | others act => exact Or.inl ⟨call, hc, hv, hcl, hg⟩
  | lock m =>
    obtain ⟨o, ho, hgo⟩ := call.granted_eq.1 hg
    rcases getElem?_move_cases store hc with hold | ⟨l, caller, verb, c', rfl, -, rfl⟩ |
      ⟨fault, before, rfl, hb, hf, rfl⟩
    · exact Or.inl ⟨call, hold, hv, hcl, hg⟩
    · -- a call that has only been begun is over at once only if it is refused
      exfalso
      have ho' : (verb.start c').1 = .finished o := ho
      rw [Verb.start_fst] at ho'
      split at ho'
      · cases ho'
      · have hv' : verb = .acquire := hv
        subst hv'
        cases ho'
        exact absurd hgo (by decide)
    · right
      obtain ⟨verb, c', scope, phase⟩ := before
      have hv' : verb = .acquire := hv
      have hcl' : c' = c := hcl
      subst hv' hcl'
      obtain ⟨hp, a, hw⟩ := Verb.create_of_granted (store.failing fault) c' S.state hf ho hgo
      cases fault with
      | none => exact ⟨rfl, ⟨_, hb, rfl, rfl, hp⟩, a, _, hw⟩
      | some e => cases hw

theorem wins_of_granted_after {s : Session σ} {history : List (Incident σ)} {i : Nat}
    {c : Cluster} {n : Nat} (h : ((fresh s).after store history n).Granted i c) :
    ∃ m e, m < n ∧ history[m]? = some e ∧ ((fresh s).after store history m).Wins store e i c := by
  induction n with
  | zero =>
    obtain ⟨call, hc, -⟩ := h
    cases hc
  | succ n ih =>
    have hearlier : ((fresh s).after store history n).Granted i c →
        ∃ m e, m < n + 1 ∧ history[m]? = some e ∧
          ((fresh s).after store history m).Wins store e i c := by
      intro hg
      obtain ⟨m, e, hm, he, hw⟩ := ih hg
      exact ⟨m, e, by omega, he, hw⟩
    cases he : history[n]? with
    | none =>
      rw [after_succ_of_none store _ he] at h
      exact hearlier h
    | some e =>
      rw [after_succ store _ he] at h
      rcases granted_meet store h with hg | hw
      · exact hearlier hg
      · exact ⟨n, e, by omega, he, hw⟩

/-- Once told yes, always told yes. -/
theorem granted_after_mono {S : System σ} {history : List (Incident σ)} {i : Nat} {c : Cluster}
    {n m : Nat} (h : (S.after store history n).Granted i c) (hnm : n ≤ m) :
    (S.after store history m).Granted i c := by
  obtain ⟨call, hc, hv, hcl, hg⟩ := h
  obtain ⟨o, ho, -⟩ := call.granted_eq.1 hg
  have hf : call.isFinished := by rw [LockCall.isFinished_eq, ho]; rfl
  exact ⟨call, getElem?_after_of_isFinished store hc hf hnm, hv, hcl, hg⟩

/-- A call wins at most once. -/
theorem wins_unique {S : System σ} {history : List (Incident σ)} {i : Nat} {c c' : Cluster}
    {n m : Nat} {e e' : Incident σ} (hn : history[n]? = some e)
    (hw : (S.after store history n).Wins store e i c)
    (hw' : (S.after store history m).Wins store e' i c') : m ≤ n := by
  by_contra hlt
  have hg := granted_of_wins store hw
  rw [← after_succ store S hn] at hg
  obtain ⟨call, hc, hf, -⟩ := hg.isFinished
  have hm := getElem?_after_of_isFinished store hc hf (show n + 1 ≤ m by omega)
  obtain ⟨-, ⟨call', hc', -, -, hp⟩, -⟩ := hw'
  rw [hm] at hc'
  cases hc'
  rw [LockCall.isFinished_eq, hp] at hf
  cases hf

end System

/-! ## The record under a key -/

section

variable [DecidableEq κ] {key : String → String → κ} {held : σ → Contents κ}
  {store : RecordStore σ}

/-- Between this system and the next one the record under the key is removed. -/
def Removed (held : σ → Contents κ) (S S' : System σ) (k : κ) : Prop :=
  held S.state k ≠ none ∧ held S'.state k = none

/-- Between this system and the next one another party creates a record under the key. -/
def CreatedByOthers (held : σ → Contents κ) (e : Incident σ) (S S' : System σ) (k : κ) : Prop :=
  (∃ act, e = .others act) ∧ held S.state k = none ∧ held S'.state k ≠ none

/-- What an incident can do to the record under a key: nothing, remove it, or, if there is none,
create one. -/
theorem held_meet (hs : AtomicStore key held store) {e : Incident σ} (he : e.Allowed held)
    (S : System σ) (k : κ) :
    held (S.meet store e).state k = held S.state k ∨
      held (S.meet store e).state k = none ∨
      (∃ i c, S.Wins store e i c ∧ c.keyIn key = k ∧ held S.state k = none ∧
        held (S.meet store e).state k = some (.forCluster c)) ∨
      CreatedByOthers held e S (S.meet store e) k := by
  cases e with
  | others act =>
    rcases he S.state with h | ⟨k', h | ⟨hk', r, h⟩⟩
    · exact Or.inl (congrFun h k)
    · have hk : held (S.meet store (.others act)).state k =
          Function.update (held S.state) k' none k := congrFun h k
      rw [hk]
      by_cases hkk : k = k'
      · subst hkk
        exact Or.inr (Or.inl (Function.update_self ..))
      · exact Or.inl (Function.update_of_ne hkk ..)
    · have hk : held (S.meet store (.others act)).state k =
          Function.update (held S.state) k' (some r) k := congrFun h k
      by_cases hkk : k = k'
      · subst hkk
        rw [Function.update_self] at hk
        exact Or.inr (Or.inr (Or.inr ⟨⟨act, rfl⟩, hk', by rw [hk]; exact Option.some_ne_none _⟩))
      · rw [hk]
        exact Or.inl (Function.update_of_ne hkk ..)
  | lock m =>
    cases m with
    | start l caller verb c => exact Or.inl rfl
    | turn i fault =>
      cases hc : S.calls[i]? with
      | none =>
        left
        rw [System.meet, System.move_turn_of_none store hc]
      | some call =>
        rw [System.meet, System.state_move_turn store hc]
        rcases (hs.failing fault).held_advance call.verb call.cluster call.phase S.state with
          h | ⟨hp, hv, ⟨a, hw⟩, hn, h⟩ | h
        · exact Or.inl (congrFun h k)
        · rw [h]
          by_cases hk : k = call.cluster.keyIn key
          · subst hk
            rw [Function.update_self]
            cases fault with
            | some e => cases hw
            | none =>
              exact Or.inr (Or.inr (Or.inl ⟨i, call.cluster,
                ⟨rfl, ⟨call, hc, hv, rfl, hp⟩, a, _, hw⟩, rfl, hn, rfl⟩))
          · exact Or.inl (Function.update_of_ne hk ..)
        · rw [h]
          by_cases hk : k = call.cluster.keyIn key
          · subst hk
            exact Or.inr (Or.inl (Function.update_self ..))
          · exact Or.inl (Function.update_of_ne hk ..)

theorem held_of_wins (hs : AtomicStore key held store) {S : System σ} {e : Incident σ} {i : Nat}
    {c : Cluster} (h : S.Wins store e i c) :
    held S.state (c.keyIn key) = none ∧
      held (S.meet store e).state (c.keyIn key) = some (.forCluster c) := by
  obtain ⟨rfl, ⟨call, hc, hv, hcl, hp⟩, a, s', hw⟩ := h
  obtain ⟨hn, hu⟩ := hs.create_ok _ _ _ _ hw
  refine ⟨hn, ?_⟩
  have hst : (S.move store (.turn i none)).state = s' := by
    rw [System.state_move_turn store hc, RecordStore.failing_none, hp, hv, hcl]
    simp only [Phase.advance, Verb.decisionCall, RecordStore.verdict_create, hw]
  rw [System.meet, hst, hu]
  exact Function.update_self ..

/-! ## Whole runs -/

section Run

variable (held) (store) (s : Session σ) (history : List (Incident σ))

/-- In the incident at place `n`, call `i` wins the cluster's record. -/
def WonAt (n i : Nat) (c : Cluster) : Prop :=
  ∃ e, history[n]? = some e ∧ ((System.fresh s).after store history n).Wins store e i c

/-- In the incident at place `n`, the record under the key is removed. -/
def RemovedAt (n : Nat) (k : κ) : Prop :=
  Removed held ((System.fresh s).after store history n)
    ((System.fresh s).after store history (n + 1)) k

/-- In the incident at place `n`, another party creates a record under the key. -/
def CreatedByOthersAt (n : Nat) (k : κ) : Prop :=
  ∃ e, history[n]? = some e ∧ CreatedByOthers held e ((System.fresh s).after store history n)
    ((System.fresh s).after store history (n + 1)) k

/-- In the incident at place `n`, call `i` makes the create of an acquire, and the store does not
fail it: either it succeeds or there is a record already. -/
def DecidedAt (key : String → String → κ) (n i : Nat) (c : Cluster) : Prop :=
  ∃ fault, history[n]? = some (.lock (.turn i fault)) ∧
    (∃ call, ((System.fresh s).after store history n).calls[i]? = some call ∧
      call.verb = .acquire ∧ call.cluster = c ∧ call.phase = .deciding) ∧
    (held ((System.fresh s).after store history n).state (c.keyIn key) ≠ none ∨
      ∃ a s', (store.failing fault).create (.forCluster c)
        ((System.fresh s).after store history n).state = (.ok a, s'))

end Run

variable {s : Session σ} {history : List (Incident σ)}

/-- From a winning create on, the record under the key is the winner's until it is removed. -/
theorem record_stays (hs : AtomicStore key held store) (ha : ∀ e ∈ history, e.Allowed held)
    {n i : Nat} {c : Cluster} (hw : WonAt store s history n i c) {n' : Nat} (hn : n < n') :
    held ((System.fresh s).after store history n').state (c.keyIn key) = some (.forCluster c) ∨
      ∃ m, n < m ∧ m < n' ∧ RemovedAt held store s history m (c.keyIn key) := by
  obtain ⟨e, he, hw⟩ := hw
  induction hn with
  | refl =>
    left
    rw [System.after_succ store _ he]
    exact (held_of_wins hs hw).2
  | @step n' hn ih =>
    rcases ih with hrec | ⟨m, hnm, hmn, hr⟩
    · cases he' : history[n']? with
      | none =>
        left
        rw [System.after_succ_of_none store _ he', hrec]
      | some e' =>
        have hstep := System.after_succ store (System.fresh s) he'
        rcases held_meet hs (ha e' (List.mem_of_getElem? he'))
            ((System.fresh s).after store history n') (c.keyIn key) with
          h | h | ⟨i', c', -, -, hnone, -⟩ | ⟨-, hnone, -⟩
        · left
          rw [hstep, h, hrec]
        · right
          refine ⟨n', hn, Nat.lt_succ_self n', ?_, ?_⟩
          · rw [hrec]
            exact Option.some_ne_none _
          · rw [hstep, h]
        · rw [hrec] at hnone
          cases hnone
        · rw [hrec] at hnone
          cases hnone
    · exact Or.inr ⟨m, hnm, by omega, hr⟩

/-- An incident is the turn of one call only. -/
theorem WonAt.same_call {n i i' : Nat} {c c' : Cluster} (hw : WonAt store s history n i c)
    (hw' : WonAt store s history n i' c') : i = i' := by
  obtain ⟨e, he, hw⟩ := hw
  obtain ⟨e', he', hw'⟩ := hw'
  rw [he] at he'
  cases he'
  cases hw.1.symm.trans hw'.1
  rfl

/-- Between two wins of one key the record is removed. -/
theorem removed_between_wins (hs : AtomicStore key held store)
    (ha : ∀ e ∈ history, e.Allowed held) {n i n' i' : Nat} {c c' : Cluster}
    (hw : WonAt store s history n i c) (hw' : WonAt store s history n' i' c')
    (hk : c.keyIn key = c'.keyIn key) (hn : n < n') :
    ∃ m, n < m ∧ m < n' ∧ RemovedAt held store s history m (c.keyIn key) := by
  rcases record_stays hs ha hw hn with hrec | hr
  · obtain ⟨e', -, hw'⟩ := hw'
    have hnone := (held_of_wins hs hw').1
    rw [← hk, hrec] at hnone
    cases hnone
  · exact hr

/-- A record that was not there at first and that no other party creates is that of a winner. -/
theorem won_of_held (hs : AtomicStore key held store) (ha : ∀ e ∈ history, e.Allowed held)
    {k : κ} (h0 : held s.state k = none)
    (ho : ∀ n, ¬ CreatedByOthersAt held store s history n k) {n : Nat} {r : LockRecord}
    (h : held ((System.fresh s).after store history n).state k = some r) :
    ∃ m i c, m < n ∧ c.keyIn key = k ∧ WonAt store s history m i c ∧ r = .forCluster c := by
  induction n with
  | zero =>
    have h : held s.state k = some r := h
    rw [h0] at h
    cases h
  | succ n ih =>
    have hearlier : held ((System.fresh s).after store history n).state k = some r →
        ∃ m i c, m < n + 1 ∧ c.keyIn key = k ∧ WonAt store s history m i c ∧
          r = .forCluster c := by
      intro hprev
      obtain ⟨m, i, c, hm, hk, hw, hr⟩ := ih hprev
      exact ⟨m, i, c, by omega, hk, hw, hr⟩
    cases he : history[n]? with
    | none =>
      rw [System.after_succ_of_none store _ he] at h
      exact hearlier h
    | some e =>
      have hstep := System.after_succ store (System.fresh s) he
      rcases held_meet hs (ha e (List.mem_of_getElem? he))
          ((System.fresh s).after store history n) k with
        heq | hnone | ⟨i, c, hw, hk, -, hrec⟩ | hothers
      · rw [hstep, heq] at h
        exact hearlier h
      · rw [hstep, hnone] at h
        cases h
      · rw [hstep, hrec] at h
        exact ⟨n, i, c, Nat.lt_succ_self n, hk, ⟨e, he, hw⟩, (Option.some.inj h).symm⟩
      · rw [← hstep] at hothers
        exact absurd ⟨e, he, hothers⟩ (ho n)

/-- As long as there is a record under the key, it stays the same. -/
theorem held_stays (hs : AtomicStore key held store) (ha : ∀ e ∈ history, e.Allowed held)
    {k : κ} {n n' : Nat} (hn : n ≤ n')
    (h : ∀ m, n ≤ m → m ≤ n' → held ((System.fresh s).after store history m).state k ≠ none) :
    held ((System.fresh s).after store history n').state k =
      held ((System.fresh s).after store history n).state k := by
  induction hn with
  | refl => rfl
  | @step n' hn ih =>
    rw [← ih fun m hm hm' => h m hm (by omega)]
    have hprev := h n' hn (Nat.le_succ n')
    have hnext := h (n' + 1) (Nat.le_succ_of_le hn) (Nat.le_refl _)
    cases he : history[n']? with
    | none => rw [System.after_succ_of_none store _ he]
    | some e =>
      rw [System.after_succ store _ he] at hnext ⊢
      rcases held_meet hs (ha e (List.mem_of_getElem? he))
          ((System.fresh s).after store history n') k with
        heq | hnone | ⟨i, c, -, -, hnone, -⟩ | ⟨-, hnone, -⟩
      · exact heq
      · exact absurd hnone hnext
      · exact absurd hnone hprev
      · exact absurd hnone hprev

/-- What mutual exclusion says of a run. -/
structure Exclusive (key : String → String → κ) (held : σ → Contents κ) (store : RecordStore σ)
    (s : Session σ) (history : List (Incident σ)) : Prop where
  /-- An acquire is told yes if and only if its create has succeeded at some moment. -/
  granted_iff_won : ∀ i c,
    ((System.fresh s).after store history history.length).Granted i c ↔
      ∃ n, WonAt store s history n i c
  won_once : ∀ n n' i c c', WonAt store s history n i c → WonAt store s history n' i c' → n = n'
  /-- From that moment on the record under the key is the winner's until it is removed. -/
  record_stays : ∀ n i c n', WonAt store s history n i c → n < n' →
    held ((System.fresh s).after store history n').state (c.keyIn key) = some (.forCluster c) ∨
      ∃ m, n < m ∧ m < n' ∧ RemovedAt held store s history m (c.keyIn key)
  /-- Between two wins of one key the record is removed. -/
  removed_between : ∀ n i c n' i' c', WonAt store s history n i c →
    WonAt store s history n' i' c' → c.keyIn key = c'.keyIn key → n < n' →
      ∃ m, n < m ∧ m < n' ∧ RemovedAt held store s history m (c.keyIn key)
  /-- If there is no record at first and no other party creates one, and if none is removed, at
  most one acquire of the key is told yes. -/
  at_most_one : ∀ k, held s.state k = none → (∀ n, ¬ RemovedAt held store s history n k) →
    (∀ n, ¬ CreatedByOthersAt held store s history n k) →
    ∀ i i' c c', c.keyIn key = k → c'.keyIn key = k →
      ((System.fresh s).after store history history.length).Granted i c →
      ((System.fresh s).after store history history.length).Granted i' c' → i = i'
  /-- Exactly one is, if the store does not fail some acquire's create. -/
  exactly_one : ∀ k, held s.state k = none → (∀ n, ¬ RemovedAt held store s history n k) →
    (∀ n, ¬ CreatedByOthersAt held store s history n k) →
    (∃ n i c, c.keyIn key = k ∧ DecidedAt held store s history key n i c) →
      ∃! i, ∃ c, c.keyIn key = k ∧
        ((System.fresh s).after store history history.length).Granted i c

theorem granted_iff_won (s : Session σ) (history : List (Incident σ)) (i : Nat) (c : Cluster) :
    ((System.fresh s).after store history history.length).Granted i c ↔
      ∃ n, WonAt store s history n i c := by
  constructor
  · intro hg
    obtain ⟨n, e, -, he, hw⟩ := System.wins_of_granted_after store hg
    exact ⟨n, e, he, hw⟩
  · rintro ⟨n, e, he, hw⟩
    have hlt : n < history.length := (List.getElem?_eq_some_iff.1 he).1
    have hg := System.granted_of_wins store hw
    rw [← System.after_succ store _ he] at hg
    exact System.granted_after_mono store hg hlt

theorem at_most_one_granted (hs : AtomicStore key held store)
    (ha : ∀ e ∈ history, e.Allowed held) {k : κ}
    (hr : ∀ n, ¬ RemovedAt held store s history n k) {i i' : Nat} {c c' : Cluster}
    (hk : c.keyIn key = k) (hk' : c'.keyIn key = k)
    (hg : ((System.fresh s).after store history history.length).Granted i c)
    (hg' : ((System.fresh s).after store history history.length).Granted i' c') : i = i' := by
  obtain ⟨n, hw⟩ := (granted_iff_won s history i c).1 hg
  obtain ⟨n', hw'⟩ := (granted_iff_won s history i' c').1 hg'
  rcases Nat.lt_trichotomy n n' with hn | rfl | hn
  · obtain ⟨m, -, -, hm⟩ := removed_between_wins hs ha hw hw' (hk.trans hk'.symm) hn
    rw [hk] at hm
    exact absurd hm (hr m)
  · exact hw.same_call hw'
  · obtain ⟨m, -, -, hm⟩ := removed_between_wins hs ha hw' hw (hk'.trans hk.symm) hn
    rw [hk'] at hm
    exact absurd hm (hr m)

/-- A create that the store does not fail means that the key is won at some moment: either by
that create or, if it meets a record, earlier. -/
theorem won_of_decided (hs : AtomicStore key held store) (ha : ∀ e ∈ history, e.Allowed held)
    {k : κ} (h0 : held s.state k = none)
    (ho : ∀ n, ¬ CreatedByOthersAt held store s history n k) {n i : Nat} {c : Cluster}
    (hk : c.keyIn key = k) (hd : DecidedAt held store s history key n i c) :
    ∃ n' i' c', c'.keyIn key = k ∧ WonAt store s history n' i' c' := by
  obtain ⟨fault, he, hcall, hheld | ⟨a, s', hok⟩⟩ := hd
  · rw [hk] at hheld
    obtain ⟨r, hr⟩ := Option.ne_none_iff_exists'.1 hheld
    obtain ⟨m, i', c', -, hk', hw, -⟩ := won_of_held hs ha h0 ho hr
    exact ⟨m, i', c', hk', hw⟩
  · cases fault with
    | some e => cases hok
    | none => exact ⟨n, i, c, hk, _, he, rfl, hcall, a, s', hok⟩

/-- **Mutual exclusion rests on create alone**: on a store that creates atomically, whatever its
probe answers, with any number of lockers, any faults and any other parties. -/
theorem mutual_exclusion (hs : AtomicStore key held store) (s : Session σ)
    (history : List (Incident σ)) (ha : ∀ e ∈ history, e.Allowed held) :
    Exclusive key held store s history where
  granted_iff_won := granted_iff_won s history
  won_once := by
    rintro n n' i c c' ⟨e, he, hw⟩ ⟨e', he', hw'⟩
    exact Nat.le_antisymm (System.wins_unique store he' hw' hw)
      (System.wins_unique store he hw hw')
  record_stays := fun _ _ _ _ hw hn => record_stays hs ha hw hn
  removed_between := fun _ _ _ _ _ _ hw hw' hk hn => removed_between_wins hs ha hw hw' hk hn
  at_most_one := fun _ _ hr _ _ _ _ _ hk hk' hg hg' => at_most_one_granted hs ha hr hk hk' hg hg'
  exactly_one := by
    intro k h0 hr ho ⟨n, i, c, hk, hd⟩
    obtain ⟨n', i', c', hk', hw⟩ := won_of_decided hs ha h0 ho hk hd
    have hg := (granted_iff_won s history i' c').2 ⟨n', hw⟩
    refine ⟨i', ⟨c', hk', hg⟩, ?_⟩
    rintro j ⟨cj, hkj, hgj⟩
    exact at_most_one_granted hs ha hr hkj hk' hgj hg

end

/-! ## Stores in memory -/

theorem memoryStore_atomic : AtomicStore recordKey MemoryStore.lookup memoryStore where
  get_keeps ns name m := by rw [memoryStore, MemoryStore.get_snd]
  create_ok r s a s' h := by
    obtain ⟨hn, -, rfl⟩ := MemoryStore.create_ok h
    exact ⟨hn, MemoryStore.lookup_create_of_none hn⟩
  create_error _ _ _ _ h := by rw [MemoryStore.create_error h]
  delete_ok ns name m m' h := by
    have hm : m' = (m.delete ns name).2 := (congrArg Prod.snd h).symm
    rw [hm, MemoryStore.lookup_delete]
  delete_error ns name m e m' h := by rw [MemoryStore.delete_error h]

/-- A store in memory whose probe never sees a record, so that every acquire goes on to create. -/
def blindStore : RecordStore MemoryStore :=
  { memoryStore with get := fun ns name m => (.error (.notFound ns name), m) }

theorem blindStore_atomic : AtomicStore recordKey MemoryStore.lookup blindStore :=
  { memoryStore_atomic with get_keeps := fun _ _ _ => rfl }

/-- Another party may delete through the store itself. -/
theorem AtomicStore.interferes_delete [DecidableEq κ] {key : String → String → κ}
    {held : σ → Contents κ} {store : RecordStore σ} (hs : AtomicStore key held store)
    (ns name : String) : Interferes held fun s => (store.delete ns name s).2 := by
  intro s
  dsimp only
  cases h : store.delete ns name s with
  | mk answer s' =>
    cases answer with
    | ok u => exact Or.inr ⟨key ns name, Or.inl (hs.delete_ok _ _ _ _ h)⟩
    | error e => exact Or.inl (hs.delete_error _ _ _ _ _ h)

/-- Two acquires of one cluster pass the probe; the first one to create wins, its record is
deleted by another party, and so the second one wins too. -/
def blindRace (c : Cluster) : List (Incident MemoryStore) :=
  [.lock (.start {} [] .acquire c), .lock (.start {} [] .acquire c), .lock (.turn 0 none),
    .lock (.turn 1 none), .lock (.turn 0 none),
    .others fun m => (m.delete c.ns c.lockName).2, .lock (.turn 1 none)]

theorem blindRace_allowed (c : Cluster) :
    ∀ e ∈ blindRace c, e.Allowed MemoryStore.lookup := by
  intro e he
  simp only [blindRace, List.mem_cons, List.not_mem_nil, or_false] at he
  rcases he with rfl | rfl | rfl | rfl | rfl | rfl | rfl
  all_goals first
    | trivial
    | exact memoryStore_atomic.interferes_delete c.ns c.lockName

/-- Both acquires of `blindRace` are told yes, so the record was removed in between. -/
theorem mutual_exclusion_blindRace :
    let c : Cluster := ⟨"ns1", "cl1", "abc-123", "cluster.x-k8s.io/v1beta1", "Cluster"⟩
    AtomicStore recordKey MemoryStore.lookup blindStore ∧
      (∀ e ∈ blindRace c, e.Allowed MemoryStore.lookup) ∧
      (∃ n, WonAt blindStore ⟨∅, {}⟩ (blindRace c) n 0 c) ∧
      (∃ n, WonAt blindStore ⟨∅, {}⟩ (blindRace c) n 1 c) ∧
      ∃ m, RemovedAt MemoryStore.lookup blindStore ⟨∅, {}⟩ (blindRace c) m
        (c.keyIn recordKey) := by
  intro c
  have hc : ((System.fresh ⟨∅, {}⟩).after blindStore (blindRace c) 7).calls =
      [⟨.acquire, c, [lockSpan c], .finished (.acquire .acquired)⟩,
        ⟨.acquire, c, [lockSpan c], .finished (.acquire .acquired)⟩] := by decide +kernel
  have hx := mutual_exclusion blindStore_atomic ⟨∅, {}⟩ (blindRace c) (blindRace_allowed c)
  obtain ⟨n, hw⟩ := (hx.granted_iff_won 0 c).1 ⟨_, congrArg (·[0]?) hc, rfl, rfl, rfl⟩
  obtain ⟨n', hw'⟩ := (hx.granted_iff_won 1 c).1 ⟨_, congrArg (·[1]?) hc, rfl, rfl, rfl⟩
  refine ⟨blindStore_atomic, blindRace_allowed c, ⟨n, hw⟩, ⟨n', hw'⟩, ?_⟩
  rcases Nat.lt_trichotomy n n' with hn | rfl | hn
  · obtain ⟨m, -, -, hm⟩ := hx.removed_between _ _ _ _ _ _ hw hw' rfl hn
    exact ⟨m, hm⟩
  · cases hw.same_call hw'
  · obtain ⟨m, -, -, hm⟩ := hx.removed_between _ _ _ _ _ _ hw' hw rfl hn
    exact ⟨m, hm⟩

end ClusterLock
