import ClusterLock.Proofs.Interleaving
import ClusterLock.Proofs.MemoryContents

/-
  Linearizability over the store in memory. `LockOp.apply` is the lock as one atomic object over
  the set of held keys. A call takes effect in the move that brings it to its end (`effect?`); a
  call comes to its end in the store call that decides it, which is the earliest moment at which
  its answer can be known, so an answer that reaches the caller later orders fewer calls.
  `apply_effect` is the step lemma: the move does to the keys, and answers, what the atomic lock
  does. `linearizable` is the statement about whole runs.
-/
namespace ClusterLock

/-! ## The atomic lock -/

/-- A call as the atomic lock takes it: what is asked, and the fault that hits the call, if any. -/
structure LockOp where
  verb : Verb
  cluster : Cluster
  fault : Option StoreError

namespace LockOp

def key (op : LockOp) : String := recordKey op.cluster.ns op.cluster.lockName

/-- The answer, and the keys that are held afterwards. A call that is hit by a fault and an
acquire or a release of an incomplete cluster change nothing and answer no. -/
def apply (op : LockOp) (held : Finset String) : Except StoreError Bool × Finset String :=
  match op.verb, op.fault with
  | .probe, none => (.ok (decide (op.key ∈ held)), held)
  | .probe, some e => (.error e, held)
  | .acquire, none =>
    if op.cluster.Complete ∧ op.key ∉ held then (.ok true, insert op.key held)
    else (.ok false, held)
  | .release, none =>
    if op.cluster.Complete then (.ok true, held.erase op.key) else (.ok false, held)
  | _, some _ => (.ok false, held)

/-- The answers to calls one after the other, and the keys that are held in the end. -/
def applyAll : List LockOp → Finset String → List (Except StoreError Bool) × Finset String
  | [], held => ([], held)
  | op :: ops, held =>
    let (answer, held) := op.apply held
    let (answers, held) := applyAll ops held
    (answer :: answers, held)

end LockOp

/-! ## Where calls take effect -/

/-- A fault that cannot be taken for an answer of the store. -/
def StoreError.Outside (e : StoreError) : Prop := e.isNotFound = false ∧ e.isAlreadyExists = false

/-- No fault of the move can be taken for an answer of the store. -/
def Move.FaultOutside : Move → Prop
  | .turn _ (some e) => e.Outside
  | _ => True

/-- A call that takes effect: its place among the calls, what it asks, and its answer. -/
structure Effect where
  call : Nat
  op : LockOp
  answer : Except StoreError Bool

/-- The effect of a call that is in this phase after its turn or at its beginning. -/
def Phase.effect? (i : Nat) (op : LockOp) : Phase → Option Effect
  | finished o => some ⟨i, op, o.answer⟩
  | _ => none

namespace System

variable {σ : Type} (store : RecordStore σ)

/-- The call that a move brings to its end. -/
def effect? (S : System σ) : Move → Option Effect
  | .start _ _ verb c => (verb.start c).1.effect? S.calls.length ⟨verb, c, none⟩
  | .turn i fault =>
    match S.calls[i]? with
    | none => none
    | some call =>
      if call.isFinished then none
      else (call.phase.advance (store.failing fault) call.verb call.cluster S.state).1.effect? i
        ⟨call.verb, call.cluster, fault⟩

/-- The calls of a run in the order in which they take effect. -/
def effects (S : System σ) : List Move → List Effect
  | [] => []
  | m :: ms => (S.effect? store m).toList ++ (S.move store m).effects ms

/-- Call `i` has come to its end. -/
def Ended (S : System σ) (i : Nat) : Prop :=
  ∃ call, S.calls[i]? = some call ∧ call.isFinished = true

/-- What takes effect in a move: a call that is refused at its beginning, or one that ends with
its turn. -/
theorem effect?_cases {S : System σ} {m : Move} {x : Effect} (h : S.effect? store m = some x) :
    (∃ l caller verb c o, m = .start l caller verb c ∧ (verb.start c).1 = .finished o ∧
        x = ⟨S.calls.length, ⟨verb, c, none⟩, o.answer⟩) ∨
      ∃ i fault call o, m = .turn i fault ∧ S.calls[i]? = some call ∧ call.isFinished = false ∧
        (call.phase.advance (store.failing fault) call.verb call.cluster S.state).1 =
          .finished o ∧
        x = ⟨i, ⟨call.verb, call.cluster, fault⟩, o.answer⟩ := by
  cases m with
  | start l caller verb c =>
    rw [effect?] at h
    cases hp : (verb.start c).1 with
    | probing => rw [hp] at h; cases h
    | deciding => rw [hp] at h; cases h
    | finished o =>
      rw [hp] at h
      exact Or.inl ⟨l, caller, verb, c, o, rfl, hp, (Option.some.inj h).symm⟩
  | turn i fault =>
    rw [effect?] at h
    cases hc : S.calls[i]? with
    | none => rw [hc] at h; cases h
    | some call =>
      rw [hc] at h
      cases hf : call.isFinished with
      | true =>
        simp only [hf] at h
        cases h
      | false =>
        simp only [hf] at h
        cases hp : (call.phase.advance (store.failing fault) call.verb call.cluster
            S.state).1 with
        | probing => rw [hp] at h; cases h
        | deciding => rw [hp] at h; cases h
        | finished o =>
          rw [hp] at h
          exact Or.inr ⟨i, fault, call, o, rfl, hc, hf, hp, (Option.some.inj h).symm⟩

theorem effects_append (S : System σ) (ms ns : List Move) :
    S.effects store (ms ++ ns) = S.effects store ms ++ (S.run store ms).effects store ns := by
  induction ms generalizing S with
  | nil => rfl
  | cons m ms ih =>
    rw [List.cons_append, effects, effects, ih, run_cons, List.append_assoc]

/-- What has taken effect did so in some move of the run. -/
theorem mem_effects {S : System σ} {ms : List Move} {x : Effect} :
    x ∈ S.effects store ms ↔
      ∃ n m, ms[n]? = some m ∧ (S.run store (ms.take n)).effect? store m = some x := by
  induction ms generalizing S with
  | nil => simp [effects]
  | cons m ms ih =>
    rw [effects, List.mem_append, Option.mem_toList, ih]
    constructor
    · rintro (h | ⟨n, m', hm, hx⟩)
      · exact ⟨0, m, rfl, h⟩
      · exact ⟨n + 1, m', hm, hx⟩
    · rintro ⟨n, m', hm, hx⟩
      cases n with
      | zero =>
        cases hm
        exact Or.inl hx
      | succ n => exact Or.inr ⟨n, m', hm, hx⟩

end System

/-! ## One turn on the store in memory -/

namespace LockOp

variable (c : Cluster) (m : MemoryStore)

/-- A turn that meets a fault ends the call, as the atomic lock does. -/
theorem apply_advance_fault (verb : Verb) {p : Phase} (hf : p.isFinished = false)
    (hv : p = .deciding → verb ≠ .probe) {e : StoreError} (he : e.Outside) :
    ∃ o, p.advance (memoryStore.failing (some e)) verb c m = (.finished o, m) ∧
      apply ⟨verb, c, some e⟩ m.keys = (o.answer, m.keys) := by
  obtain ⟨hn, ha⟩ := he
  cases p with
  | finished o => cases hf
  | probing =>
    simp only [Phase.advance, RecordStore.verdict_failing_some]
    cases e with
    | notFound ns name => cases hn
    | alreadyExists ns name => cases ha
    | unavailable reason => cases verb <;> exact ⟨_, rfl, rfl⟩
    | rejected code reason message => cases verb <;> exact ⟨_, rfl, rfl⟩
    | other reason => cases verb <;> exact ⟨_, rfl, rfl⟩
  | deciding =>
    simp only [Phase.advance, RecordStore.verdict_failing_some]
    cases verb with
    | probe => exact absurd rfl (hv rfl)
    | acquire =>
      cases e with
      | alreadyExists ns name => cases ha
      | _ => exact ⟨_, rfl, rfl⟩
    | release =>
      cases e with
      | notFound ns name => cases hn
      | _ => exact ⟨_, rfl, rfl⟩

/-- The probe of a call: it ends the call with the answer of the atomic lock, or nothing has
happened yet. -/
theorem apply_advance_probing (verb : Verb) (hc : verb = .probe ∨ c.Complete) :
    Phase.probing.advance memoryStore verb c m = (.deciding, m) ∨
      ∃ o, Phase.probing.advance memoryStore verb c m = (.finished o, m) ∧
        apply ⟨verb, c, none⟩ m.keys = (o.answer, m.keys) := by
  simp only [Phase.advance, Verb.probeCall, MemoryStore.verdict_get]
  by_cases hk : recordKey c.ns c.lockName ∈ m.keys
  · rw [if_pos hk]
    cases verb with
    | acquire =>
      refine Or.inr ⟨_, rfl, ?_⟩
      exact if_neg fun h => h.2 hk
    | release => exact Or.inl rfl
    | probe =>
      refine Or.inr ⟨_, rfl, ?_⟩
      simp [apply, key, hk, Outcome.answer, Outcome.granted]
  · rw [if_neg hk]
    cases verb with
    | acquire => exact Or.inl rfl
    | release =>
      refine Or.inr ⟨_, rfl, ?_⟩
      have hc' : c.Complete := hc.resolve_left (by decide)
      simp only [apply, key, if_pos hc', Finset.erase_eq_of_notMem hk]
      rfl
    | probe =>
      refine Or.inr ⟨_, rfl, ?_⟩
      simp [apply, key, hk, Outcome.answer, Outcome.granted]

/-- The create of an acquire and the delete of a release do what the atomic lock does. -/
theorem apply_advance_deciding (verb : Verb) (hv : verb ≠ .probe) (hc : c.Complete) :
    ∃ o, (Phase.deciding.advance memoryStore verb c m).1 = .finished o ∧
      apply ⟨verb, c, none⟩ m.keys =
        (o.answer, (Phase.deciding.advance memoryStore verb c m).2.keys) := by
  simp only [Phase.advance]
  cases verb with
  | probe => exact absurd rfl hv
  | acquire =>
    refine ⟨_, rfl, ?_⟩
    simp only [Verb.decisionCall, MemoryStore.verdict_create, MemoryStore.keys_verdict_create]
    have hkey : (LockRecord.forCluster c).key = recordKey c.ns c.lockName := rfl
    rw [hkey]
    by_cases hk : recordKey c.ns c.lockName ∈ m.keys
    · rw [if_pos hk, Finset.insert_eq_of_mem hk]
      exact if_neg fun h => h.2 hk
    · rw [if_neg hk]
      exact if_pos ⟨hc, hk⟩
  | release =>
    refine ⟨_, rfl, ?_⟩
    simp only [Verb.decisionCall, MemoryStore.verdict_delete, MemoryStore.keys_verdict_delete]
    simp only [apply, key, if_pos hc]
    by_cases hk : recordKey c.ns c.lockName ∈ m.keys
    · rw [if_pos hk]
      rfl
    · rw [if_neg hk]
      rfl

/-- A call that is refused at its beginning answers as the atomic lock does. -/
theorem apply_refused (verb : Verb) (held : Finset String) (h : ¬ (verb = .probe ∨ c.Complete)) :
    apply ⟨verb, c, none⟩ held = (verb.refusal.answer, held) := by
  obtain ⟨hv, hc⟩ := not_or.1 h
  cases verb with
  | probe => exact absurd rfl hv
  | acquire => exact if_neg fun h => hc h.1
  | release => exact if_neg hc

end LockOp

/-! ## One move on the store in memory -/

namespace System

variable {S : System MemoryStore}

/-- A turn of a call under way either ends it, as the atomic lock answers, or leaves the store
and the verb's decision for later. -/
theorem apply_turn (hS : S.Admitted) {i : Nat} {call : LockCall} (h : S.calls[i]? = some call)
    (hf : call.isFinished = false) {fault : Option StoreError}
    (hm : (Move.turn i fault).FaultOutside) :
    (∃ o, (call.phase.advance (memoryStore.failing fault) call.verb call.cluster S.state).1 =
        .finished o ∧
      LockOp.apply ⟨call.verb, call.cluster, fault⟩ S.state.keys =
        (o.answer, (S.move memoryStore (.turn i fault)).state.keys)) ∨
      (call.phase.advance (memoryStore.failing fault) call.verb call.cluster S.state).1 =
        .deciding ∧ (S.move memoryStore (.turn i fault)).state = S.state := by
  rw [state_move_turn memoryStore h]
  have ha := hS i call h
  obtain ⟨verb, c, scope, phase⟩ := call
  cases fault with
  | some e =>
    have hv : phase = .deciding → verb ≠ .probe := by
      rintro rfl
      exact ha.1
    obtain ⟨o, ho, happ⟩ := LockOp.apply_advance_fault c S.state verb hf hv hm
    left
    rw [ho]
    exact ⟨o, rfl, happ⟩
  | none =>
    rw [RecordStore.failing_none]
    cases phase with
    | finished o => cases hf
    | probing =>
      rcases LockOp.apply_advance_probing c S.state verb ha with hd | ⟨o, ho, happ⟩
      · right
        rw [hd]
        exact ⟨rfl, rfl⟩
      · left
        rw [ho]
        exact ⟨o, rfl, happ⟩
    | deciding =>
      obtain ⟨o, ho, happ⟩ := LockOp.apply_advance_deciding c S.state verb ha.1 ha.2
      exact Or.inl ⟨o, ho, happ⟩

/-- A move in which no call takes effect leaves the keys as they are. -/
theorem keys_move_of_effect?_eq_none (hS : S.Admitted) {m : Move} (hm : m.FaultOutside)
    (h : S.effect? memoryStore m = none) : (S.move memoryStore m).state.keys = S.state.keys := by
  cases m with
  | start l caller verb c => rw [state_move_start]
  | turn i fault =>
    cases hc : S.calls[i]? with
    | none => rw [move_turn_of_none memoryStore hc]
    | some call =>
      cases hf : call.isFinished with
      | true => rw [move_turn_of_isFinished memoryStore hc fault hf]
      | false =>
        rcases apply_turn hS hc hf hm with ⟨o, ho, -⟩ | ⟨-, hst⟩
        · rw [effect?, hc] at h
          simp only [hf, ho, Phase.effect?] at h
          cases h
        · rw [hst]

/-- A call that takes effect in a move does to the keys, and answers, what the atomic lock
does. -/
theorem apply_effect (hS : S.Admitted) {m : Move} (hm : m.FaultOutside) {x : Effect}
    (h : S.effect? memoryStore m = some x) :
    x.op.apply S.state.keys = (x.answer, (S.move memoryStore m).state.keys) := by
  rcases effect?_cases memoryStore h with ⟨l, caller, verb, c, o, rfl, ho, rfl⟩ |
    ⟨i, fault, call, o, rfl, hc, hf, ho, rfl⟩
  · rw [state_move_start]
    rw [Verb.start_fst] at ho
    split at ho
    · cases ho
    · rename_i hn
      cases ho
      exact LockOp.apply_refused c verb _ hn
  · rcases apply_turn hS hc hf hm with ⟨o', ho', happ⟩ | ⟨hd, -⟩
    · rw [ho] at ho'
      cases ho'
      exact happ
    · rw [ho] at hd
      cases hd

/-- The calls of a run, in the order in which they take effect, do to the keys and answer what
the atomic lock does. -/
theorem applyAll_effects (hS : S.Admitted) (ms : List Move) (hm : ∀ m ∈ ms, m.FaultOutside) :
    LockOp.applyAll ((S.effects memoryStore ms).map (·.op)) S.state.keys =
      ((S.effects memoryStore ms).map (·.answer), (S.run memoryStore ms).state.keys) := by
  induction ms generalizing S with
  | nil => rfl
  | cons m ms ih =>
    have hrest := ih (hS.move memoryStore m) fun m' hm' => hm m' (List.mem_cons_of_mem _ hm')
    have hfirst := hm m List.mem_cons_self
    cases he : S.effect? memoryStore m with
    | none =>
      rw [effects, he, Option.toList_none, List.nil_append,
        ← keys_move_of_effect?_eq_none hS hfirst he, hrest, run_cons]
    | some x =>
      rw [effects, he, Option.toList_some, List.singleton_append, List.map_cons, List.map_cons,
        LockOp.applyAll, apply_effect hS hfirst he]
      simp only [hrest, run_cons]

end System

/-! ## Calls and their effects -/

namespace System

variable (store : RecordStore σ) {S : System σ}

/-- A move in which a call takes effect brings the call to its end, with the answer that the
effect tells. -/
theorem effect?_spec {m : Move} {x : Effect} (h : S.effect? store m = some x) :
    ¬ S.Ended x.call ∧ ∃ call, (S.move store m).calls[x.call]? = some call ∧
      call.isFinished = true ∧ x.op.verb = call.verb ∧ x.op.cluster = call.cluster ∧
      call.answer? = some x.answer := by
  rcases effect?_cases store h with ⟨l, caller, verb, c, o, rfl, ho, rfl⟩ |
    ⟨i, fault, call, o, rfl, hc, hf, ho, rfl⟩
  · constructor
    · rintro ⟨call, hc, -⟩
      exact absurd (List.getElem?_eq_some_iff.1 hc).1 (Nat.lt_irrefl _)
    · refine ⟨⟨verb, c, l.callScope verb c caller, (verb.start c).1⟩, ?_, ?_, rfl, rfl, ?_⟩
      · rw [calls_move_start, List.getElem?_concat_length]
      · rw [LockCall.isFinished_eq, ho]
        rfl
      · rw [LockCall.answer?, ho]
  · constructor
    · rintro ⟨call', hc', hf'⟩
      rw [hc] at hc'
      cases hc'
      rw [hf] at hf'
      cases hf'
    · refine ⟨_, getElem?_move_turn store hc fault, ?_, rfl, rfl, ?_⟩
      · rw [LockCall.isFinished_eq, ho]
        rfl
      · rw [LockCall.answer?, ho]

/-- A call that comes to its end in a move takes effect in it. -/
theorem effect?_of_ended {m : Move} {i : Nat} (h : (S.move store m).Ended i) (hn : ¬ S.Ended i) :
    ∃ x, S.effect? store m = some x ∧ x.call = i := by
  obtain ⟨call, hc, hf⟩ := h
  rcases getElem?_move_cases store hc with hold | ⟨l, caller, verb, c, rfl, rfl, rfl⟩ |
    ⟨fault, before, rfl, hb, hbf, rfl⟩
  · exact absurd ⟨call, hold, hf⟩ hn
  · rw [LockCall.isFinished_eq] at hf
    rw [effect?]
    cases hp : (verb.start c).1 with
    | finished o => exact ⟨_, rfl, rfl⟩
    | probing => rw [hp] at hf; cases hf
    | deciding => rw [hp] at hf; cases hf
  · rw [LockCall.isFinished_eq] at hf
    simp only [effect?, hb, hbf]
    cases hp : (before.phase.advance (store.failing fault) before.verb before.cluster
        S.state).1 with
    | finished o => exact ⟨_, rfl, rfl⟩
    | probing => rw [hp] at hf; cases hf
    | deciding => rw [hp] at hf; cases hf

theorem Ended.move {i : Nat} (h : S.Ended i) (m : Move) : (S.move store m).Ended i := by
  obtain ⟨call, hc, hf⟩ := h
  exact ⟨call, getElem?_move_of_isFinished store hc hf m, hf⟩

theorem Ended.run {i : Nat} (h : S.Ended i) (ms : List Move) : (S.run store ms).Ended i := by
  obtain ⟨call, hc, hf⟩ := h
  exact ⟨call, getElem?_run_of_isFinished store hc hf ms, hf⟩

theorem Ended.lt_length {i : Nat} (h : S.Ended i) : i < S.calls.length := by
  obtain ⟨call, hc, -⟩ := h
  exact (List.getElem?_eq_some_iff.1 hc).1

/-- The calls that take effect in a run are those that come to their end in it. -/
theorem mem_calls_effects {ms : List Move} {i : Nat} :
    i ∈ (S.effects store ms).map (·.call) ↔ (S.run store ms).Ended i ∧ ¬ S.Ended i := by
  induction ms generalizing S with
  | nil => exact ⟨fun h => absurd h List.not_mem_nil, fun h => absurd h.1 h.2⟩
  | cons m ms ih =>
    rw [effects, List.map_append, List.mem_append, ih, run_cons]
    constructor
    · rintro (h | ⟨hr, hn⟩)
      · obtain ⟨x, hx, rfl⟩ := List.mem_map.1 h
        obtain ⟨hn, call, hc, hf, -⟩ := effect?_spec store (Option.mem_toList.1 hx)
        exact ⟨Ended.run store ⟨call, hc, hf⟩ ms, hn⟩
      · exact ⟨hr, fun h => hn (h.move store m)⟩
    · rintro ⟨hr, hn⟩
      by_cases hm : (S.move store m).Ended i
      · left
        obtain ⟨x, hx, rfl⟩ := effect?_of_ended store hm hn
        exact List.mem_map_of_mem (Option.mem_toList.2 hx)
      · exact Or.inr ⟨hr, hm⟩

/-- No call takes effect twice. -/
theorem nodup_calls_effects (S : System σ) (ms : List Move) :
    ((S.effects store ms).map (·.call)).Nodup := by
  induction ms generalizing S with
  | nil => exact List.nodup_nil
  | cons m ms ih =>
    rw [effects, List.map_append, List.nodup_append]
    refine ⟨?_, ih _, ?_⟩
    · cases S.effect? store m with
      | none => exact List.nodup_nil
      | some x => exact List.nodup_singleton _
    · intro i hi j hj hij
      subst hij
      obtain ⟨x, hx, rfl⟩ := List.mem_map.1 hi
      obtain ⟨-, call, hc, hf, -⟩ := effect?_spec store (Option.mem_toList.1 hx)
      exact ((mem_calls_effects store).1 hj).2 ⟨call, hc, hf⟩

/-! ## Faults -/

/-- In the `n`th move of the run the store call of call `i`, which is under way, meets a fault. -/
def StruckAt (S : System σ) (ms : List Move) (n i : Nat) (e : StoreError) : Prop :=
  ms[n]? = some (.turn i (some e)) ∧
    ∃ call, (S.run store (ms.take n)).calls[i]? = some call ∧ call.isFinished = false

/-- The fault of an effect is the one that the call meets in the move. -/
theorem turn_of_effect?_fault {m : Move} {x : Effect} (h : S.effect? store m = some x)
    {e : StoreError} (he : x.op.fault = some e) :
    m = .turn x.call (some e) ∧
      ∃ call, S.calls[x.call]? = some call ∧ call.isFinished = false := by
  rcases effect?_cases store h with ⟨l, caller, verb, c, o, rfl, ho, rfl⟩ |
    ⟨i, fault, call, o, rfl, hc, hf, ho, rfl⟩
  · cases he
  · have he' : fault = some e := he
    exact ⟨by rw [he'], call, hc, hf⟩

/-- On the store in memory a call takes effect in the move in which it meets a fault. -/
theorem effect?_of_fault {S : System MemoryStore} (hS : S.Admitted) {i : Nat} {e : StoreError}
    (he : e.Outside) {call : LockCall} (hc : S.calls[i]? = some call)
    (hf : call.isFinished = false) :
    ∃ x, S.effect? memoryStore (.turn i (some e)) = some x ∧ x.call = i ∧
      x.op.fault = some e := by
  have hv : call.phase = .deciding → call.verb ≠ .probe := by
    intro hp
    have ha := hS i call hc
    rw [LockCall.Admitted, hp] at ha
    exact ha.1
  obtain ⟨o, ho, -⟩ := LockOp.apply_advance_fault call.cluster S.state call.verb hf hv he
  refine ⟨⟨i, ⟨call.verb, call.cluster, some e⟩, o.answer⟩, ?_, rfl, rfl⟩
  rw [effect?, hc]
  simp only [hf, ho]
  rfl

/-- An effect tells of a fault just when its call met one. -/
theorem fault_iff_struckAt {S : System MemoryStore} (hS : S.Admitted) {ms : List Move}
    (hm : ∀ m ∈ ms, m.FaultOutside) {x : Effect} (hx : x ∈ S.effects memoryStore ms)
    (e : StoreError) :
    x.op.fault = some e ↔ ∃ n, S.StruckAt memoryStore ms n x.call e := by
  constructor
  · intro he
    obtain ⟨n, m, hn, hx⟩ := (mem_effects memoryStore).1 hx
    obtain ⟨rfl, hcall⟩ := turn_of_effect?_fault memoryStore hx he
    exact ⟨n, hn, hcall⟩
  · rintro ⟨n, hn, call, hc, hf⟩
    have ho : e.Outside := hm _ (List.mem_of_getElem? hn)
    obtain ⟨y, hy, hyi, hye⟩ := effect?_of_fault (hS.run memoryStore (ms.take n)) ho hc hf
    have hy : y ∈ S.effects memoryStore ms := (mem_effects memoryStore).2 ⟨n, _, hn, hy⟩
    -- a call takes effect once, so that this is the effect of the call
    have hxy := List.inj_on_of_nodup_map (nodup_calls_effects memoryStore S ms) hy hx hyi
    rw [← hxy, hye]

/-! ## Order -/

/-- At some moment of the run call `i` has come to its end and call `j` has not been begun. -/
def Precedes (S : System σ) (ms : List Move) (i j : Nat) : Prop :=
  ∃ n, (S.run store (ms.take n)).Ended i ∧ (S.run store (ms.take n)).calls.length ≤ j

theorem idxOf_lt_of_precedes {S : System σ} (h0 : ∀ i, ¬ S.Ended i) {ms : List Move} {i j : Nat}
    (h : S.Precedes store ms i j) :
    ((S.effects store ms).map (·.call)).idxOf i <
      ((S.effects store ms).map (·.call)).idxOf j := by
  obtain ⟨n, hi, hj⟩ := h
  have hsplit := S.effects_append store (ms.take n) (ms.drop n)
  rw [List.take_append_drop] at hsplit
  have hmem : i ∈ (S.effects store (ms.take n)).map (·.call) :=
    (mem_calls_effects store).2 ⟨hi, h0 i⟩
  have hnot : j ∉ (S.effects store (ms.take n)).map (·.call) := by
    intro h
    have hlt := ((mem_calls_effects store).1 h).1.lt_length
    omega
  have hlt := List.idxOf_lt_length_of_mem hmem
  rw [hsplit, List.map_append, List.idxOf_append_of_mem hmem, List.idxOf_append_of_notMem hnot]
  omega

end System

/-! ## The linear order -/

/-- The calls of the run that have come to their end, put into this order, are calls of the
atomic lock: it gives the same answers and ends with the same keys. -/
structure Linearizes (s : Session MemoryStore) (ms : List Move) (order : List Effect) : Prop where
  /-- Each call that has come to its end stands in the order once, and no other call does. -/
  nodup : (order.map (·.call)).Nodup
  mem_iff : ∀ i, i ∈ order.map (·.call) ↔ ((System.fresh s).run memoryStore ms).Ended i
  /-- It stands there with its own verb, cluster and answer. -/
  same_call : ∀ x ∈ order, ∃ call,
    ((System.fresh s).run memoryStore ms).calls[x.call]? = some call ∧
      x.op.verb = call.verb ∧ x.op.cluster = call.cluster ∧ call.answer? = some x.answer
  /-- It is hit by a fault just when one of its store calls was. -/
  same_fault : ∀ x ∈ order, ∀ e,
    x.op.fault = some e ↔ ∃ n, (System.fresh s).StruckAt memoryStore ms n x.call e
  /-- A call that had come to its end before another one was begun stands before it. -/
  real_time : ∀ i j, i ∈ order.map (·.call) → j ∈ order.map (·.call) →
    (System.fresh s).Precedes memoryStore ms i j →
      (order.map (·.call)).idxOf i < (order.map (·.call)).idxOf j
  /-- The atomic lock answers alike and ends with the keys that the store ends with. -/
  lawful : LockOp.applyAll (order.map (·.op)) s.state.keys =
    (order.map (·.answer), ((System.fresh s).run memoryStore ms).state.keys)

theorem System.not_ended_fresh {σ : Type} (s : Session σ) (i : Nat) :
    ¬ (System.fresh s).Ended i := by
  rintro ⟨call, hc, -⟩
  cases hc

/-- An effect of the run tells the verb, the cluster and the answer of its call. -/
theorem System.call_of_mem_effects {σ : Type} (store : RecordStore σ) {S : System σ}
    {ms : List Move} {x : Effect} (hx : x ∈ S.effects store ms) :
    ∃ call, (S.run store ms).calls[x.call]? = some call ∧
      x.op.verb = call.verb ∧ x.op.cluster = call.cluster ∧ call.answer? = some x.answer := by
  induction ms generalizing S with
  | nil => cases hx
  | cons m ms ih =>
    rcases List.mem_append.1 hx with h | h
    · obtain ⟨-, call, hc, hf, hv, hcl, ha⟩ := effect?_spec store (Option.mem_toList.1 h)
      exact ⟨call, getElem?_run_of_isFinished store hc hf ms, hv, hcl, ha⟩
    · exact ih h

/-- **Linearizability**: any number of lockers on one store in memory, any schedule and any
faults behave like the atomic lock, call by call in an order that respects real time. -/
theorem linearizable (s : Session MemoryStore) (ms : List Move)
    (hm : ∀ m ∈ ms, m.FaultOutside) : ∃ order, Linearizes s ms order := by
  have hS := System.admitted_fresh s
  refine ⟨(System.fresh s).effects memoryStore ms, ?_⟩
  exact
    { nodup := System.nodup_calls_effects memoryStore _ ms
      mem_iff := fun i =>
        ⟨fun h => ((System.mem_calls_effects memoryStore).1 h).1,
          fun h => (System.mem_calls_effects memoryStore).2 ⟨h, System.not_ended_fresh s i⟩⟩
      same_call := fun x hx => System.call_of_mem_effects memoryStore hx
      same_fault := fun x hx e => System.fault_iff_struckAt hS hm hx e
      real_time := fun i j _ _ h =>
        System.idxOf_lt_of_precedes memoryStore (System.not_ended_fresh s) h
      lawful := System.applyAll_effects hS ms hm }

/-- A schedule in which every branch is taken: of two acquires that have both passed the probe
the second one creates, a release is hit by a fault between its probe and its delete, and a
cluster without an identity is refused. -/
def crossedCalls (c : Cluster) : List Move :=
  [.start {} [] .acquire c, .start {} [] .acquire c, .turn 0 none, .turn 1 none, .turn 1 none,
    .start {} [] .release c, .turn 2 none, .turn 0 none, .turn 2 (some (.unavailable "timeout")),
    .start {} [] .acquire { c with uid := "" }, .start {} [] .probe c, .turn 4 none]

theorem linearizable_crossedCalls :
    let c : Cluster := ⟨"ns1", "cl1", "abc-123", "cluster.x-k8s.io/v1beta1", "Cluster"⟩
    (∀ m ∈ crossedCalls c, m.FaultOutside) ∧
      ((System.fresh ⟨∅, {}⟩).run memoryStore (crossedCalls c)).calls.map LockCall.answer? =
        [some (.ok false), some (.ok true), some (.ok false), some (.ok false),
          some (.ok true)] ∧
      ∃ order, Linearizes ⟨∅, {}⟩ (crossedCalls c) order := by
  intro c
  have hm : ∀ m ∈ crossedCalls c, m.FaultOutside := by
    intro m h
    simp only [crossedCalls, List.mem_cons, List.not_mem_nil, or_false] at h
    rcases h with rfl | rfl | rfl | rfl | rfl | rfl | rfl | rfl | rfl | rfl | rfl | rfl
    all_goals trivial
  exact ⟨hm, by decide +kernel, linearizable ⟨∅, {}⟩ (crossedCalls c) hm⟩

end ClusterLock
