import Mathlib.Algebra.BigOperators.Group.List.Basic
import Mathlib.Algebra.GroupWithZero.Nat
import Mathlib.Data.Finset.Card
import ClusterLock.Proofs.MemoryTurn

/-
  The books of a store in memory. `LockCall.counter?` is the counter that a call has raised, and
  `System.ended?` the call that a move brings to its end. A move counts for nothing but that call
  (`countP_calls_move`), raises its counter (`counts_move`), and changes the contents of the store
  only as that call has (`leaves_of_ended?`). So after any schedule the counters that have been
  raised are those of the calls (`countP_counts`), and for every set of keys the store holds what
  it held at first, and what was acquired, less what was released (`balanced_run`).
  `books_balance` says it of the totals that an observer reads.
-/
namespace ClusterLock

/-- How a call ends that raises this counter. -/
def Counter.outcome : Counter → Outcome
  | acquire o => .acquire o
  | release o => .release o

namespace LockCall

/-- A call that has come to its end has done so in an outcome of its own verb. -/
def Own (call : LockCall) : Prop := ∀ o, call.phase = .finished o → o.verb = call.verb

/-- The counter that a call has raised. -/
def counter? (call : LockCall) : Option Counter :=
  match call.phase with
  | .finished o => o.counter?
  | _ => none

theorem counter?_eq_some {call : LockCall} {k : Counter} :
    call.counter? = some k ↔ call.phase = .finished k.outcome := by
  obtain ⟨verb, c, scope, phase⟩ := call
  cases phase with
  | probing => exact ⟨nofun, nofun⟩
  | deciding => exact ⟨nofun, nofun⟩
  | finished o => cases o <;> cases k <;> simp [counter?, Outcome.counter?, Counter.outcome]

theorem isFinished_of_any {call : LockCall} {p : Counter → Bool} (h : call.counter?.any p) :
    call.isFinished := by
  obtain ⟨verb, c, scope, phase⟩ := call
  cases phase with
  | probing => cases h
  | deciding => cases h
  | finished o => rfl

theorem toList_counter? (call : LockCall) : call.counter?.toList = call.phase.counters := by
  obtain ⟨verb, c, scope, phase⟩ := call
  cases phase <;> rfl

/-- The counters that a call raises if it has come to its end. -/
theorem filterMap_counter?_filter (call : LockCall) :
    ((some call).filter (·.isFinished)).toList.filterMap counter? = call.phase.counters := by
  cases hf : call.isFinished with
  | true =>
    rw [Option.filter_some_pos hf, Option.toList_some, ← toList_counter?]
    cases h : call.counter? <;> simp [h]
  | false =>
    rw [Option.filter_some_neg (by simp [hf]), Option.toList_none, List.filterMap_nil,
      Phase.counters_of_not_finished hf]

end LockCall

/-! ## Calls that come to their end -/

namespace System

variable {σ : Type} (store : RecordStore σ)

/-- The call that a move brings to its end, as it is then. -/
def ended? (S : System σ) : Move → Option LockCall
  | .start l caller verb c =>
    (some ⟨verb, c, l.callScope verb c caller, (verb.start c).1⟩ : Option LockCall).filter
      (·.isFinished)
  | .turn i fault =>
    match S.calls[i]? with
    | none => none
    | some call =>
      if call.isFinished then none
      else (some { call with
        phase := (call.phase.advance (store.failing fault) call.verb call.cluster
          S.state).1 }).filter (·.isFinished)

/-- A turn does nothing, or it is the turn of a call under way. -/
theorem turn_cases (S : System σ) (i : Nat) (fault : Option StoreError) :
    (S.move store (.turn i fault) = S ∧ S.ended? store (.turn i fault) = none) ∨
      ∃ call, S.calls[i]? = some call ∧ call.isFinished = false ∧
        S.ended? store (.turn i fault) = (some { call with
          phase := (call.phase.advance (store.failing fault) call.verb call.cluster
            S.state).1 }).filter (·.isFinished) := by
  cases h : S.calls[i]? with
  | none => exact Or.inl ⟨move_turn_of_none store h fault, by simp only [ended?, h]⟩
  | some call =>
    cases hf : call.isFinished with
    | true =>
      exact Or.inl ⟨move_turn_of_isFinished store h fault hf, by simp only [ended?, h, hf, if_pos]⟩
    | false =>
      refine Or.inr ⟨call, rfl, hf, ?_⟩
      simp only [ended?, h, hf, Bool.false_eq_true, if_false]

/-- To a test that only finished calls pass, a move adds the call that it brings to its end. -/
theorem countP_calls_move (S : System σ) (m : Move) {q : LockCall → Bool}
    (hq : ∀ call, q call = true → call.isFinished = true) :
    (S.move store m).calls.countP q = S.calls.countP q + (S.ended? store m).toList.countP q := by
  have hfails : ∀ call : LockCall, call.isFinished = false → ¬ q call = true := by
    intro call hf h
    rw [hq call h] at hf
    cases hf
  have hone : ∀ call : LockCall, ((some call).filter (·.isFinished)).toList.countP q =
      if q call = true then 1 else 0 := by
    intro call
    cases hf : call.isFinished with
    | true => rw [Option.filter_some_pos hf, Option.toList_some, List.countP_singleton]
    | false =>
      rw [Option.filter_some_neg (by simp [hf]), Option.toList_none, List.countP_nil,
        if_neg (hfails call hf)]
  cases m with
  | start l caller verb c =>
    rw [calls_move_start, List.countP_append, List.countP_singleton, ended?, hone]
  | turn i fault =>
    rcases turn_cases store S i fault with ⟨hidle, hnone⟩ | ⟨call, h, hf, hended⟩
    · rw [hidle, hnone, Option.toList_none, List.countP_nil, Nat.add_zero]
    · obtain ⟨hi, hcall⟩ := List.getElem?_eq_some_iff.1 h
      rw [calls_move_turn store h fault, List.countP_set hi, hcall, if_neg (hfails call hf),
        hended, hone, Nat.sub_zero]

theorem counts_move (S : System σ) (m : Move) :
    (S.move store m).counts =
      S.counts ++ (S.ended? store m).toList.filterMap LockCall.counter? := by
  cases m with
  | start l caller verb c =>
    rw [counts_move_start, ended?, LockCall.filterMap_counter?_filter]
  | turn i fault =>
    rcases turn_cases store S i fault with ⟨hidle, hnone⟩ | ⟨call, h, hf, hended⟩
    · rw [hidle, hnone, Option.toList_none, List.filterMap_nil, List.append_nil]
    · rw [counts_move_turn store h fault, hf, hended, LockCall.filterMap_counter?_filter]
      rfl

/-- Counting counters is counting the calls that have raised them. -/
theorem countP_counts (s : σ) (ms : List Move) (p : Counter → Bool) :
    ((fresh ⟨s, {}⟩).run store ms).counts.countP p =
      ((fresh ⟨s, {}⟩).run store ms).calls.countP (·.counter?.any p) := by
  refine run_invariant store (P := fun S => S.counts.countP p = S.calls.countP (·.counter?.any p))
    (fun S m h => ?_) rfl ms
  have hany : ∀ call : LockCall, (call.counter?.map p).getD false = call.counter?.any p := by
    intro call
    cases call.counter? <;> rfl
  rw [counts_move, List.countP_append, h, List.countP_filterMap,
    countP_calls_move store S m fun _ => LockCall.isFinished_of_any]
  simp only [hany]

/-- All calls that have come to their end have done so in outcomes of their own verbs. -/
theorem own_run (s : Session σ) (ms : List Move) :
    ∀ call ∈ ((fresh s).run store ms).calls, call.Own := by
  intro call hmem
  obtain ⟨i, hi⟩ := List.getElem?_of_mem hmem
  have hstart : ∀ verb c scope, LockCall.Own ⟨verb, c, scope, (verb.start c).1⟩ :=
    fun verb c _ _ ho => verb.verb_start c ho
  have hturn : ∀ (call : LockCall) fault s, call.Own → LockCall.Own { call with
      phase := (call.phase.advance (store.failing fault) call.verb call.cluster s).1 } :=
    fun call _ s h _ ho => call.verb.verb_advance _ call.cluster h s ho
  exact run_invariant store
    (P := fun S => ∀ (i : Nat) (call : LockCall), S.calls[i]? = some call → call.Own)
    (fun _ m h => all_calls_move store hstart hturn h m) (fun i call hc => by cases hc) ms i call hi

end System

/-! ## What the store holds -/

/-- A move changes the contents as the call that it brings to its end has. -/
theorem leaves_of_ended? {S : System MemoryStore} {m : Move} {call : LockCall}
    (h : S.ended? memoryStore m = some call) :
    call.phase.Leaves call.cluster S.state (S.move memoryStore m).state := by
  cases m with
  | start l caller verb c =>
    rw [System.ended?] at h
    obtain ⟨hcall, -⟩ := Option.filter_eq_some_iff.1 h
    cases hcall
    exact Phase.leaves_start c S.state verb
  | turn i fault =>
    rcases System.turn_cases memoryStore S i fault with ⟨-, hnone⟩ | ⟨before, hi, hf, hended⟩
    · rw [hnone] at h
      cases h
    · rw [hended] at h
      obtain ⟨hcall, -⟩ := Option.filter_eq_some_iff.1 h
      cases hcall
      rw [System.state_move_turn memoryStore hi]
      exact Phase.leaves_advance before.cluster S.state before.verb hf fault

/-- A move that brings no call to its end leaves the contents as they were. -/
theorem state_of_ended?_eq_none {S : System MemoryStore} {m : Move}
    (h : S.ended? memoryStore m = none) : (S.move memoryStore m).state = S.state := by
  cases m with
  | start l caller verb c => rfl
  | turn i fault =>
    rcases System.turn_cases memoryStore S i fault with ⟨hidle, -⟩ | ⟨before, hi, hf, hended⟩
    · rw [hidle]
    · rw [hended] at h
      have hpending := Option.filter_eq_none_iff.1 h _ rfl
      rw [Bool.not_eq_true] at hpending
      rw [System.state_move_turn memoryStore hi]
      exact (Phase.leaves_of_not_finished _ hpending).1
        (Phase.leaves_advance before.cluster S.state before.verb hf fault)

/-! ## The balance -/

/-- The number of records under the keys of a set. -/
def MemoryStore.sizeIn (m : MemoryStore) (p : String → Bool) : Nat :=
  (m.keys.filter (p · = true)).card

theorem MemoryStore.sizeIn_true (m : MemoryStore) : (m.sizeIn fun _ => true) = m.size := by
  rw [sizeIn, Finset.filter_true_of_mem fun _ _ => rfl, keys,
    List.toFinset_card_of_nodup m.nodup, List.length_map, size]

theorem MemoryStore.sizeIn_eq (m : MemoryStore) (k : String) :
    (m.sizeIn (· == k)) = if (m.lookup k).isSome then 1 else 0 := by
  simp only [sizeIn, beq_iff_eq, Finset.filter_eq', mem_keys]
  split <;> rfl

/-- Whether a call on a cluster of the set has raised the counter. -/
def LockCall.raised (p : String → Bool) (counter : Counter) (call : LockCall) : Bool :=
  p call.cluster.key && call.counter? == some counter

theorem LockCall.raised_eq (p : String → Bool) (counter : Counter) (call : LockCall) :
    call.raised p counter = (p call.cluster.key && call.counter?.any (· == counter)) := by
  unfold raised
  cases call.counter? <;> rfl

theorem LockCall.isFinished_of_raised {p : String → Bool} {counter : Counter} {call : LockCall}
    (h : call.raised p counter) : call.isFinished := by
  rw [raised_eq, Bool.and_eq_true] at h
  exact isFinished_of_any h.2

/-- What a call takes out of the store and what it puts in. -/
theorem sizeIn_of_leaves {call : LockCall} {met left : MemoryStore}
    (h : call.phase.Leaves call.cluster met left) (p : String → Bool) :
    left.sizeIn p + [call].countP (·.raised p (.release .released)) =
      met.sizeIn p + [call].countP (·.raised p (.acquire .acquired)) := by
  simp only [MemoryStore.sizeIn, LockCall.raised, List.countP_singleton]
  rcases Phase.leaves_cases h with ⟨hphase, hnone, hleft⟩ | ⟨hphase, hsome, hleft⟩ |
    ⟨hacquire, hrelease, hleft⟩
  · have hraised : call.counter? = some (.acquire .acquired) := LockCall.counter?_eq_some.2 hphase
    have hkeys : left.keys = insert call.cluster.key met.keys := by
      rw [hleft, MemoryStore.keys_create, LockRecord.key_forCluster]
    have hfree : call.cluster.key ∉ met.keys := MemoryStore.lookup_eq_none_iff.1 hnone
    rw [hkeys, hraised, Finset.filter_insert]
    cases hp : p call.cluster.key with
    | false => rfl
    | true => exact Finset.card_insert_of_notMem fun hmem => hfree (Finset.mem_filter.1 hmem).1
  · have hraised : call.counter? = some (.release .released) := LockCall.counter?_eq_some.2 hphase
    have hkeys : left.keys = met.keys.erase call.cluster.key := by
      rw [hleft, MemoryStore.keys_delete, Cluster.key]
    have hheld : call.cluster.key ∈ met.keys := MemoryStore.mem_keys.2 hsome
    rw [hkeys, hraised, Finset.filter_erase]
    cases hp : p call.cluster.key with
    | false =>
      rw [Finset.erase_eq_of_notMem fun hmem => by simp [hp] at hmem]
      rfl
    | true => exact Finset.card_erase_add_one (Finset.mem_filter.2 ⟨hheld, hp⟩)
  · have hacquired : call.counter? ≠ some (.acquire .acquired) :=
      fun hc => hacquire (LockCall.counter?_eq_some.1 hc)
    have hreleased : call.counter? ≠ some (.release .released) :=
      fun hc => hrelease (LockCall.counter?_eq_some.1 hc)
    simp [hleft, hacquired, hreleased]

/-- For every set of keys, what is left and what was released is what there was and what was
acquired. -/
def Balanced (before : MemoryStore) (calls : List LockCall) (after : MemoryStore) : Prop :=
  ∀ p : String → Bool,
    after.sizeIn p + calls.countP (·.raised p (.release .released)) =
      before.sizeIn p + calls.countP (·.raised p (.acquire .acquired))

/-- **The balance of a run**: any schedule, any faults, calls under way or not. -/
theorem balanced_run (m : MemoryStore) (ms : List Move) :
    Balanced m ((System.fresh ⟨m, {}⟩).run memoryStore ms).calls
      ((System.fresh ⟨m, {}⟩).run memoryStore ms).state := by
  refine System.run_invariant memoryStore (P := fun S => Balanced m S.calls S.state)
    (fun S move h p => ?_) (fun p => rfl) ms
  have hbefore := h p
  rw [System.countP_calls_move memoryStore S move fun _ => LockCall.isFinished_of_raised,
    System.countP_calls_move memoryStore S move fun _ => LockCall.isFinished_of_raised]
  cases hended : S.ended? memoryStore move with
  | none =>
    rw [state_of_ended?_eq_none hended, Option.toList_none, List.countP_nil, List.countP_nil]
    exact hbefore
  | some call =>
    have hstep := sizeIn_of_leaves (leaves_of_ended? hended) p
    rw [Option.toList_some]
    omega

/-! ## What an observer reads -/

/-- A metric, added up over the outcomes that it is split by. -/
def Journal.sum (j : Journal) (name : String) : Nat :=
  ((Counter.all.filter (·.name == name)).map j.total).sum

theorem Counter.sum_count (p : Counter → Bool) (l : List Counter) :
    ((Counter.all.filter p).map (l.count ·)).sum = l.countP p := by
  -- adding up what one more counter is worth to each of the others
  have hone : ∀ (d : Counter) (cs : List Counter),
      (cs.map fun c => if d == c then 1 else 0).sum = cs.count d := by
    intro d cs
    induction cs with
    | nil => rfl
    | cons c cs ih =>
      have hcomm : (d == c) = (c == d) := Bool.beq_comm
      rw [List.map_cons, List.sum_cons, ih, List.count_cons, hcomm]
      omega
  induction l with
  | nil => simp
  | cons d l ih =>
    have hall : Counter.all.count d = 1 := by
      cases d with
      | acquire o => cases o <;> rfl
      | release o => cases o <;> rfl
    have hd : (Counter.all.filter p).count d = if p d then 1 else 0 := by
      cases hp : p d with
      | true => rw [List.count_filter hp, hall, if_pos rfl]
      | false => exact List.count_eq_zero_of_not_mem fun hmem => by simp [hp] at hmem
    simp only [List.count_cons]
    rw [List.sum_map_add, ih, hone, hd, List.countP_cons]

theorem Journal.sum_eq (j : Journal) (name : String) :
    j.sum name = j.counts.countP (·.name == name) :=
  Counter.sum_count _ j.counts

/-- What the counters tell of a call: its verb, that it is finished, and whether it was granted. -/
theorem LockCall.Own.any_counter? {call : LockCall} (h : call.Own) :
    call.counter?.any (·.name == Counter.acquireName) =
        (call.verb == .acquire && call.isFinished) ∧
      call.counter?.any (· == .acquire .acquired) = (call.verb == .acquire && call.granted) ∧
      call.counter?.any (·.name == Counter.releaseName) =
        (call.verb == .release && call.isFinished) ∧
      call.counter?.any (fun c => c == .release .released || c == .release .absent) =
        (call.verb == .release && call.granted) := by
  obtain ⟨verb, c, scope, phase⟩ := call
  cases phase with
  | probing => cases verb <;> exact ⟨rfl, rfl, rfl, rfl⟩
  | deciding => cases verb <;> exact ⟨rfl, rfl, rfl, rfl⟩
  | finished o =>
    have hverb : o.verb = verb := h o rfl
    subst hverb
    cases o with
    | acquire o => cases o <;> exact ⟨rfl, rfl, rfl, rfl⟩
    | release o => cases o <;> exact ⟨rfl, rfl, rfl, rfl⟩
    | found b => exact ⟨rfl, rfl, rfl, rfl⟩
    | unreadable e => exact ⟨rfl, rfl, rfl, rfl⟩

/-- The books of a store that held `m` at first, after the calls of `S` have come as far as they
have: the totals of the counters are numbers of finished calls, and the contents are what they
were at first and what was acquired, less what was released. -/
structure BooksBalance (m : MemoryStore) (S : System MemoryStore) : Prop where
  acquires : S.session.journal.sum Counter.acquireName =
    S.calls.countP fun call => call.verb == .acquire && call.isFinished
  acquired : S.session.journal.total (.acquire .acquired) =
    S.calls.countP fun call => call.verb == .acquire && call.granted
  releases : S.session.journal.sum Counter.releaseName =
    S.calls.countP fun call => call.verb == .release && call.isFinished
  /-- A release that finds nothing to remove is granted too. -/
  released : S.session.journal.total (.release .released) +
      S.session.journal.total (.release .absent) =
    S.calls.countP fun call => call.verb == .release && call.granted
  size : S.state.size + S.session.journal.total (.release .released) =
    m.size + S.session.journal.total (.acquire .acquired)
  /-- Of a key that was free at first, the acquires outnumber the removals by one just as long as
  there is a record. -/
  key : ∀ k, m.lookup k = none →
    S.calls.countP (fun call =>
        call.cluster.key == k && (call.verb == .acquire && call.granted)) =
      S.calls.countP (·.raised (· == k) (.release .released)) +
        if (S.state.lookup k).isSome then 1 else 0

/-- **The books balance** after any schedule of any number of lockers, with any faults, whether or
not there are calls still under way. -/
theorem books_balance (m : MemoryStore) (ms : List Move) :
    BooksBalance m ((System.fresh ⟨m, {}⟩).run memoryStore ms) := by
  have hcounts := System.countP_counts memoryStore m ms
  have hown := System.own_run memoryStore ⟨m, {}⟩ ms
  have hbalance := balanced_run m ms
  generalize (System.fresh ⟨m, {}⟩).run memoryStore ms = S at hcounts hown hbalance ⊢
  have htotal : ∀ c, S.session.journal.total c = S.calls.countP (·.counter?.any (· == c)) :=
    fun c => hcounts (· == c)
  refine ⟨?_, ?_, ?_, ?_, ?_, ?_⟩
  · rw [Journal.sum_eq, hcounts]
    exact List.countP_congr fun call hc => by rw [(hown call hc).any_counter?.1]
  · rw [htotal]
    exact List.countP_congr fun call hc => by rw [(hown call hc).any_counter?.2.1]
  · rw [Journal.sum_eq, hcounts]
    exact List.countP_congr fun call hc => by rw [(hown call hc).any_counter?.2.2.1]
  · have hsum := Counter.sum_count (fun c => c == .release .released || c == .release .absent)
      S.counts
    rw [hcounts] at hsum
    refine hsum.trans ?_
    exact List.countP_congr fun call hc => by rw [(hown call hc).any_counter?.2.2.2]
  · have hsize := hbalance fun _ => true
    simp only [MemoryStore.sizeIn_true, LockCall.raised_eq, Bool.true_and] at hsize
    rwa [htotal, htotal]
  · intro k hk
    have hkey := hbalance (· == k)
    rw [MemoryStore.sizeIn_eq, MemoryStore.sizeIn_eq, hk] at hkey
    have hacquired : S.calls.countP (·.raised (· == k) (.acquire .acquired)) =
        S.calls.countP fun call =>
          call.cluster.key == k && (call.verb == .acquire && call.granted) :=
      List.countP_congr fun call hc => by
        rw [LockCall.raised_eq, (hown call hc).any_counter?.2.1]
    rw [← hacquired]
    simp only [Option.isSome_none, Bool.false_eq_true, if_false] at hkey
    omega

/-- Two acquires and then two releases pass the probe side by side. Of each pair one makes its
change and the other comes too late; a fault and an incomplete cluster are counted as errors. -/
theorem books_balance_crossedCalls :
    let c : Cluster := ⟨"ns1", "cl1", "abc-123", "cluster.x-k8s.io/v1beta1", "Cluster"⟩
    let ms : List Move :=
      [.start {} [] .acquire c, .start {} [] .acquire c, .start {} [] .acquire { c with uid := "" },
        .turn 0 none, .turn 1 none, .turn 1 none, .turn 0 none,
        .start {} [] .release c, .start {} [] .release c, .start {} [] .release c,
        .turn 3 none, .turn 4 none, .turn 5 (some (.unavailable "timeout")), .turn 4 none,
        .turn 3 none]
    let S := (System.fresh ⟨(∅ : MemoryStore), {}⟩).run memoryStore ms
    S.session.journal.counts =
        [.acquire .error, .acquire .acquired, .acquire .lostRace, .release .error,
          .release .released, .release .absent] ∧
      S.session.journal.sum Counter.acquireName = 3 ∧ S.state.size = 0 ∧ BooksBalance ∅ S := by
  intro c ms S
  have hcounts : S.session.journal.counts =
      [.acquire .error, .acquire .acquired, .acquire .lostRace, .release .error,
        .release .released, .release .absent] := by decide +kernel
  have hsum : S.session.journal.sum Counter.acquireName = 3 := by decide +kernel
  have hsize : S.state.size = 0 := by decide +kernel
  exact ⟨hcounts, hsum, hsize, books_balance ∅ ms⟩

end ClusterLock
