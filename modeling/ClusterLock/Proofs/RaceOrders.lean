import ClusterLock.Proofs.RaceTally

/-
  Races by the orders in which the lockers go. Any order of the probes and any order of what follows
  them makes a race (`Race.of_orders`), whoever the lockers are, so that there are races of any size
  and on any store. The race that is run with both orders the same (`race`) is one of them
  (`race_eq_run`).
-/
namespace ClusterLock

variable {σ : Type}

/-- The calls of these lockers, each from where its caller is, are begun. -/
def startMoves (verb : Verb) (c : Cluster) (ls : List (Locker × Scope)) : List Move :=
  ls.map fun l => .start l.1 l.2 verb c

/-- The calls take their turns in this order. -/
def turnMoves (order : List Nat) : List Move := order.map fun i => .turn i none

theorem Phase.advance_ne_probing (store : RecordStore σ) (verb : Verb) (c : Cluster) (p : Phase)
    (s : σ) : (p.advance store verb c s).1 ≠ .probing := by
  cases p with
  | probing => exact verb.afterProbe_ne_probing _
  | deciding => nofun
  | finished o => nofun

theorem Phase.isFinished_advance (store : RecordStore σ) (verb : Verb) (c : Cluster) {p : Phase}
    (h : p ≠ .probing) (s : σ) : (p.advance store verb c s).1.isFinished = true := by
  cases p with
  | probing => exact absurd rfl h
  | deciding => rfl
  | finished o => rfl

namespace System

variable (store : RecordStore σ)

/-- The call in this place, if there is one, has probed. -/
def Past (S : System σ) (i : Nat) : Prop := ∀ call, S.calls[i]? = some call → call.phase ≠ .probing

/-- The call in this place, if there is one, is over. -/
def Over (S : System σ) (i : Nat) : Prop := ∀ call, S.calls[i]? = some call → call.isFinished

/-- What a turn brings about for its call, and keeps for the others, holds in the end of every call
that has had one. -/
theorem turns_spec {I : System σ → Prop} {P : System σ → Nat → Prop}
    (hkept : ∀ S i, I S → I (S.move store (.turn i none)))
    (hself : ∀ S i, I S → P (S.move store (.turn i none)) i)
    (hother : ∀ S i j, I S → P S j → P (S.move store (.turn i none)) j) (order : List Nat)
    {S : System σ} (hS : I S) {i : Nat} (hi : i ∈ order ∨ P S i) :
    P (S.run store (turnMoves order)) i := by
  induction order generalizing S with
  | nil =>
    rcases hi with hi | hi
    · cases hi
    · exact hi
  | cons j order ih =>
    have hrest : i ∈ order ∨ P (S.move store (.turn j none)) i := by
      rcases hi with hi | hi
      · rcases List.mem_cons.1 hi with rfl | hi
        · exact Or.inr (hself S i hS)
        · exact Or.inl hi
      · exact Or.inr (hother S j i hS hi)
    exact ih (hkept S j hS) hrest

theorem Past.turn {S : System σ} {j : Nat} (h : S.Past j) (i : Nat) :
    (S.move store (.turn i none)).Past j := by
  intro call hcall
  rcases getElem?_move_cases store hcall with hold | ⟨_, _, _, _, hm, -⟩ |
    ⟨fault, before, -, -, -, rfl⟩
  · exact h call hold
  · cases hm
  · exact Phase.advance_ne_probing _ _ _ _ _

theorem past_turn (S : System σ) (i : Nat) : (S.move store (.turn i none)).Past i := by
  intro call hcall
  cases h : S.calls[i]? with
  | none =>
    rw [move_turn_of_none store h, h] at hcall
    cases hcall
  | some before =>
    rw [getElem?_move_turn store h] at hcall
    cases hcall
    exact Phase.advance_ne_probing _ _ _ _ _

theorem over_turn {S : System σ} {i : Nat} (h : S.Past i) :
    (S.move store (.turn i none)).Over i := by
  intro call hcall
  cases hi : S.calls[i]? with
  | none =>
    rw [move_turn_of_none store hi, hi] at hcall
    cases hcall
  | some before =>
    rw [getElem?_move_turn store hi] at hcall
    cases hcall
    exact Phase.isFinished_advance _ _ _ (h before hi) _

theorem Over.turn {S : System σ} {j : Nat} (h : S.Over j) (i : Nat) :
    (S.move store (.turn i none)).Over j := by
  intro call hcall
  rcases getElem?_move_cases store hcall with hold | ⟨_, _, _, _, hm, -⟩ |
    ⟨fault, before, -, hbefore, hf, rfl⟩
  · exact h call hold
  · cases hm
  · rw [h before hbefore] at hf
    cases hf

/-- A call that has had a turn has probed, and one that has had another is over. -/
theorem past_turns (order : List Nat) (S : System σ) {i : Nat} (hi : i ∈ order) :
    (S.run store (turnMoves order)).Past i :=
  turns_spec store (I := fun _ => True) (P := Past) (fun _ _ _ => trivial)
    (fun S i _ => S.past_turn store i) (fun _ i _ _ hj => hj.turn store i) order trivial
    (Or.inl hi)

theorem over_turns (order : List Nat) {S : System σ} (hS : ∀ i, S.Past i) {i : Nat}
    (hi : i ∈ order) : (S.run store (turnMoves order)).Over i :=
  turns_spec store (I := fun S => ∀ i, S.Past i) (P := Over)
    (fun _ i hS j => (hS j).turn store i) (fun _ i hS => over_turn store (hS i))
    (fun _ i _ _ hj => hj.turn store i) order hS (Or.inl hi)

theorem length_turns (order : List Nat) (S : System σ) :
    (S.run store (turnMoves order)).calls.length = S.calls.length := by
  induction order generalizing S with
  | nil => rfl
  | cons i order ih =>
    refine (ih (S.move store (.turn i none))).trans ?_
    cases h : S.calls[i]? with
    | none => rw [move_turn_of_none store h]
    | some call => rw [calls_move_turn store h, List.length_set]

end System

/-! ## Any orders -/

theorem opening_append (store : RecordStore σ) (verb : Verb) (c : Cluster) (S : System σ)
    (ms ms' : List Move) :
    Opening store verb c S (ms ++ ms') ↔
      Opening store verb c S ms ∧ Opening store verb c (S.run store ms) ms' := by
  induction ms generalizing S with
  | nil => exact ⟨fun h => ⟨trivial, h⟩, And.right⟩
  | cons m ms ih =>
    simp only [List.cons_append, Opening, ih, System.run_cons, and_assoc]

/-- Beginnings are allowed before the barrier, and the calls begun still have to probe. -/
theorem opening_starts (store : RecordStore σ) (verb : Verb) {c : Cluster} (hc : c.Complete)
    (ls : List (Locker × Scope)) {S : System σ} (hS : ∀ call ∈ S.calls, call.phase = .probing) :
    Opening store verb c S (startMoves verb c ls) ∧
      (S.run store (startMoves verb c ls)).calls.length = S.calls.length + ls.length ∧
      ∀ call ∈ (S.run store (startMoves verb c ls)).calls, call.phase = .probing := by
  induction ls generalizing S with
  | nil => exact ⟨trivial, rfl, hS⟩
  | cons l ls ih =>
    have hcalls := System.calls_move_start store S l.1 l.2 verb c
    have hphase : (verb.start c).1 = .probing := by rw [Verb.start_fst, if_pos (Or.inr hc)]
    have hmove : ∀ call ∈ (S.move store (.start l.1 l.2 verb c)).calls, call.phase = .probing := by
      intro call hmem
      rw [hcalls, List.mem_append, List.mem_singleton] at hmem
      rcases hmem with hmem | rfl
      · exact hS call hmem
      · exact hphase
    obtain ⟨hopening, hlength, hprobing⟩ := ih hmove
    refine ⟨⟨⟨rfl, rfl⟩, hopening⟩, ?_, hprobing⟩
    refine hlength.trans ?_
    rw [hcalls, List.length_append, List.length_singleton, List.length_cons]
    omega

/-- So are turns in any order in which no call has two. -/
theorem opening_turns (store : RecordStore σ) (verb : Verb) (c : Cluster) {order : List Nat}
    (horder : order.Nodup) {S : System σ}
    (hS : ∀ i ∈ order, ∀ call, S.calls[i]? = some call → call.phase = .probing) :
    Opening store verb c S (turnMoves order) := by
  induction order generalizing S with
  | nil => trivial
  | cons i order ih =>
    obtain ⟨hi, horder⟩ := List.nodup_cons.1 horder
    refine ⟨⟨rfl, fun call hcall => ?_⟩, ih horder fun j hj call hcall => ?_⟩
    · rw [hS i List.mem_cons_self call hcall]
      nofun
    · have hne : j ≠ i := fun h => hi (h ▸ hj)
      refine hS j (List.mem_cons_of_mem _ hj) call ?_
      cases h : S.calls[i]? with
      | none => rwa [System.move_turn_of_none store h] at hcall
      | some before => rwa [System.getElem?_move_turn_of_ne store h none hne] at hcall

/-- **Any two orders make a race**, whoever the lockers are and whatever the store. -/
theorem Race.of_orders (store : RecordStore σ) (s : σ) (verb : Verb) {c : Cluster}
    (hc : c.Complete) (ls : List (Locker × Scope)) {first second : List Nat}
    (hfirst : first.Perm (List.range ls.length)) (hsecond : second.Perm (List.range ls.length)) :
    Race store s verb c ls.length (startMoves verb c ls ++ turnMoves first)
      (turnMoves second) := by
  obtain ⟨hopening, hlength, hprobing⟩ := opening_starts store verb hc ls
    (S := System.fresh ⟨s, {}⟩) (fun call hmem => by cases hmem)
  generalize hstarted : (System.fresh ⟨s, {}⟩).run store (startMoves verb c ls) = S at *
  have hbegun : (S.run store (turnMoves first)).calls.length = ls.length := by
    rw [System.length_turns, hlength, System.fresh, List.length_nil, Nat.zero_add]
  -- every call stands in a place of either order
  have hplace : ∀ {T : System σ} {order : List Nat}, T.calls.length = ls.length →
      order.Perm (List.range ls.length) → ∀ i call, T.calls[i]? = some call → i ∈ order := by
    intro T order hT horder i call hcall
    obtain ⟨hi, -⟩ := List.getElem?_eq_some_iff.1 hcall
    exact horder.mem_iff.2 (List.mem_range.2 (hT ▸ hi))
  have hpast : ∀ i, (S.run store (turnMoves first)).Past i := fun i call hcall =>
    System.past_turns store first S (hplace hbegun hfirst i call hcall) call hcall
  refine ⟨?_, ?_, ?_, ?_, ?_⟩
  · rw [opening_append, hstarted]
    refine ⟨hopening, opening_turns store verb c ?_ fun i _ call hcall => ?_⟩
    · exact hfirst.nodup_iff.2 List.nodup_range
    · exact hprobing call (List.mem_of_getElem? hcall)
  · rw [System.run_append, hstarted]
    exact hbegun
  · intro call hmem
    rw [System.run_append, hstarted] at hmem
    obtain ⟨i, hi⟩ := List.getElem?_of_mem hmem
    exact hpast i call hi
  · intro m hm
    obtain ⟨i, -, rfl⟩ := List.mem_map.1 hm
    exact ⟨i, rfl⟩
  · intro call hmem
    rw [System.run_append, System.run_append, hstarted] at hmem
    obtain ⟨i, hi⟩ := List.getElem?_of_mem hmem
    have hover : ((S.run store (turnMoves first)).run store (turnMoves second)).calls.length =
        ls.length := (System.length_turns store second _).trans hbegun
    exact System.over_turns store second hpast (hplace hover hsecond i call hi) call hi

/-! ## The race that is run -/

theorem LockCall.leave_close_enter (j : Journal) (caller : Scope) (p : Phase) :
    (close (j.enter caller) p).leave = close j p := by
  cases p with
  | probing => rfl
  | deciding => rfl
  | finished o =>
    cases h : o.counter? with
    | none =>
      simp only [close, h]
      rfl
    | some k =>
      simp only [close, h]
      rfl

theorem LockCall.current_close (j : Journal) (p : Phase) : (close j p).current = j.current := by
  cases p with
  | probing => rfl
  | deciding => rfl
  | finished o =>
    cases h : o.counter? with
    | none => simp only [close, h]
    | some k =>
      simp only [close, h]
      rfl

/-- A caller that is where it is already makes no difference. -/
theorem System.move_start_current (store : RecordStore σ) (S : System σ) (l : Locker)
    (verb : Verb) (c : Cluster) :
    S.move store (.start l S.session.journal.current verb c) =
      ⟨S.calls ++ [(l.start verb c S.session).1], (l.start verb c S.session).2⟩ := by
  simp only [System.move, Locker.start, Journal.current_enter, Journal.writeAll_eq]
  congr 2
  exact LockCall.leave_close_enter { S.session.journal with
    events := S.session.journal.events ++
      (verb.start c).2.map (⟨·, l.callScope verb c S.session.journal.current⟩) } _ _

theorem Locker.current_start (l : Locker) (verb : Verb) (c : Cluster) (s : Session σ) :
    (l.start verb c s).2.journal.current = s.journal.current := by
  simp only [Locker.start, Journal.writeAll_eq, LockCall.current_close]
  rfl

/-- The beginnings of a race. -/
theorem startAll_eq_run (store : RecordStore σ) (verb : Verb) (c : Cluster) (n : Nat)
    {S : System σ} {caller : Scope} (h : S.session.journal.current = caller) :
    S.run store (startMoves verb c (List.replicate n ({}, caller))) =
      ⟨S.calls ++ (startAll verb c n S.session).1, (startAll verb c n S.session).2⟩ := by
  induction n generalizing S with
  | zero => rw [startAll, List.append_nil]; rfl
  | succ n ih =>
    have hmove := S.move_start_current store {} verb c
    rw [h] at hmove
    have hrest := ih (S := S.move store (.start {} caller verb c)) (by
      rw [hmove]
      exact (Locker.current_start _ verb c S.session).trans h)
    refine hrest.trans ?_
    rw [hmove, startAll]
    simp only [List.append_assoc, List.singleton_append]

/-- A round of turns. -/
theorem round_eq_run (store : RecordStore σ) (done rest : List LockCall) (s : Session σ) :
    (⟨done ++ rest, s⟩ : System σ).run store
        (turnMoves (List.range' done.length rest.length)) =
      ⟨done ++ (round store rest s).1, (round store rest s).2⟩ := by
  induction rest generalizing done s with
  | nil => rfl
  | cons call rest ih =>
    have hcall : (done ++ call :: rest)[done.length]? = some call := by simp
    have hmove : (⟨done ++ call :: rest, s⟩ : System σ).move store (.turn done.length none) =
        ⟨(done ++ [(call.step store s).1]) ++ rest, (call.step store s).2⟩ := by
      simp only [System.move, hcall, RecordStore.failing_none]
      simp
    have hlength : (done ++ [(call.step store s).1]).length = done.length + 1 := by simp
    have hrest := ih (done ++ [(call.step store s).1]) (call.step store s).2
    rw [hlength] at hrest
    rw [List.length_cons, List.range'_succ]
    refine (congrArg (System.run store · _) hmove).trans (hrest.trans ?_)
    rw [round]
    simp only [List.append_assoc, List.singleton_append]

theorem length_startAll (verb : Verb) (c : Cluster) (n : Nat) (s : Session σ) :
    (startAll verb c n s).1.length = n := by
  induction n generalizing s with
  | zero => rfl
  | succ n ih => rw [startAll, List.length_cons, ih]

theorem length_round (store : RecordStore σ) (calls : List LockCall) (s : Session σ) :
    (round store calls s).1.length = calls.length := by
  induction calls generalizing s with
  | nil => rfl
  | cons call calls ih => rw [round, List.length_cons, List.length_cons, ih]

/-- **The race that is run** is the one in which the lockers go in the order of their beginnings. -/
theorem race_eq_run (store : RecordStore σ) (s : σ) (verb : Verb) (c : Cluster) (n : Nat) :
    (System.fresh ⟨s, {}⟩).run store (startMoves verb c (List.replicate n ({}, [])) ++
        turnMoves (List.range n) ++ turnMoves (List.range n)) =
      ⟨(race store verb c n ⟨s, {}⟩).1, (race store verb c n ⟨s, {}⟩).2⟩ := by
  have hround : ∀ (calls : List LockCall) (s : Session σ), calls.length = n →
      (⟨calls, s⟩ : System σ).run store (turnMoves (List.range n)) =
        ⟨(round store calls s).1, (round store calls s).2⟩ := by
    intro calls s hn
    rw [List.range_eq_range', ← hn]
    exact round_eq_run store [] calls s
  have hstart : (System.fresh ⟨s, {}⟩).run store
      (startMoves verb c (List.replicate n ({}, []))) =
        ⟨(startAll verb c n ⟨s, {}⟩).1, (startAll verb c n ⟨s, {}⟩).2⟩ :=
    startAll_eq_run store verb c n (S := System.fresh ⟨s, {}⟩) rfl
  rw [System.run_append, System.run_append, hstart, hround _ _ (length_startAll verb c n _),
    hround _ _ ((length_round store _ _).trans (length_startAll verb c n _))]
  rfl

end ClusterLock
