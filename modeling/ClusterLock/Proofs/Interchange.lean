import ClusterLock.Proofs.Interleaving
import ClusterLock.Proofs.MemoryContents
import ClusterLock.Proofs.PlainServer

/-
  The two stores are interchangeable. `Corresponds` relates what a server keeps to what the store
  in memory holds: under each legal namespace and name there is a ConfigMap that stands for the
  record, or nothing on either side. `answer_agree` is the step lemma: a store call gets the same
  answer from both and keeps them so. From it follow sequences of store calls (`answers_agree`),
  turns of lock calls (`advance_agree`) and their schedules (`Alike.run`); `interchangeable` has
  them all.
-/
namespace ClusterLock

/-- Records of legal namespaces and names have keys of their own. -/
theorem recordKey_inj {ns name ns' name' : String} (h1 : Addressable ns) (h2 : Addressable name)
    (h1' : Addressable ns') (h2' : Addressable name')
    (h : recordKey ns name = recordKey ns' name') : ns = ns' ∧ name = name' := by
  have hseg : ∀ a b : String, Addressable a → Addressable b →
      segments '/' (recordKey a b).toList = [a.toList, b.toList] := by
    intro a b ha hb
    have hslash : "/".toList = ['/'] := by decide
    have hlist : (recordKey a b).toList = a.toList ++ ("/".toList ++ b.toList) :=
      toList_append_append _ _ _
    rw [hlist, hslash, List.singleton_append, segments_append ha.slash_notMem,
      segments_of_notMem hb.slash_notMem]
  have heq := hseg ns name h1 h2
  rw [h, hseg ns' name' h1' h2'] at heq
  have h1 := (List.cons.inj heq).1
  have h2 := (List.cons.inj (List.cons.inj heq).2).1
  exact ⟨(String.toList_inj.1 h1).symm, (String.toList_inj.1 h2).symm⟩

/-! ## Full answers -/

namespace RecordStore

variable {σ : Type}

/-- The answer to a call with the record that comes with it. -/
def answer (store : RecordStore σ) (q : StoreCall) (s : σ) :
    Except StoreError (Option LockRecord) × σ :=
  match q with
  | .get ns name => ((store.get ns name s).1.map some, (store.get ns name s).2)
  | .create r => ((store.create r s).1.map some, (store.create r s).2)
  | .delete ns name => ((store.delete ns name s).1.map fun _ => none, (store.delete ns name s).2)

/-- The answers to calls one after the other. -/
def answers (store : RecordStore σ) : List StoreCall → σ →
    List (Except StoreError (Option LockRecord)) × σ
  | [], s => ([], s)
  | q :: qs, s =>
    let (a, s) := store.answer q s
    let (as, s) := answers store qs s
    (a :: as, s)

/-- What a lock call looks at of an answer. -/
theorem verdict_eq_answer (store : RecordStore σ) (q : StoreCall) (s : σ) :
    store.verdict q s = (forget (store.answer q s).1, (store.answer q s).2) := by
  have hforget : ∀ {α β : Type} (f : α → β) (x : Except StoreError α),
      forget (x.map f) = forget x := by
    intro α β f x
    cases x <;> rfl
  cases q with
  | get ns name => rw [verdict_get, answer, hforget]
  | create r => rw [verdict_create, answer, hforget]
  | delete ns name =>
    rw [verdict_delete, answer, hforget]
    cases h : (store.delete ns name s).1 with
    | ok u => exact Prod.ext h rfl
    | error e => exact Prod.ext h rfl

end RecordStore

/-! ## Corresponding contents -/

/-- Under each legal namespace and name the ConfigMap stands for the record, or there is none of
either. -/
def Corresponds (contents : String × String → Option Json) (m : MemoryStore) : Prop :=
  ∀ ns name, IsNamespace ns → IsObjectName name →
    Option.Rel (StandsFor ns) (contents (ns, name)) (m.lookup (recordKey ns name))

/-- The same records are held. -/
theorem Corresponds.isSome_eq {contents : String × String → Option Json} {m : MemoryStore}
    (h : Corresponds contents m) {ns name : String} (hns : IsNamespace ns)
    (hname : IsObjectName name) :
    (contents (ns, name)).isSome = (m.lookup (recordKey ns name)).isSome := by
  have hrel := h ns name hns hname
  cases hv : contents (ns, name) with
  | none =>
    cases hl : m.lookup (recordKey ns name) with
    | none => rfl
    | some r => rw [hv, hl] at hrel; cases hrel
  | some v =>
    cases hl : m.lookup (recordKey ns name) with
    | none => rw [hv, hl] at hrel; cases hrel
    | some r => rfl

/-- A change under one key on either side. -/
theorem Corresponds.update {contents : String × String → Option Json} {m m' : MemoryStore}
    (h : Corresponds contents m) {ns name : String} (hns : IsNamespace ns)
    (hname : IsObjectName name) {v : Option Json} {r : Option LockRecord}
    (hvr : Option.Rel (StandsFor ns) v r)
    (hm : m'.lookup = Function.update m.lookup (recordKey ns name) r) :
    Corresponds (Function.update contents (ns, name) v) m' := by
  intro ns' name' hns' hname'
  rw [hm]
  by_cases hkey : (ns', name') = (ns, name)
  · cases hkey
    rw [Function.update_self, Function.update_self]
    exact hvr
  · rw [Function.update_of_ne hkey, Function.update_of_ne]
    · exact h ns' name' hns' hname'
    · intro heq
      obtain ⟨rfl, rfl⟩ := recordKey_inj hns'.addressable hname'.addressable hns.addressable
        hname.addressable heq
      exact hkey rfl

/-- A call about a legal namespace and name. -/
def StoreCall.Legal (q : StoreCall) : Prop := IsNamespace q.subject.1 ∧ IsObjectName q.subject.2

/-- A cluster whose record has a legal namespace and name. -/
def Cluster.Legal (c : Cluster) : Prop := IsNamespace c.ns ∧ IsObjectName c.lockName

/-- A lock call that comes to the store, if at all, with a legal namespace and name. -/
def Verb.LegalFor (verb : Verb) (c : Cluster) : Prop :=
  c.Legal ∨ (verb ≠ .probe ∧ ¬ c.Complete)

/-- Only legal lock calls are begun. -/
def Move.Legal : Move → Prop
  | .start _ _ verb c => verb.LegalFor c
  | .turn _ _ => True

/-! ## One store call -/

section

variable {σ : Type} {t : Transport σ} {works : σ → Prop}
  {kept : σ → String × String → Option Json} (hs : ConfigMapServer t works kept)
  {s : σ} {m : MemoryStore} (hw : works s) (hc : Corresponds (kept s) m)

/-- The answers to a call agree, and the stores correspond afterwards. -/
def Agree (works : σ → Prop) (kept : σ → String × String → Option Json) {α : Type}
    (x : Except StoreError α × σ) (y : Except StoreError α × MemoryStore) : Prop :=
  x.1 = y.1 ∧ works x.2 ∧ Corresponds (kept x.2) y.2

theorem Agree.map {α β : Type} (f : α → β) {x : Except StoreError α × σ}
    {y : Except StoreError α × MemoryStore} (h : Agree works kept x y) :
    Agree works kept (x.1.map f, x.2) (y.1.map f, y.2) :=
  ⟨by rw [h.1], h.2⟩

include hs hw hc

theorem get_agree {ns name : String} (hns : IsNamespace ns) (hname : IsObjectName name) :
    Agree works kept (ConfigMapStore.get t ns name s) (m.get ns name) := by
  obtain ⟨hw', hk, hsome, hnone⟩ := ConfigMapStore.get_eq hs hw hns hname
  have hrel := hc ns name hns hname
  refine ⟨?_, hw', ?_⟩
  · rw [MemoryStore.get_fst]
    cases hv : kept s (ns, name) with
    | none =>
      rw [hv] at hrel
      cases hl : m.lookup (recordKey ns name) with
      | none => exact hnone hv
      | some r => rw [hl] at hrel; cases hrel
    | some v =>
      rw [hv] at hrel
      cases hl : m.lookup (recordKey ns name) with
      | none => rw [hl] at hrel; cases hrel
      | some r =>
        rw [hl] at hrel
        cases hrel with
        | some hr => exact hsome v r hv hr
  · rw [hk, MemoryStore.get_snd]
    exact hc

theorem create_agree {r : LockRecord} (hns : IsNamespace r.ns) (hname : IsObjectName r.name) :
    Agree works kept (ConfigMapStore.create t r s) (m.create r) := by
  obtain ⟨hw', hsome, hnone⟩ := ConfigMapStore.create_eq hs hw hns hname
  have hsame : _ = (m.lookup r.key).isSome := hc.isSome_eq hns hname
  cases hv : kept s (r.ns, r.name) with
  | some v =>
    rw [hv] at hsame
    obtain ⟨ha, hk⟩ := hsome v hv
    rw [MemoryStore.create_of_isSome hsame.symm]
    refine ⟨ha, hw', ?_⟩
    rw [hk]
    exact hc
  | none =>
    rw [hv] at hsame
    obtain ⟨ha, v, hstands, hk⟩ := hnone hv
    have hl : m.lookup r.key = none := by
      rw [← Option.isNone_iff_eq_none, ← Option.isSome_eq_false_iff]
      exact hsame.symm
    refine ⟨?_, hw', ?_⟩
    · rw [ha, MemoryStore.create_fst, hl]
      rfl
    · rw [hk]
      exact hc.update hns hname (.some hstands) (MemoryStore.lookup_create_of_none hl)

theorem delete_agree {ns name : String} (hns : IsNamespace ns) (hname : IsObjectName name) :
    Agree works kept (ConfigMapStore.delete t ns name s) (m.delete ns name) := by
  obtain ⟨hw', hsome, hnone⟩ := ConfigMapStore.delete_eq hs hw hns hname
  have hrel := hc ns name hns hname
  have hlookup := MemoryStore.lookup_delete ns name m
  cases hv : kept s (ns, name) with
  | none =>
    rw [hv] at hrel
    obtain ⟨ha, hk⟩ := hnone hv
    cases hl : m.lookup (recordKey ns name) with
    | some r => rw [hl] at hrel; cases hrel
    | none =>
      refine ⟨?_, hw', ?_⟩
      · rw [ha, MemoryStore.delete_fst, hl]
        rfl
      · have hsame : kept s = Function.update (kept s) (ns, name) none := by
          rw [← hv, Function.update_eq_self]
        rw [hk, hsame]
        exact hc.update hns hname .none hlookup
  | some v =>
    rw [hv] at hrel
    cases hl : m.lookup (recordKey ns name) with
    | none => rw [hl] at hrel; cases hrel
    | some r =>
      rw [hl] at hrel
      cases hrel with
      | some hr =>
        obtain ⟨ha, hk⟩ := hsome v r hv hr
        refine ⟨?_, hw', ?_⟩
        · rw [ha, MemoryStore.delete_fst, hl]
          rfl
        · rw [hk]
          exact hc.update hns hname .none hlookup

/-- A store call gets the same answer from both stores and leaves them corresponding. -/
theorem answer_agree {q : StoreCall} (hq : q.Legal) :
    Agree works kept ((configMapStore t).answer q s) (memoryStore.answer q m) := by
  cases q with
  | get ns name => exact (get_agree hs hw hc hq.1 hq.2).map some
  | create r => exact (create_agree hs hw hc hq.1 hq.2).map some
  | delete ns name => exact (delete_agree hs hw hc hq.1 hq.2).map fun _ => none

/-- A sequence of store calls gets the same answers from both stores. -/
theorem answers_agree (qs : List StoreCall) (hqs : ∀ q ∈ qs, q.Legal) :
    ((configMapStore t).answers qs s).1 = (memoryStore.answers qs m).1 ∧
      works ((configMapStore t).answers qs s).2 ∧
      Corresponds (kept ((configMapStore t).answers qs s).2) (memoryStore.answers qs m).2 := by
  induction qs generalizing s m with
  | nil => exact ⟨rfl, hw, hc⟩
  | cons q qs ih =>
    obtain ⟨ha, hw', hc'⟩ := answer_agree hs hw hc (hqs q List.mem_cons_self)
    obtain ⟨has, hw'', hc''⟩ := ih hw' hc' fun q' hq' => hqs q' (List.mem_cons_of_mem _ hq')
    refine ⟨?_, hw'', hc''⟩
    simp only [RecordStore.answers, ha, has]

/-! ## One turn of a lock call -/

theorem verdict_agree {q : StoreCall} (hq : q.Legal) :
    Agree works kept ((configMapStore t).verdict q s) (memoryStore.verdict q m) := by
  obtain ⟨ha, hw', hc'⟩ := answer_agree hs hw hc hq
  rw [RecordStore.verdict_eq_answer, RecordStore.verdict_eq_answer]
  exact ⟨by rw [ha], hw', hc'⟩

/-- A fault in the way of either store has the same effect. -/
theorem failing_agree {q : StoreCall} (hq : q.Legal) (fault : Option StoreError) :
    Agree works kept (((configMapStore t).failing fault).verdict q s)
      ((memoryStore.failing fault).verdict q m) := by
  cases fault with
  | none => exact verdict_agree hs hw hc hq
  | some e =>
    rw [RecordStore.verdict_failing_some, RecordStore.verdict_failing_some]
    exact ⟨rfl, hw, hc⟩

/-- A turn of a lock call takes it the same way over both stores. -/
theorem advance_agree (fault : Option StoreError) (verb : Verb) {c : Cluster} {p : Phase}
    (hl : p.isFinished = false → c.Legal) :
    (p.advance ((configMapStore t).failing fault) verb c s).1 =
        (p.advance (memoryStore.failing fault) verb c m).1 ∧
      works (p.advance ((configMapStore t).failing fault) verb c s).2 ∧
      Corresponds (kept (p.advance ((configMapStore t).failing fault) verb c s).2)
        (p.advance (memoryStore.failing fault) verb c m).2 := by
  cases p with
  | finished o => exact ⟨rfl, hw, hc⟩
  | probing =>
    obtain ⟨ha, hw', hc'⟩ := failing_agree hs hw hc (q := Verb.probeCall c) (hl rfl) fault
    simp only [Phase.advance]
    exact ⟨by rw [ha], hw', hc'⟩
  | deciding =>
    have hq : (verb.decisionCall c).Legal := by
      cases verb <;> exact hl rfl
    obtain ⟨ha, hw', hc'⟩ := failing_agree hs hw hc hq fault
    simp only [Phase.advance]
    exact ⟨by rw [ha], hw', hc'⟩

end

/-! ## Schedules and commands -/

section

variable {σ : Type} {t : Transport σ} {works : σ → Prop}
  {kept : σ → String × String → Option Json}

/-- The two systems are at the same point: the same calls in the same phases, the same counters
and corresponding contents. Calls under way are legal. -/
structure Alike (works : σ → Prop) (kept : σ → String × String → Option Json) (S : System σ)
    (M : System MemoryStore) : Prop where
  calls : S.calls = M.calls
  counts : S.counts = M.counts
  works : works S.state
  contents : Corresponds (kept S.state) M.state
  legal : ∀ (i : Nat) (call : LockCall), S.calls[i]? = some call → call.isFinished = false →
    call.cluster.Legal

theorem Alike.fresh {s : Session σ} {m : Session MemoryStore} (hw : works s.state)
    (hc : Corresponds (kept s.state) m.state) (hcount : s.journal.counts = m.journal.counts) :
    Alike works kept (System.fresh s) (System.fresh m) :=
  ⟨rfl, hcount, hw, hc, fun i call h => by cases h⟩

theorem Verb.LegalFor.legal {verb : Verb} {c : Cluster} (h : verb.LegalFor c)
    (hf : ((verb.start c).1).isFinished = false) : c.Legal := by
  refine h.resolve_right ?_
  rintro ⟨hv, hc⟩
  rw [Verb.start_fst, if_neg (not_or.2 ⟨hv, hc⟩)] at hf
  cases hf

variable (hs : ConfigMapServer t works kept)

include hs

theorem Alike.move {S : System σ} {M : System MemoryStore} (h : Alike works kept S M) {mv : Move}
    (hmv : mv.Legal) :
    Alike works kept (S.move (configMapStore t) mv) (M.move memoryStore mv) := by
  cases mv with
  | start l caller verb c =>
    have hl : verb.LegalFor c := hmv
    refine ⟨?_, ?_, h.works, h.contents, ?_⟩
    · rw [System.calls_move_start, System.calls_move_start, h.calls]
    · rw [System.counts_move_start, System.counts_move_start, h.counts]
    · intro i call hi hf
      rcases System.getElem?_move_cases _ hi with hold | ⟨l', caller', verb', c', heq, -, rfl⟩ |
        ⟨fault, before, heq, -⟩
      · exact h.legal i call hold hf
      · cases heq
        exact hl.legal hf
      · cases heq
  | turn i fault =>
    cases hi : S.calls[i]? with
    | none =>
      have hi' : M.calls[i]? = none := by rw [← h.calls, hi]
      rw [System.move_turn_of_none _ hi, System.move_turn_of_none _ hi']
      exact h
    | some call =>
      have hi' : M.calls[i]? = some call := by rw [← h.calls, hi]
      obtain ⟨hphase, hw', hc'⟩ := advance_agree hs h.works h.contents fault call.verb
        (c := call.cluster) (p := call.phase) fun hf => h.legal i call hi hf
      refine ⟨?_, ?_, ?_, ?_, ?_⟩
      · rw [System.calls_move_turn _ hi, System.calls_move_turn _ hi', h.calls, hphase]
      · rw [System.counts_move_turn _ hi, System.counts_move_turn _ hi', h.counts, hphase]
      · rw [System.state_move_turn _ hi]
        exact hw'
      · rw [System.state_move_turn _ hi, System.state_move_turn _ hi']
        exact hc'
      · intro j call' hj hf
        rcases System.getElem?_move_cases _ hj with hold | ⟨l', caller', verb', c', heq, -⟩ |
          ⟨fault', before, heq, hb, hbf, rfl⟩
        · exact h.legal j call' hold hf
        · cases heq
        · exact h.legal j before hb hbf

/-- Every schedule takes the systems to the same point. -/
theorem Alike.run {S : System σ} {M : System MemoryStore} (h : Alike works kept S M)
    (ms : List Move) (hms : ∀ mv ∈ ms, mv.Legal) :
    Alike works kept (S.run (configMapStore t) ms) (M.run memoryStore ms) := by
  induction ms generalizing S M with
  | nil => exact h
  | cons mv ms ih =>
    have hmv := hms mv List.mem_cons_self
    exact ih (h.move hs hmv) fun mv' h' => hms mv' (List.mem_cons_of_mem _ h')

/-- A command gets the same answer over both stores, raises the same counters and leaves the
stores corresponding. -/
theorem execute_agree (l : Locker) (v : Verb) {c : Cluster} (hl : v.LegalFor c) {s : Session σ}
    {m : Session MemoryStore} (hw : works s.state) (hc : Corresponds (kept s.state) m.state)
    (hcount : s.journal.counts = m.journal.counts) :
    (l.execute (configMapStore t) v c s).1 = (l.execute memoryStore v c m).1 ∧
      (l.execute (configMapStore t) v c s).2.journal.counts =
        (l.execute memoryStore v c m).2.journal.counts ∧
      works (l.execute (configMapStore t) v c s).2.state ∧
      Corresponds (kept (l.execute (configMapStore t) v c s).2.state)
        (l.execute memoryStore v c m).2.state := by
  have hmoves : ∀ mv ∈ System.wholeCall 0 l [] v c, mv.Legal := by
    intro mv hmv
    simp only [System.wholeCall, List.mem_cons, List.not_mem_nil, or_false] at hmv
    rcases hmv with rfl | rfl | rfl
    · exact hl
    · trivial
    · trivial
  have halike := (Alike.fresh hw hc hcount).run hs _ hmoves
  obtain ⟨hcalls, hstate, hcounts⟩ := System.run_wholeCall l [] (configMapStore t) v c s
  obtain ⟨hcalls', hstate', hcounts'⟩ := System.run_wholeCall l [] memoryStore v c m
  obtain ⟨a, ha, hexec⟩ := l.execute_eq (configMapStore t) v c s
  obtain ⟨a', ha', hexec'⟩ := l.execute_eq memoryStore v c m
  have hphase : (l.run (configMapStore t) v c s).1.phase = (l.run memoryStore v c m).1.phase := by
    have hone := halike.calls
    rw [hcalls, hcalls'] at hone
    have hphases := congrArg LockCall.phase (List.cons.inj hone).1
    exact hphases
  have haa' : a = a' := by
    rw [LockCall.answer?, hphase] at ha
    rw [LockCall.answer?, ha] at ha'
    exact Option.some.inj ha'
  rw [hexec, hexec', haa', ← hstate, ← hstate', ← hcounts, ← hcounts']
  exact ⟨rfl, halike.counts, halike.works, halike.contents⟩

end

/-- What it means that the stores are interchangeable: from corresponding contents, store calls
get the same answers, lock calls take the same course in every schedule, and commands answer
alike, with the same counters and corresponding contents in the end. -/
structure Interchangeable {σ : Type} (t : Transport σ) (works : σ → Prop)
    (kept : σ → String × String → Option Json) : Prop where
  /-- Any sequence of store calls. -/
  answers : ∀ (qs : List StoreCall) (s : σ) (m : MemoryStore), (∀ q ∈ qs, q.Legal) → works s →
    Corresponds (kept s) m →
      ((configMapStore t).answers qs s).1 = (memoryStore.answers qs m).1 ∧
        Corresponds (kept ((configMapStore t).answers qs s).2) (memoryStore.answers qs m).2
  /-- Any lock calls in any order of their store calls, some of which may meet a fault. -/
  schedules : ∀ (ms : List Move) (s : Session σ) (m : Session MemoryStore),
    (∀ mv ∈ ms, mv.Legal) → works s.state → Corresponds (kept s.state) m.state →
    s.journal.counts = m.journal.counts →
      ((System.fresh s).run (configMapStore t) ms).calls =
          ((System.fresh m).run memoryStore ms).calls ∧
        ((System.fresh s).run (configMapStore t) ms).counts =
          ((System.fresh m).run memoryStore ms).counts ∧
        Corresponds (kept ((System.fresh s).run (configMapStore t) ms).state)
          ((System.fresh m).run memoryStore ms).state
  /-- Any command. -/
  commands : ∀ (l : Locker) (v : Verb) (c : Cluster) (s : Session σ) (m : Session MemoryStore),
    v.LegalFor c → works s.state → Corresponds (kept s.state) m.state →
    s.journal.counts = m.journal.counts →
      (l.execute (configMapStore t) v c s).1 = (l.execute memoryStore v c m).1 ∧
        (l.execute (configMapStore t) v c s).2.journal.counts =
          (l.execute memoryStore v c m).2.journal.counts ∧
        Corresponds (kept (l.execute (configMapStore t) v c s).2.state)
          (l.execute memoryStore v c m).2.state

/-- **The two stores are interchangeable**, whatever the server adds to the ConfigMaps and
however it spells them. -/
theorem interchangeable {σ : Type} {t : Transport σ} {works : σ → Prop}
    {kept : σ → String × String → Option Json} (hs : ConfigMapServer t works kept) :
    Interchangeable t works kept where
  answers := by
    intro qs s m hqs hw hc
    obtain ⟨ha, -, hc'⟩ := answers_agree hs hw hc qs hqs
    exact ⟨ha, hc'⟩
  schedules := by
    intro ms s m hms hw hc hcount
    have halike := (Alike.fresh hw hc hcount).run hs ms hms
    exact ⟨halike.calls, halike.counts, halike.contents⟩
  commands := by
    intro l v c s m hl hw hc hcount
    obtain ⟨ha, hcounts, -, hc'⟩ := execute_agree hs l v hl hw hc hcount
    exact ⟨ha, hcounts, hc'⟩

/-- On a server with no replies laid down that holds nothing yet, a record is created once, read
and deleted. -/
theorem interchangeable_plainServer :
    let r : LockRecord := ⟨"ns1", "abc-123-controlplane",
      [⟨"cluster.x-k8s.io/v1beta1", "Cluster", "cl1", "abc-123"⟩]⟩
    let qs : List StoreCall :=
      [.create r, .create r, .get r.ns r.name, .delete r.ns r.name, .get r.ns r.name]
    ConfigMapServer serverTransport ApiServer.Works ApiServer.kept ∧ (∀ q ∈ qs, q.Legal) ∧
      ApiServer.Works {} ∧ Corresponds (ApiServer.kept {}) ∅ ∧
      ((configMapStore serverTransport).answers qs {}).1 =
        [.ok (some r), .error (.alreadyExists r.ns r.name), .ok (some r), .ok none,
          .error (.notFound r.ns r.name)] := by
  intro r qs
  have hlegal : ∀ q ∈ qs, q.Legal := by
    have hns : IsNamespace r.ns := by decide +kernel
    have hname : IsObjectName r.name := by decide +kernel
    intro q hq
    simp only [qs, List.mem_cons, List.not_mem_nil, or_false] at hq
    rcases hq with rfl | rfl | rfl | rfl | rfl <;> exact ⟨hns, hname⟩
  have hworks : ApiServer.Works {} := ⟨rfl, fun key v h => by cases h⟩
  have hc : Corresponds (ApiServer.kept {}) ∅ := fun ns name _ _ => .none
  refine ⟨ApiServer.configMapServer, hlegal, hworks, hc, ?_⟩
  rw [((interchangeable ApiServer.configMapServer).answers qs {} ∅ hlegal hworks hc).1]
  decide +kernel

end ClusterLock
