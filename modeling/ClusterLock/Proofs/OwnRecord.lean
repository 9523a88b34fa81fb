import ClusterLock.Proofs.PlainServer
import ClusterLock.Proofs.Turn

/-
  What a locker touches on an API server. `Request.subject?` is the ConfigMap that a request is
  about: the server changes no other (`serve_snd`). The request of a store call is about the record
  of the call just when its path is clean (`StoreCall.subject_request`), so that
  `advance_touchedOnly` is about one turn and `touchesOwnOnly_iff` about all calls on a cluster. For
  a uid with a question mark or a hash sign `release_of_marked` says which ConfigMap is deleted in
  place of the record.
-/
namespace ClusterLock

/-! ## What a request is about -/

/-- The name of the ConfigMap that is posted with a body. -/
def postedName (body : Option Json) : String :=
  ((((body.getD .null).member? "metadata").getD .null).member? "name").bind Json.text? |>.getD ""

/-- The ConfigMap that a request is about. -/
def Request.subject? (q : Request) : Option (String × String) :=
  match q.method with
  | .post => (configMapsPath? q.path).map fun ns => (ns, postedName q.body)
  | _ => configMapPath? q.path

theorem Request.subject?_of_ne_post {q : Request} (h : q.method ≠ .post) :
    q.subject? = configMapPath? q.path := by
  unfold subject?
  split
  · rename_i hm
    exact absurd hm h
  · rfl

theorem Request.subject?_of_post {q : Request} (h : q.method = .post) :
    q.subject? = (configMapsPath? q.path).map fun ns => (ns, postedName q.body) := by
  unfold subject?
  rw [h]

theorem postedName_configMap (r : LockRecord) : postedName (some r.configMap) = r.name := rfl

/-! ## What the server does with it -/

namespace ApiServer

/-- The server changes nothing, or it adds or removes the ConfigMap that the request is about. -/
theorem serve_snd (q : Request) (s : ApiServer) :
    (serve q s).2 = s ∨
    (∃ key, q.method = .post ∧ q.subject? = some key ∧ s.configMaps.lookup key = none ∧
      (serve q s).2 = { s with
        configMaps := s.configMaps ++ [(key, stored key.1 key.2 (q.body.getD .null))] }) ∨
    (∃ key, q.method = .delete ∧ q.subject? = some key ∧
      (serve q s).2 = { s with configMaps := s.configMaps.filter (·.1 != key) }) := by
  obtain ⟨method, path, body⟩ := q
  cases method with
  | get =>
    refine Or.inl ?_
    dsimp only [serve]
    split <;> rfl
  | post =>
    rw [Request.subject?_of_post rfl]
    cases hp : configMapsPath? path with
    | none =>
      refine Or.inl ?_
      simp only [serve, hp]
    | some ns =>
      cases hl : s.configMaps.lookup (ns, postedName body) with
      | none =>
        refine Or.inr (Or.inl ⟨(ns, postedName body), rfl, rfl, hl, ?_⟩)
        unfold postedName at hl ⊢
        simp only [serve, hp, hl]
        rfl
      | some v =>
        refine Or.inl ?_
        unfold postedName at hl
        simp only [serve, hp, hl]
        rfl
  | delete =>
    rw [Request.subject?_of_ne_post (by simp)]
    cases hp : configMapPath? path with
    | none =>
      refine Or.inl ?_
      simp only [serve, hp]
    | some key =>
      cases hl : s.configMaps.lookup key with
      | none =>
        refine Or.inl ?_
        simp only [serve, hp, hl]
      | some v =>
        refine Or.inr (Or.inr ⟨key, rfl, rfl, ?_⟩)
        simp only [serve, hp, hl]

theorem lookup_serve {q : Request} {k : String × String} (h : q.subject? ≠ some k)
    (s : ApiServer) : (serve q s).2.configMaps.lookup k = s.configMaps.lookup k := by
  rcases serve_snd q s with hs | ⟨key, -, hq, -, hs⟩ | ⟨key, -, hq, hs⟩
  · rw [hs]
  · have hk : (k == key) = false := by
      rw [beq_eq_false_iff_ne]
      rintro rfl
      exact h hq
    rw [hs]
    simp only [List.lookup_append, List.lookup_cons, hk, List.lookup_nil, Option.or_none]
  · have hk : k ≠ key := by
      rintro rfl
      exact h hq
    rw [hs]
    dsimp only
    rw [lookup_filter_ne, if_neg hk]

theorem requests_serve (q : Request) (s : ApiServer) :
    (serve q s).2.requests = s.requests ∧ (serve q s).2.scripts = s.scripts := by
  rcases serve_snd q s with hs | ⟨key, -, -, -, hs⟩ | ⟨key, -, -, hs⟩
  · rw [hs]
    exact ⟨rfl, rfl⟩
  · rw [hs]
    exact ⟨rfl, rfl⟩
  · rw [hs]
    exact ⟨rfl, rfl⟩

/-- A deleted ConfigMap is gone. -/
theorem lookup_serve_delete {q : Request} (hm : q.method = .delete) {key : String × String}
    (hq : q.subject? = some key) (s : ApiServer) :
    (serve q s).2.configMaps.lookup key = none := by
  rw [Request.subject?_of_ne_post (by rw [hm]; decide)] at hq
  simp only [serve, hm, hq]
  cases hl : s.configMaps.lookup key with
  | none => exact hl
  | some v =>
    dsimp only
    rw [lookup_filter_ne, if_pos rfl]

theorem requests_handle (q : Request) (s : ApiServer) :
    (handle q s).2.requests = s.requests ++ [q] := by
  unfold handle
  dsimp only
  split
  · rfl
  · rw [(requests_serve q _).1]

theorem lookup_handle {q : Request} {k : String × String} (h : q.subject? ≠ some k)
    (s : ApiServer) : (handle q s).2.configMaps.lookup k = s.configMaps.lookup k := by
  unfold handle
  dsimp only
  split
  · rfl
  · rw [lookup_serve h]

end ApiServer

/-- Between the two states only requests about one ConfigMap were made, and no other ConfigMap
is different. -/
structure TouchedOnly (key : String × String) (s s' : ApiServer) : Prop where
  requests : ∃ qs, s'.requests = s.requests ++ qs ∧ ∀ q ∈ qs, q.subject? = some key
  others : ∀ k, k ≠ key → s'.configMaps.lookup k = s.configMaps.lookup k

namespace TouchedOnly

variable {key : String × String} {s s' s'' : ApiServer}

theorem refl (key : String × String) (s : ApiServer) : TouchedOnly key s s :=
  ⟨⟨[], (List.append_nil _).symm, fun _ h => absurd h List.not_mem_nil⟩, fun _ _ => rfl⟩

theorem trans (h : TouchedOnly key s s') (h' : TouchedOnly key s' s'') :
    TouchedOnly key s s'' := by
  obtain ⟨qs, hqs, hown⟩ := h.requests
  obtain ⟨qs', hqs', hown'⟩ := h'.requests
  refine ⟨⟨qs ++ qs', by rw [hqs', hqs, List.append_assoc], fun q hq => ?_⟩, fun k hk => ?_⟩
  · rcases List.mem_append.1 hq with hq | hq
    · exact hown q hq
    · exact hown' q hq
  · rw [h'.others k hk, h.others k hk]

theorem handle {q : Request} (h : q.subject? = some key) (s : ApiServer) :
    TouchedOnly key s (ApiServer.handle q s).2 := by
  refine ⟨⟨[q], ApiServer.requests_handle q s, fun q' hq' => ?_⟩, fun k hk => ?_⟩
  · rw [List.mem_singleton.1 hq']
    exact h
  · refine ApiServer.lookup_handle ?_ s
    rw [h]
    exact fun he => hk (Option.some.inj he).symm

end TouchedOnly

/-! ## The requests of a store call -/

namespace StoreCall

/-- The request that the store of ConfigMaps makes for a call. -/
def request : StoreCall → Except ApiError Request
  | get ns name => Transport.getRequest configMaps ns name
  | create r => Transport.createRequest configMaps r.ns r.configMap
  | delete ns name => Transport.deleteRequest configMaps ns name

/-- What the request has in its path is clean: the name of a new record stands in the body. -/
def CleanPath : StoreCall → Prop
  | get ns name => Clean ns ∧ Clean name
  | create r => Clean r.ns
  | delete ns name => Clean ns ∧ Clean name

end StoreCall

theorem Request.to?_error {method : Method} {target : String} {body : Option Json} {e : ApiError}
    (h : Request.to? method target body = .error e) : ∃ why, e = .unsendable why := by
  unfold Request.to? at h
  split at h
  · cases h
    exact ⟨_, rfl⟩
  · split at h
    · cases h
    · cases h
      exact ⟨_, rfl⟩

/-- A request fails to be built only because nothing could be sent. -/
theorem StoreCall.request_error {q : StoreCall} {e : ApiError} (h : q.request = .error e) :
    ∃ why, e = .unsendable why := by
  cases q with
  | get ns name =>
    by_cases hne : name = ""
    · subst hne
      cases h
      exact ⟨_, rfl⟩
    · exact Request.to?_error ((getRequest_configMaps ns hne).symm.trans h)
  | create r => exact Request.to?_error ((createRequest_configMaps r.ns _).symm.trans h)
  | delete ns name =>
    by_cases hne : name = ""
    · subst hne
      cases h
      exact ⟨_, rfl⟩
    · exact Request.to?_error ((deleteRequest_configMaps ns hne).symm.trans h)

/-- The request of a store call is about the call's record just when its path is clean. -/
theorem StoreCall.subject_request {q : StoreCall} {x : Request} (h : q.request = .ok x) :
    x.subject? = some q.subject ↔ q.CleanPath := by
  cases q with
  | get ns name =>
    have hx := to?_of_getRequest h
    obtain ⟨hm, -, -⟩ := Request.to?_ok hx
    rw [Request.subject?_of_ne_post (by rw [hm]; decide)]
    exact addresses_iff hx
  | create r =>
    have hx := (createRequest_configMaps r.ns _).symm.trans h
    obtain ⟨hm, hb, -⟩ := Request.to?_ok hx
    rw [Request.subject?_of_post hm, hb, postedName_configMap]
    refine Iff.trans ?_ (addressesPlace_iff hx)
    rw [Option.map_eq_some_iff]
    constructor
    · rintro ⟨ns, hns, heq⟩
      cases heq
      exact hns
    · intro hns
      exact ⟨r.ns, hns, rfl⟩
  | delete ns name =>
    have hx := to?_of_deleteRequest h
    obtain ⟨hm, -, -⟩ := Request.to?_ok hx
    rw [Request.subject?_of_ne_post (by rw [hm]; decide)]
    exact addresses_iff hx

section

variable {σ : Type} (t : Transport σ)

/-- A call whose request cannot be built does not reach the server. -/
theorem verdict_of_request_error {q : StoreCall} {e : ApiError} (h : q.request = .error e)
    (s : σ) : ∃ what, (configMapStore t).verdict q s = (.error (.other what), s) := by
  obtain ⟨why, rfl⟩ := StoreCall.request_error h
  refine ⟨(ApiError.unsendable why).message, ?_⟩
  cases q with
  | get ns name =>
    have hr : Transport.getRequest configMaps ns name = .error (.unsendable why) := h
    simp only [RecordStore.verdict_get, configMapStore, ConfigMapStore.get, Transport.ask, hr]
    rfl
  | create r =>
    have hr : Transport.createRequest configMaps r.ns r.configMap = .error (.unsendable why) := h
    simp only [RecordStore.verdict_create, configMapStore, ConfigMapStore.create, Transport.ask,
      hr]
    rfl
  | delete ns name =>
    have hr : Transport.deleteRequest configMaps ns name = .error (.unsendable why) := h
    simp only [RecordStore.verdict_delete, configMapStore, ConfigMapStore.delete, Transport.ask,
      hr]
    rfl

/-- A call does to the server what its request does. -/
theorem verdict_of_request {q : StoreCall} {x : Request} (h : q.request = .ok x) (s : σ) :
    ((configMapStore t).verdict q s).2 = (t.send x s).2 := by
  cases q with
  | get ns name =>
    have hr : Transport.getRequest configMaps ns name = .ok x := h
    simp only [RecordStore.verdict_get, configMapStore, ConfigMapStore.get, Transport.ask, hr]
  | create r =>
    have hr : Transport.createRequest configMaps r.ns r.configMap = .ok x := h
    simp only [RecordStore.verdict_create, configMapStore, ConfigMapStore.create, Transport.ask,
      hr]
  | delete ns name =>
    have hr : Transport.deleteRequest configMaps ns name = .ok x := h
    simp only [RecordStore.verdict_delete, configMapStore, ConfigMapStore.delete, Transport.ask,
      hr]

end

/-! ## What a call touches -/

theorem verdict_touchedOnly {q : StoreCall} (h : q.CleanPath) (s : ApiServer) :
    TouchedOnly q.subject s ((configMapStore serverTransport).verdict q s).2 := by
  cases hr : q.request with
  | error e =>
    obtain ⟨what, hv⟩ := verdict_of_request_error serverTransport hr s
    rw [hv]
    exact TouchedOnly.refl _ s
  | ok x =>
    rw [verdict_of_request serverTransport hr]
    exact TouchedOnly.handle ((StoreCall.subject_request hr).2 h) s

/-- The name of a record is clean just when the uid is. -/
theorem Cluster.clean_lockName (c : Cluster) : Clean c.lockName ↔ Clean c.uid := by
  have hname : c.lockName.toList = c.uid.toList ++ lockSuffix.toList := String.toList_append
  have hsuffix : Clean lockSuffix := by
    have hall : lockSuffix.toList.all (fun d => d ≠ '/' && d ≠ '?' && d ≠ '#') = true := by
      decide +kernel
    intro d hd
    have hd' := List.all_eq_true.1 hall d hd
    simpa [and_assoc] using hd'
  unfold Clean
  rw [hname]
  constructor
  · exact fun h d hd => h d (List.mem_append_left _ hd)
  · intro h d hd
    rcases List.mem_append.1 hd with hd | hd
    · exact h d hd
    · exact hsuffix d hd

/-- The key of a cluster's record on the server. -/
def Cluster.ownKey (c : Cluster) : String × String := (c.ns, c.lockName)

section

variable {c : Cluster} (hns : Clean c.ns) (huid : Clean c.uid)

include hns huid

/-- One turn of a call touches the record of its cluster only. -/
theorem advance_touchedOnly (verb : Verb) (p : Phase) (s : ApiServer) :
    TouchedOnly c.ownKey s (p.advance (configMapStore serverTransport) verb c s).2 := by
  have hname := c.clean_lockName.2 huid
  cases p with
  | finished o => exact TouchedOnly.refl _ s
  | probing =>
    have hclean : (Verb.probeCall c).CleanPath := ⟨hns, hname⟩
    exact verdict_touchedOnly hclean s
  | deciding =>
    have hclean : (verb.decisionCall c).CleanPath := by
      cases verb with
      | acquire => exact hns
      | release => exact ⟨hns, hname⟩
      | probe => exact ⟨hns, hname⟩
    have hsubject : (verb.decisionCall c).subject = c.ownKey := by
      cases verb <;> rfl
    rw [← hsubject]
    exact verdict_touchedOnly hclean s

theorem run_touchedOnly (l : Locker) (verb : Verb) (s : Session ApiServer) :
    TouchedOnly c.ownKey s.state
      (l.run (configMapStore serverTransport) verb c s).2.state := by
  rw [Locker.run_state]
  exact (advance_touchedOnly hns huid verb _ _).trans (advance_touchedOnly hns huid verb _ _)

end

/-! ## Releases -/

theorem Reply.decode_ofJson {α : Type} (v : Json) (read : Reader α) :
    (Reply.ofJson 200 v).decode read =
      (read.run v.sorted.compact.toList).mapError .unreadable := rfl

section

variable {s : ApiServer} (hs : s.scripts = [])

include hs

theorem scripts_verdict (q : StoreCall) :
    ((configMapStore serverTransport).verdict q s).2.scripts = [] := by
  cases hr : q.request with
  | error e =>
    obtain ⟨what, hv⟩ := verdict_of_request_error serverTransport hr s
    rw [hv]
    exact hs
  | ok x =>
    rw [verdict_of_request serverTransport hr, ApiServer.send_eq hs,
      (ApiServer.requests_serve x _).2]
    exact hs

variable {ns name : String} (hns : Clean ns) (hname : Clean name)

include hns hname

/-- A server without replies laid down reports only what is absent as not found. -/
theorem lookup_of_notFound {ns' name' : String}
    (h : ((configMapStore serverTransport).verdict (.get ns name) s).1 =
      .error (.notFound ns' name')) :
    ((configMapStore serverTransport).verdict (.get ns name) s).2.configMaps.lookup
      (ns, name) = none := by
  have hclean : (StoreCall.get ns name).CleanPath := ⟨hns, hname⟩
  cases hr : (StoreCall.get ns name).request with
  | error e =>
    obtain ⟨what, hv⟩ := verdict_of_request_error serverTransport hr s
    rw [hv] at h
    cases h
  | ok x =>
    have hx := to?_of_getRequest hr
    have hm : x.method = .get := (Request.to?_ok hx).1
    have hq : configMapPath? x.path = some (ns, name) := (addresses_iff hx).2 hclean
    cases hl : s.configMaps.lookup (ns, name) with
    | none =>
      rw [verdict_of_request serverTransport hr, ApiServer.send_eq hs, ApiServer.serve_get hm hq]
      dsimp only
      rw [hl]
      exact hl
    | some v =>
      exfalso
      have hget : Transport.getRequest configMaps ns name = .ok x := hr
      have hsend : (serverTransport.send x s).1 = .ofJson 200 v := by
        rw [ApiServer.send_eq hs, ApiServer.serve_get hm hq, hl]
      simp only [RecordStore.verdict_get, configMapStore, ConfigMapStore.get, Transport.ask,
        hget, hsend, Reply.decode_ofJson] at h
      cases hrun : (LockRecord.readConfigMap ns).run v.sorted.compact.toList with
      | ok r => rw [hrun] at h; cases h
      | error e => rw [hrun] at h; cases h

/-- What a server without replies laid down has been asked to delete is absent, unless the
request could not be built. -/
theorem lookup_of_deleted {what : Except StoreError Unit}
    (h : ((configMapStore serverTransport).verdict (.delete ns name) s).1 = what)
    (hwhat : ∀ e, what ≠ .error (.other e)) :
    ((configMapStore serverTransport).verdict (.delete ns name) s).2.configMaps.lookup
      (ns, name) = none := by
  have hclean : (StoreCall.delete ns name).CleanPath := ⟨hns, hname⟩
  cases hr : (StoreCall.delete ns name).request with
  | error e =>
    obtain ⟨e', hv⟩ := verdict_of_request_error serverTransport hr s
    rw [hv] at h
    exact absurd h.symm (hwhat e')
  | ok x =>
    have hx := to?_of_deleteRequest hr
    have hm : x.method = .delete := (Request.to?_ok hx).1
    rw [verdict_of_request serverTransport hr, ApiServer.send_eq hs]
    exact ApiServer.lookup_serve_delete hm ((StoreCall.subject_request hr).2 hclean) _

end

section

variable {c : Cluster} (hns : Clean c.ns) (huid : Clean c.uid) {s : ApiServer}
  (hs : s.scripts = [])

include hns huid hs

theorem lookup_of_released {p : Phase} (hf : p.isFinished = false) {o : Outcome}
    (ho : (p.advance (configMapStore serverTransport) .release c s).1 = .finished o)
    (hg : o.granted = true) :
    (p.advance (configMapStore serverTransport) .release c s).2.configMaps.lookup c.ownKey =
      none := by
  have hname := c.clean_lockName.2 huid
  rcases Verb.release_of_granted _ c s hf ho hg with ⟨rfl, ns, name, hn⟩ | ⟨rfl, hd⟩
  · exact lookup_of_notFound hs hns hname hn
  · refine lookup_of_deleted hs hns hname rfl fun e he => ?_
    rcases hd with hd | ⟨ns, name, hd⟩
    · rw [hd] at he
      cases he
    · rw [hd] at he
      cases he

/-- A whole release that is granted leaves the record absent. -/
theorem lookup_of_run_released (l : Locker) {j : Journal}
    (hg : (l.run (configMapStore serverTransport) .release c ⟨s, j⟩).1.granted = true) :
    (l.run (configMapStore serverTransport) .release c ⟨s, j⟩).2.state.configMaps.lookup
      c.ownKey = none := by
  obtain ⟨o, ho, hgo⟩ := (LockCall.granted_eq _).1 hg
  rw [Locker.run_phase] at ho
  rw [Locker.run_state]
  dsimp only at ho ⊢
  by_cases hc : c.Complete
  · have hp : (Verb.release.start c).1 = .probing := by
      rw [Verb.start_fst, if_pos (Or.inr hc)]
    rw [hp] at ho ⊢
    cases hf : ((Phase.probing.advance (configMapStore serverTransport) .release c
        s).1).isFinished with
    | true =>
      -- the probe was the only turn
      rw [Phase.advance_finished _ _ _ hf] at ho ⊢
      exact lookup_of_released hns huid hs rfl ho hgo
    | false =>
      exact lookup_of_released hns huid (scripts_verdict hs _) hf ho hgo
  · have hp : (Verb.release.start c).1 = .finished (Verb.refusal .release) := by
      rw [Verb.start_fst, if_neg (by simpa using hc)]
    rw [hp] at ho
    cases ho
    cases hgo

end

/-! ## Which clusters touch their own record only -/

/-- Whatever the server holds and answers, no call on the cluster is about another ConfigMap than
that of its record or changes another, and a release that is granted by a server without replies
laid down leaves the record absent. -/
structure TouchesOwnOnly (c : Cluster) : Prop where
  touched : ∀ (l : Locker) (v : Verb) (s : Session ApiServer),
    TouchedOnly c.ownKey s.state (l.execute (configMapStore serverTransport) v c s).2.state
  released : ∀ (l : Locker) (s : Session ApiServer), s.state.scripts = [] →
    (l.execute (configMapStore serverTransport) .release c s).1 = .ok true →
    (l.execute (configMapStore serverTransport) .release c s).2.state.configMaps.lookup
      c.ownKey = none

theorem touchesOwnOnly_of_clean {c : Cluster} (hns : Clean c.ns) (huid : Clean c.uid) :
    TouchesOwnOnly c where
  touched := by
    intro l v s
    rw [Locker.execute_state]
    exact run_touchedOnly hns huid l v s
  released := by
    intro l s hs hg
    rw [Locker.execute_release] at hg
    rw [Locker.execute_state]
    exact lookup_of_run_released hns huid hs l (Except.ok.inj hg)

/-- How a call ends whose probe does not reach the server. -/
def Verb.unreached (what : String) : Verb → Outcome
  | acquire => .acquire .error
  | release => .release .error
  | probe => .unreadable (.other what)

theorem Verb.afterProbe_other (verb : Verb) (what : String) :
    (verb.afterProbe (.error (.other what))).1 = .finished (verb.unreached what) := by
  cases verb <;> rfl

/-- A call on a cluster for which no request can be built does not reach the server. -/
theorem run_of_getRequest_error {c : Cluster} {e : ApiError}
    (h : Transport.getRequest configMaps c.ns c.lockName = .error e) (l : Locker) (v : Verb)
    (s : Session ApiServer) :
    ∃ o, (o = v.refusal ∨ ∃ what, o = v.unreached what) ∧
      (l.run (configMapStore serverTransport) v c s).1.phase = .finished o ∧
      (l.run (configMapStore serverTransport) v c s).2.state = s.state := by
  have hr : (Verb.probeCall c).request = .error e := h
  obtain ⟨what, hv⟩ := verdict_of_request_error serverTransport hr s.state
  have hturn : Phase.probing.advance (configMapStore serverTransport) v c s.state =
      (.finished (v.unreached what), s.state) := by
    rw [Phase.advance, hv, Verb.afterProbe_other]
  rw [Locker.run_phase, Locker.run_state, Verb.start_fst]
  split
  · rw [hturn]
    exact ⟨v.unreached what, Or.inr ⟨what, rfl⟩, rfl, rfl⟩
  · exact ⟨v.refusal, Or.inl rfl, rfl, rfl⟩

theorem touchesOwnOnly_of_getRequest_error {c : Cluster} {e : ApiError}
    (h : Transport.getRequest configMaps c.ns c.lockName = .error e) : TouchesOwnOnly c where
  touched := by
    intro l v s
    obtain ⟨o, -, -, hstate⟩ := run_of_getRequest_error h l v s
    rw [Locker.execute_state, hstate]
    exact TouchedOnly.refl _ _
  released := by
    intro l s hs hg
    obtain ⟨o, ho, hphase, -⟩ := run_of_getRequest_error h l .release s
    rw [Locker.execute_release] at hg
    obtain ⟨o', hphase', hgo⟩ := (LockCall.granted_eq _).1 (Except.ok.inj hg)
    rw [hphase] at hphase'
    cases hphase'
    exfalso
    rcases ho with rfl | ⟨what, rfl⟩
    · cases hgo
    · cases hgo

/-- A probe that can be sent is made, whatever else is on the server. -/
theorem requests_probe {c : Cluster} {q : Request}
    (h : Transport.getRequest configMaps c.ns c.lockName = .ok q) (l : Locker)
    (s : Session ApiServer) :
    (l.execute (configMapStore serverTransport) .probe c s).2.state.requests =
      s.state.requests ++ [q] := by
  have hr : (Verb.probeCall c).request = .ok q := h
  have hfin : ((Phase.probing.advance (configMapStore serverTransport) .probe c
      s.state).1).isFinished = true := by
    rw [Phase.advance]
    cases ((configMapStore serverTransport).verdict (Verb.probeCall c) s.state).1 with
    | ok u => rfl
    | error e => cases e <;> rfl
  have hturn : (Phase.probing.advance (configMapStore serverTransport) .probe c s.state).2 =
      (serverTransport.send q s.state).2 := verdict_of_request serverTransport hr s.state
  rw [Locker.execute_state, Locker.run_state, Verb.start_fst, if_pos (Or.inl rfl),
    Phase.advance_finished (configMapStore serverTransport) .probe c hfin, hturn]
  exact ApiServer.requests_handle q s.state

/-- A locker touches only the record of a cluster just when the namespace and the uid of the
cluster have no slash, question mark or hash sign, or when no request can be built of them. -/
theorem touchesOwnOnly_iff (c : Cluster) :
    TouchesOwnOnly c ↔ (Clean c.ns ∧ Clean c.uid) ∨
      ¬ ∃ q, Transport.getRequest configMaps c.ns c.lockName = .ok q := by
  constructor
  · intro h
    by_cases hq : ∃ q, Transport.getRequest configMaps c.ns c.lockName = .ok q
    · left
      obtain ⟨q, hq⟩ := hq
      -- the first probe of an empty server tells where its request goes
      obtain ⟨qs, hqs, hown⟩ := (h.touched {} .probe ⟨{}, {}⟩).requests
      rw [requests_probe hq] at hqs
      have hmem : q ∈ qs := by
        have hsame : [q] = qs := hqs
        rw [← hsame]
        exact List.mem_singleton_self q
      have hprobe := StoreCall.subject_request (q := Verb.probeCall c) hq
      have hclean : (Verb.probeCall c).CleanPath := hprobe.1 (hown q hmem)
      exact ⟨hclean.1, c.clean_lockName.1 hclean.2⟩
    · exact Or.inr hq
  · rintro (⟨hns, huid⟩ | hq)
    · exact touchesOwnOnly_of_clean hns huid
    · cases hr : Transport.getRequest configMaps c.ns c.lockName with
      | ok q => exact absurd ⟨q, hr⟩ hq
      | error e => exact touchesOwnOnly_of_getRequest_error hr

/-! ## What else is touched -/

/-- Whether a request can be built depends on its target only. -/
theorem Request.to?_of_target {method : Method} {target : String} {body : Option Json}
    {q : Request} (h : Request.to? method target body = .ok q) (method' : Method)
    (body' : Option Json) : ∃ q', Request.to? method' target body' = .ok q' := by
  unfold Request.to? at h ⊢
  by_cases hsize : target.utf8ByteSize > Uri.maxLength
  · rw [if_pos hsize] at h
    cases h
  · rw [if_neg hsize] at h ⊢
    split at h
    · exact ⟨_, rfl⟩
    · cases h

section

variable {σ : Type} {t : Transport σ} {works : σ → Prop} {kept : σ → String × String → Option Json}
  (hs : ConfigMapServer t works kept) {s : σ} (hworks : works s) {ns name w : String}
  (hns : IsNamespace ns) (hw : IsObjectName w) {mark : Char} (hmark : mark = '?' ∨ mark = '#')
  {rest : List Char} (hname : name.toList = w.toList ++ mark :: rest) {q : Request}
  (hq : Transport.getRequest configMaps ns name = .ok q) {v : Json} {r : LockRecord}
  (hv : kept s (ns, w) = some v) (hr : StandsFor ns v r)

include hs hworks hns hw hmark hname hq hv hr

theorem get_of_marked :
    (configMapStore t).verdict (.get ns name) s = (.ok (), (ConfigMapStore.get t ns w s).2) := by
  have hx := to?_of_getRequest hq
  have hcut := request_of_marked hx hns.addressable.clean hw.addressable.clean hmark hname
  subst hcut
  obtain ⟨-, -, hok, -⟩ := ConfigMapStore.get_eq hs hworks hns hw
  have hget := hok v r hv hr
  rw [ConfigMapStore.get_of_addressable t hns.addressable hw.addressable hw.ne_empty] at hget ⊢
  have hdecode := Except.mapError_eq_ok hget
  simp only [RecordStore.verdict_get, configMapStore, ConfigMapStore.get, Transport.ask, hq,
    hdecode]
  rfl

theorem delete_of_marked :
    (configMapStore t).verdict (.delete ns name) s =
      (.ok (), (ConfigMapStore.delete t ns w s).2) := by
  have hne : name ≠ "" := by
    rintro rfl
    simp at hname
  obtain ⟨q', hx⟩ := Request.to?_of_target (to?_of_getRequest hq) .delete (some (.object []))
  have hdel := (deleteRequest_configMaps ns hne).trans hx
  have hcut := request_of_marked hx hns.addressable.clean hw.addressable.clean hmark hname
  subst hcut
  obtain ⟨-, hok, -⟩ := ConfigMapStore.delete_eq hs hworks hns hw
  have hdelete := (hok v r hv hr).1
  rw [ConfigMapStore.delete_of_addressable t hns.addressable hw.addressable hw.ne_empty]
    at hdelete ⊢
  have hdecode := Except.mapError_eq_ok hdelete
  simp only [RecordStore.verdict_delete, configMapStore, ConfigMapStore.delete, Transport.ask,
    hdel, hdecode]
  rfl

end

/-- A release takes away the ConfigMap that is named by the uid up to its first mark. -/
theorem release_of_marked {σ : Type} {t : Transport σ} {works : σ → Prop}
    {kept : σ → String × String → Option Json} (hs : ConfigMapServer t works kept) {c : Cluster}
    (hc : c.Complete) {w : String} (hns : IsNamespace c.ns) (hw : IsObjectName w) {mark : Char}
    (hmark : mark = '?' ∨ mark = '#') {rest : List Char}
    (huid : c.uid.toList = w.toList ++ mark :: rest) {q : Request}
    (hq : Transport.getRequest configMaps c.ns c.lockName = .ok q) (l : Locker) {s : Session σ}
    (hworks : works s.state) {v : Json} {r : LockRecord} (hv : kept s.state (c.ns, w) = some v)
    (hr : StandsFor c.ns v r) :
    (l.execute (configMapStore t) .release c s).1 = .ok true ∧
      kept (l.execute (configMapStore t) .release c s).2.state =
        Function.update (kept s.state) (c.ns, w) none := by
  have hname : c.lockName.toList = w.toList ++ mark :: (rest ++ lockSuffix.toList) := by
    have happ : c.lockName.toList = c.uid.toList ++ lockSuffix.toList := String.toList_append
    rw [happ, huid, List.append_assoc, List.cons_append]
  have hget := get_of_marked hs hworks hns hw hmark hname hq hv hr
  obtain ⟨hworks', hkept, -⟩ := ConfigMapStore.get_eq hs hworks hns hw
  have hv' : kept (ConfigMapStore.get t c.ns w s.state).2 (c.ns, w) = some v := by rw [hkept, hv]
  have hdelete := delete_of_marked hs hworks' hns hw hmark hname hq hv' hr
  obtain ⟨-, hok, -⟩ := ConfigMapStore.delete_eq hs hworks' hns hw
  have hgone := (hok v r hv' hr).2
  have hstart : (Verb.release.start c).1 = .probing := by
    rw [Verb.start_fst, if_pos (Or.inr hc)]
  -- the probe finds the other ConfigMap, and so the record is deleted
  have hprobe : Phase.probing.advance (configMapStore t) .release c s.state =
      (.deciding, (ConfigMapStore.get t c.ns w s.state).2) := by
    rw [Phase.advance, Verb.probeCall, hget]
    rfl
  have hdecide : Phase.deciding.advance (configMapStore t) .release c
      (ConfigMapStore.get t c.ns w s.state).2 = (.finished (.release .released),
        (ConfigMapStore.delete t c.ns w (ConfigMapStore.get t c.ns w s.state).2).2) := by
    rw [Phase.advance, Verb.decisionCall, hdelete]
    rfl
  have hphase : (l.run (configMapStore t) .release c s).1.phase =
      .finished (.release .released) := by
    rw [Locker.run_phase, hstart, hprobe, hdecide]
  have hgranted : (l.run (configMapStore t) .release c s).1.granted = true :=
    (LockCall.granted_eq _).2 ⟨_, hphase, rfl⟩
  refine ⟨?_, ?_⟩
  · rw [Locker.execute_release, hgranted]
  · rw [Locker.execute_state, Locker.run_state, hstart, hprobe, hdecide, hgone, hkept]

/-- A complete cluster whose uid has a question mark. -/
def questionMarked : Cluster :=
  ⟨"default", "cl1", "victim?x", "cluster.x-k8s.io/v1beta1", "Cluster"⟩

def victim : LockRecord := ⟨"default", "victim", []⟩

/-- A server that holds a ConfigMap `victim`. -/
def victimServer : ApiServer :=
  { configMaps := [(("default", "victim"), stored "default" "victim" victim.configMap)] }

theorem release_questionMarked :
    questionMarked.Complete ∧ ¬ TouchesOwnOnly questionMarked ∧
      (victimServer.kept ("default", "victim")).isSome ∧
      (({} : Locker).execute (configMapStore serverTransport) .release questionMarked
        ⟨victimServer, {}⟩).1 = .ok true ∧
      (({} : Locker).execute (configMapStore serverTransport) .release questionMarked
        ⟨victimServer, {}⟩).2.state.kept ("default", "victim") = none := by
  have hc : questionMarked.Complete := by decide
  have hns : IsNamespace questionMarked.ns := by decide +kernel
  have hw : IsObjectName "victim" := by decide +kernel
  have huid : questionMarked.uid.toList = "victim".toList ++ '?' :: ['x'] := by decide +kernel
  have hq : Transport.getRequest configMaps questionMarked.ns questionMarked.lockName =
      .ok ⟨.get, "/api/v1/namespaces/default/configmaps/victim", none⟩ := by rfl
  have hworks : victimServer.Works := by
    refine ⟨rfl, fun key v h => ?_⟩
    simp only [victimServer, List.lookup_cons, List.lookup_nil] at h
    split at h
    · cases h
      exact plain_stored "default" victim
    · cases h
  have hkept : victimServer.kept ("default", "victim") =
      some (stored "default" "victim" victim.configMap).sorted := rfl
  have hstored : StoredAs victim.ns victim.configMap
      (stored "default" "victim" victim.configMap).sorted := storedAs_stored "default" victim
  have hrel := release_of_marked ApiServer.configMapServer hc hns hw (Or.inl rfl) huid hq {}
    (s := ⟨victimServer, {}⟩) hworks hkept hstored.standsFor
  have hgone : (({} : Locker).execute (configMapStore serverTransport) .release questionMarked
      ⟨victimServer, {}⟩).2.state.kept ("default", "victim") = none := by
    rw [hrel.2]
    exact Function.update_self _ _ _
  refine ⟨hc, fun h => ?_, by rw [hkept]; rfl, hrel.1, hgone⟩
  have hsame := (h.touched {} .release ⟨victimServer, {}⟩).others ("default", "victim")
    (by decide +kernel)
  rw [ApiServer.kept, hsame] at hgone
  cases hkept.symm.trans hgone

end ClusterLock
