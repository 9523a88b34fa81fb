import ClusterLock.Proofs.OwnRecord

/-
  A cluster that is fetched and the same cluster spelled out. Once the object is there a command
  knows only the cluster it stands for (`AnyObject.Names.cluster_eq`), and what it does from then on
  is one call on that cluster (`Command.run_of_resolve`). The server answers without a look at the
  requests before (`ApiServer.handle_after`), so that `fetched_eq_spelledOut` can compare the two
  commands from one state of the server: they differ in the request for the object and in nothing
  else. `Command.mem_run` says what a command may have added to the ConfigMaps by its end.
-/
namespace ClusterLock

/-! ## Commands on related states -/

/-- A command ends as another does: with the same answer, in the state that belongs to the other's,
and with the same counters. -/
structure EndsAs {σ τ : Type} (f : σ → τ) (x : Except CommandError Bool × Session σ)
    (y : Except CommandError Bool × Session τ) : Prop where
  answer : y.1 = x.1
  state : y.2.state = f x.2.state
  counts : y.2.journal.counts = x.2.journal.counts

section

variable {σ τ : Type} {t : Transport σ} {t' : Transport τ} {f : σ → τ}
  (hf : ∀ q s, t'.send q (f s) = ((t.send q s).1, f (t.send q s).2))

include hf

theorem Transport.ask_map {α : Type} (request : Except ApiError Request) (read : Reader α)
    (s : σ) : t'.ask request read (f s) =
      ((t.ask request read s).1, f (t.ask request read s).2) := by
  cases request with
  | error e => rfl
  | ok q => simp only [ask, hf]

theorem ConfigMapStore.verdict_map (q : StoreCall) (s : σ) :
    (configMapStore t').verdict q (f s) =
      (((configMapStore t).verdict q s).1, f ((configMapStore t).verdict q s).2) := by
  cases q with
  | get ns name =>
    simp only [RecordStore.verdict_get, configMapStore, ConfigMapStore.get, Transport.ask_map hf]
  | create r =>
    simp only [RecordStore.verdict_create, configMapStore, ConfigMapStore.create,
      Transport.ask_map hf]
  | delete ns name =>
    simp only [RecordStore.verdict_delete, configMapStore, ConfigMapStore.delete,
      Transport.ask_map hf]

/-- A whole call ends as it does on the other side, whatever else the journals hold. -/
theorem Locker.execute_map (l : Locker) (v : Verb) (c : Cluster) (s : σ) {j j' : Journal}
    (hj : j'.counts = j.counts) :
    EndsAs f (l.execute (configMapStore t) v c ⟨s, j⟩)
      (l.execute (configMapStore t') v c ⟨f s, j'⟩) := by
  obtain ⟨hphase, hstate⟩ := l.run_map (ConfigMapStore.verdict_map hf) v c s j j'
  obtain ⟨a, ha, hexec⟩ := l.execute_eq (configMapStore t) v c ⟨s, j⟩
  obtain ⟨a', ha', hexec'⟩ := l.execute_eq (configMapStore t') v c ⟨f s, j'⟩
  have hanswer : a' = a := by
    rw [LockCall.answer?, hphase] at ha'
    rw [LockCall.answer?] at ha
    exact Option.some.inj (ha'.symm.trans ha)
  rw [hexec, hexec', hanswer]
  refine ⟨rfl, hstate, ?_⟩
  rw [Locker.run_counts, Locker.run_counts, hphase, hj]

end

/-! ## Commands whose cluster is known -/

namespace Command

/-- The command with its cluster spelled out. -/
def spelledOut (cmd : Command) (c : Cluster) : Command :=
  ⟨cmd.verb, ⟨c.ns, c.name, some c.uid, some c.apiVersion, some c.kind, false⟩⟩

variable {σ τ : Type}

theorem resolve_spelledOut (cmd : Command) (c : Cluster) (t : Transport σ) (conf : Configuration)
    (s : Session σ) : (cmd.spelledOut c).resolve t conf s = (.ok c, s) := rfl

/-- What is left of a command once its cluster is known: the call of a locker in the span of the
command. -/
def carryOut (t : Transport σ) (v : Verb) (c : Cluster) (s : Session σ) :
    Except CommandError Bool × Session σ :=
  let scope := s.journal.current ++ [commandSpan v]
  ({ scope := some scope } : Locker).execute (configMapStore t) v c
    { s with journal := s.journal.enter scope }

theorem run_of_resolve {cmd : Command} {t : Transport σ} {conf : Configuration}
    {s s' : Session σ} {c : Cluster} (h : cmd.resolve t conf s = (.ok c, s')) :
    EndsAs id (carryOut t cmd.verb c s') (cmd.run t conf s) := by
  cases hcall : carryOut t cmd.verb c s' with
  | mk answer s'' =>
    rw [carryOut] at hcall
    simp only [run, h, hcall]
    cases answer with
    | error e => exact ⟨rfl, rfl, rfl⟩
    | ok b => exact ⟨rfl, rfl, rfl⟩

theorem carryOut_map {t : Transport σ} {t' : Transport τ} {f : σ → τ}
    (hf : ∀ q s, t'.send q (f s) = ((t.send q s).1, f (t.send q s).2)) (v : Verb) (c : Cluster)
    (s : σ) {j j' : Journal} (hcurrent : j'.current = j.current) (hcounts : j'.counts = j.counts) :
    EndsAs f (carryOut t v c ⟨s, j⟩) (carryOut t' v c ⟨f s, j'⟩) := by
  simp only [carryOut, hcurrent]
  exact Locker.execute_map hf _ v c s hcounts

end Command

/-! ## The fetched cluster -/

/-- The object names the cluster. It says of its version and kind itself, or else they are those
that it was asked for as. -/
structure AnyObject.Names (o : AnyObject) (r : Resource) (c : Cluster) : Prop where
  ns : o.metadata.ns = some c.ns
  name : o.metadata.name = some c.name
  uid : o.metadata.uid = some c.uid
  types : o.types.getD (r.apiVersion, r.kind) = (c.apiVersion, c.kind)

theorem AnyObject.Names.cluster_eq {o : AnyObject} {r : Resource} {c : Cluster}
    (h : o.Names r c) (hc : c.Complete) : o.cluster r = .ok c := by
  have hcluster : o.cluster r = o.metadata.cluster (o.types.getD (r.apiVersion, r.kind)).1
      (o.types.getD (r.apiVersion, r.kind)).2 := by
    unfold AnyObject.cluster
    cases o.types <;> rfl
  rw [hcluster, h.types, Metadata.cluster, h.ns, h.name, h.uid]
  exact Cluster.validate_of_complete hc

theorem Transport.method_of_getRequest {r : Resource} {ns name : String} {q : Request}
    (h : getRequest r ns name = .ok q) : q.method = .get := by
  unfold getRequest at h
  cases htarget : namedTarget (r.path (some ns)) name with
  | error e =>
    rw [htarget] at h
    cases h
  | ok target =>
    rw [htarget] at h
    exact (Request.to?_ok h).1

/-- A command that fetches its cluster knows it after one request. -/
theorem Command.resolve_of_fetched {σ : Type} {cmd : Command} (hfetch : cmd.args.fetch = true)
    {t : Transport σ} {conf : Configuration} {s : Session σ} {q : Request}
    (hq : Transport.getRequest conf.clusterResource cmd.args.ns cmd.args.name = .ok q)
    {o : AnyObject} (ho : (t.send q s.state).1.decode AnyObject.read = .ok o) {c : Cluster}
    (hnames : o.Names conf.clusterResource c) (hc : c.Complete) :
    cmd.resolve t conf s =
      (.ok c, ⟨(t.send q s.state).2, s.journal.write (fetchedNote cmd.args.ns o)⟩) := by
  have hexplicit : conf.explicitCluster cmd.args = none := if_pos hfetch
  rw [resolve, hexplicit]
  simp only [fetchCluster, Transport.ask, hq, ho, hnames.cluster_eq hc]

/-! ## The server and its past requests -/

namespace ApiServer

/-- The server with other requests before its own. -/
def after (qs : List Request) (s : ApiServer) : ApiServer :=
  { s with requests := qs ++ s.requests }

theorem serve_after (q : Request) (qs : List Request) (s : ApiServer) :
    serve q (s.after qs) = ((serve q s).1, (serve q s).2.after qs) := by
  obtain ⟨method, path, body⟩ := q
  cases method with
  | get =>
    simp only [serve, after]
    split <;> rfl
  | post =>
    cases hp : configMapsPath? path with
    | none => simp only [serve, after, hp]
    | some ns =>
      cases hl : s.configMaps.lookup (ns, postedName body) with
      | none =>
        unfold postedName at hl
        simp only [serve, after, hp, hl]
        rfl
      | some v =>
        unfold postedName at hl
        simp only [serve, after, hp, hl]
        rfl
  | delete =>
    cases hp : configMapPath? path with
    | none => simp only [serve, after, hp]
    | some key => cases hl : s.configMaps.lookup key <;> simp only [serve, after, hp, hl]

/-- The server answers alike whatever it has been asked before. -/
theorem handle_after (q : Request) (qs : List Request) (s : ApiServer) :
    handle q (s.after qs) = ((handle q s).1, (handle q s).2.after qs) := by
  have hstart : ({ s.after qs with requests := (s.after qs).requests ++ [q] } : ApiServer) =
      { s with requests := s.requests ++ [q] }.after qs := by
    simp only [after, List.append_assoc]
  cases htake : takeScript q.method s.scripts with
  | some taken =>
    simp only [handle, htake, after, List.append_assoc]
  | none =>
    have htake' : takeScript q.method (s.after qs).scripts = none := htake
    simp only [handle, htake, htake', hstart, serve_after]

/-- The server less the reply that is laid down for the request, if there is one. -/
def lessReplyTo (q : Request) (s : ApiServer) : ApiServer :=
  { s with scripts := (handle q s).2.scripts }

theorem lessReplyTo_of_takeScript_eq_none {q : Request} {s : ApiServer}
    (h : takeScript q.method s.scripts = none) : s.lessReplyTo q = s := by
  simp only [lessReplyTo, handle, h, (requests_serve q _).2]

/-- A request that only asks leaves all as it is, but for the reply that was laid down for it. -/
theorem handle_get_snd {q : Request} (hm : q.method = .get) (s : ApiServer) :
    (handle q s).2 = { s.lessReplyTo q with requests := s.requests ++ [q] } := by
  have hserve : ∀ s', (serve q s').2 = s' := by
    intro s'
    rcases serve_snd q s' with hs | ⟨key, hpost, -⟩ | ⟨key, hdelete, -⟩
    · exact hs
    · rw [hm] at hpost
      cases hpost
    · rw [hm] at hdelete
      cases hdelete
  unfold lessReplyTo handle
  dsimp only
  split
  · rfl
  · rw [hserve]

/-- A ConfigMap that is there after a request was there before it, or has been posted with it. -/
theorem mem_handle {q : Request} {s : ApiServer} {kv : (String × String) × Json}
    (h : kv ∈ (handle q s).2.configMaps) :
    kv ∈ s.configMaps ∨ ∃ key, q.method = .post ∧ q.subject? = some key ∧
      kv = (key, stored key.1 key.2 (q.body.getD .null)) := by
  cases htake : takeScript q.method s.scripts with
  | some taken =>
    simp only [handle, htake] at h
    exact Or.inl h
  | none =>
    simp only [handle, htake] at h
    rcases serve_snd q { s with requests := s.requests ++ [q] } with hs |
      ⟨key, hm, hkey, -, hs⟩ | ⟨key, -, -, hs⟩
    · rw [hs] at h
      exact Or.inl h
    · rw [hs] at h
      refine (List.mem_append.1 h).imp_right fun hnew => ⟨key, hm, hkey, ?_⟩
      exact List.mem_singleton.1 hnew
    · rw [hs] at h
      exact Or.inl (List.mem_filter.1 h).1

end ApiServer

/-! ## What a command adds -/

/-- The ConfigMap of the cluster's lock record as a server keeps it: in the cluster's namespace,
named after the cluster, and owned by the cluster's object and by nothing else. -/
structure LocksCluster (c : Cluster) (kv : (String × String) × Json) : Prop where
  key : kv.1 = (c.ns, c.uid ++ "-controlplane")
  ns : kv.2.metadataMember? "namespace" = some (.text c.ns)
  name : kv.2.metadataMember? "name" = some (.text (c.uid ++ "-controlplane"))
  owners : kv.2.metadataMember? "ownerReferences" =
    some (.array [(OwnerRef.mk c.apiVersion c.kind c.name c.uid).toJson])

theorem locksCluster_stored (c : Cluster) :
    LocksCluster c ((c.ns, c.lockName),
      stored c.ns c.lockName (LockRecord.forCluster c).configMap) :=
  ⟨rfl, rfl, rfl, rfl⟩

/-- Only a create adds a ConfigMap, the one of its record. -/
theorem mem_verdict {q : StoreCall} (hq : ∀ r, q = .create r → Clean r.ns) {s : ApiServer}
    {kv : (String × String) × Json}
    (h : kv ∈ ((configMapStore serverTransport).verdict q s).2.configMaps) :
    kv ∈ s.configMaps ∨
      ∃ r, q = .create r ∧ kv = ((r.ns, r.name), stored r.ns r.name r.configMap) := by
  cases hr : q.request with
  | error e =>
    obtain ⟨what, hv⟩ := verdict_of_request_error serverTransport hr s
    rw [hv] at h
    exact Or.inl h
  | ok x =>
    rw [verdict_of_request serverTransport hr] at h
    refine (ApiServer.mem_handle h).imp_right ?_
    rintro ⟨key, hm, hkey, rfl⟩
    cases q with
    | get ns name =>
      have hget := (Request.to?_ok (to?_of_getRequest hr)).1
      rw [hm] at hget
      cases hget
    | create r =>
      have hclean : (StoreCall.create r).CleanPath := hq r rfl
      have hbody := (Request.to?_ok ((createRequest_configMaps r.ns _).symm.trans hr)).2.1
      rw [(StoreCall.subject_request hr).2 hclean] at hkey
      cases hkey
      exact ⟨r, rfl, by rw [hbody]; rfl⟩
    | delete ns name =>
      have hdelete := (Request.to?_ok (to?_of_deleteRequest hr)).1
      rw [hm] at hdelete
      cases hdelete

section

variable {c : Cluster} (hns : Clean c.ns)

include hns

/-- A turn of a call adds no other ConfigMap than that of the cluster's lock record. -/
theorem mem_advance {verb : Verb} {p : Phase} {s : ApiServer} {kv : (String × String) × Json}
    (h : kv ∈ (p.advance (configMapStore serverTransport) verb c s).2.configMaps) :
    kv ∈ s.configMaps ∨ LocksCluster c kv := by
  have hcall : ∀ q, (∀ r, q = StoreCall.create r → r = .forCluster c) →
      kv ∈ ((configMapStore serverTransport).verdict q s).2.configMaps →
      kv ∈ s.configMaps ∨ LocksCluster c kv := by
    intro q hq hmem
    have hclean : ∀ r, q = .create r → Clean r.ns := by
      intro r hr
      rw [hq r hr]
      exact hns
    refine (mem_verdict hclean hmem).imp_right ?_
    rintro ⟨r, hr, rfl⟩
    rw [hq r hr]
    exact locksCluster_stored c
  cases p with
  | finished o => exact Or.inl h
  | probing => exact hcall (Verb.probeCall c) (fun r hr => by cases hr) h
  | deciding =>
    refine hcall (verb.decisionCall c) (fun r hr => ?_) h
    cases verb with
    | acquire =>
      cases hr
      rfl
    | release => cases hr
    | probe => cases hr

theorem Locker.mem_run (l : Locker) (verb : Verb) (s : Session ApiServer) :
    ∀ kv ∈ (l.run (configMapStore serverTransport) verb c s).2.state.configMaps,
      kv ∈ s.state.configMaps ∨ LocksCluster c kv := by
  refine l.run_invariant (configMapStore serverTransport) verb c
    (P := fun _ u => ∀ kv ∈ u.configMaps, kv ∈ s.state.configMaps ∨ LocksCluster c kv) ?_
    fun kv hkv => Or.inl hkv
  intro p u ih kv hkv
  rcases mem_advance hns hkv with hkv | hkv
  · exact ih kv hkv
  · exact Or.inr hkv

end

/-! ## The two commands -/

/-- A command whose cluster is known goes on a server as it goes on the server that has not been
asked anything yet. -/
theorem Command.run_after {cmd : Command} {conf : Configuration} {s : Session ApiServer}
    {c : Cluster} {u : ApiServer} {qs : List Request} {j j' : Journal}
    (h : cmd.resolve serverTransport conf s = (.ok c, ⟨u.after qs, j'⟩))
    (hcurrent : j'.current = j.current) (hcounts : j'.counts = j.counts) :
    EndsAs (ApiServer.after qs) (carryOut serverTransport cmd.verb c ⟨u, j⟩)
      (cmd.run serverTransport conf s) := by
  have hafter : ∀ q u, serverTransport.send q (ApiServer.after qs u) =
      ((serverTransport.send q u).1, (serverTransport.send q u).2.after qs) :=
    fun q u => ApiServer.handle_after q qs u
  have hrun := run_of_resolve h
  have hmap := carryOut_map hafter cmd.verb c u hcurrent hcounts
  exact ⟨hrun.answer.trans hmap.answer, hrun.state.trans hmap.state,
    hrun.counts.trans hmap.counts⟩

/-- A command whose cluster is known adds no other ConfigMap than that of its lock record. -/
theorem Command.mem_run {cmd : Command} {conf : Configuration} {s s' : Session ApiServer}
    {c : Cluster} (h : cmd.resolve serverTransport conf s = (.ok c, s')) (hns : Clean c.ns) :
    ∀ kv ∈ (cmd.run serverTransport conf s).2.state.configMaps,
      kv ∈ s'.state.configMaps ∨ LocksCluster c kv := by
  rw [(run_of_resolve h).state, carryOut, Locker.execute_state]
  exact Locker.mem_run hns _ cmd.verb _

/-- **Fetching a cluster and spelling it out are the same.** The command that fetches has asked for
the object; apart from that it asks for the same, answers the same, leaves the same ConfigMaps
and raises the same counter as the command that spells the cluster out, on a server that has the
same in store for them. -/
theorem fetched_eq_spelledOut (cmd : Command) (hfetch : cmd.args.fetch = true)
    (conf : Configuration) (s : Session ApiServer) {q : Request}
    (hq : Transport.getRequest conf.clusterResource cmd.args.ns cmd.args.name = .ok q)
    {o : AnyObject} (ho : (serverTransport.send q s.state).1.decode AnyObject.read = .ok o)
    {c : Cluster} (hnames : o.Names conf.clusterResource c) (hc : c.Complete) :
    let fetched := cmd.run serverTransport conf s
    let spelledOut := (cmd.spelledOut c).run serverTransport conf
      { s with state := s.state.lessReplyTo q }
    fetched.1 = spelledOut.1 ∧
      (∃ qs, fetched.2.state.requests = s.state.requests ++ q :: qs ∧
        spelledOut.2.state.requests = s.state.requests ++ qs) ∧
      fetched.2.state.configMaps = spelledOut.2.state.configMaps ∧
      fetched.2.journal.counts = spelledOut.2.journal.counts ∧
      (Clean c.ns → ∀ kv ∈ fetched.2.state.configMaps,
        kv ∈ s.state.configMaps ∨ LocksCluster c kv) := by
  intro fetched spelledOut
  have hm : q.method = .get := Transport.method_of_getRequest hq
  -- the server as both commands find it, less the requests that came before
  let u : ApiServer := { s.state.lessReplyTo q with requests := [] }
  have hfetched : (serverTransport.send q s.state).2 = u.after (s.state.requests ++ [q]) := by
    rw [serverTransport, ApiServer.handle_get_snd hm, ApiServer.after, List.append_nil]
  have hspelled : s.state.lessReplyTo q = u.after s.state.requests := by
    rw [ApiServer.after, List.append_nil]
    rfl
  have hresolve : cmd.resolve serverTransport conf s = (.ok c,
      ⟨u.after (s.state.requests ++ [q]), s.journal.write (fetchedNote cmd.args.ns o)⟩) := by
    rw [cmd.resolve_of_fetched hfetch hq ho hnames hc, hfetched]
  have hresolve' : (cmd.spelledOut c).resolve serverTransport conf
      { s with state := s.state.lessReplyTo q } =
        (.ok c, ⟨u.after s.state.requests, s.journal⟩) := by
    rw [Command.resolve_spelledOut, hspelled]
  have hends := Command.run_after (j := s.journal) hresolve rfl rfl
  have hends' := Command.run_after (j := s.journal) hresolve' rfl rfl
  refine ⟨hends.answer.trans hends'.answer.symm,
    ⟨(Command.carryOut serverTransport cmd.verb c ⟨u, s.journal⟩).2.state.requests, ?_, ?_⟩,
    ?_, hends.counts.trans hends'.counts.symm, ?_⟩
  · show (cmd.run serverTransport conf s).2.state.requests = _
    rw [hends.state, ApiServer.after, List.append_assoc, List.singleton_append]
  · exact congrArg ApiServer.requests hends'.state
  · show (cmd.run serverTransport conf s).2.state.configMaps = _
    rw [hends.state]
    exact (congrArg ApiServer.configMaps hends'.state).symm
  · intro hns
    have hadded := Command.mem_run hresolve hns
    exact hadded

/-- A cluster object that says itself of which version and kind it is. -/
def outspokenObject : Json :=
  .object [("apiVersion", .text "cluster.x-k8s.io/v1alpha4"), ("kind", .text "ManagedCluster"),
    ("metadata", .object [("name", .text "cl1"), ("namespace", .text "ns1"),
      ("uid", .text "abc-123")])]

def outspokenCluster : Cluster :=
  ⟨"ns1", "cl1", "abc-123", "cluster.x-k8s.io/v1alpha4", "ManagedCluster"⟩

/-- The request for the object under the default settings. -/
def outspokenRequest : Request :=
  ⟨.get, "/apis/cluster.x-k8s.io/v1beta1/namespaces/ns1/clusters/cl1", none⟩

def outspokenServer : ApiServer := { objects := [(outspokenRequest.path, outspokenObject)] }

theorem sorted_outspokenObject : outspokenObject.sorted = outspokenObject := by
  simp only [outspokenObject, Json.sorted, sortedMembers]
  rw [sortMembers_of_sorted (by simp) (by simp), sortMembers_of_sorted (by simp) (by simp)]

def outspokenCommand : Command := ⟨.acquire, ⟨"ns1", "cl1", none, none, none, true⟩⟩

theorem fetched_eq_spelledOut_outspoken :
    let conf : Configuration := ⟨.table [], none⟩
    let start : Session ApiServer := ⟨outspokenServer, {}⟩
    let fetched := outspokenCommand.run serverTransport conf start
    let spelledOut := (outspokenCommand.spelledOut outspokenCluster).run serverTransport conf start
    fetched.1 = spelledOut.1 ∧
      (∃ qs, fetched.2.state.requests = outspokenRequest :: qs ∧
        spelledOut.2.state.requests = qs) ∧
      fetched.2.state.configMaps = spelledOut.2.state.configMaps ∧
      fetched.2.journal.counts = spelledOut.2.journal.counts ∧
      ∀ kv ∈ fetched.2.state.configMaps, LocksCluster outspokenCluster kv := by
  have hq : Transport.getRequest (Configuration.clusterResource ⟨.table [], none⟩) "ns1" "cl1" =
      .ok outspokenRequest := by rfl
  have hsend : (serverTransport.send outspokenRequest outspokenServer).1 =
      .ofJson 200 outspokenObject := rfl
  have ho : (serverTransport.send outspokenRequest outspokenServer).1.decode AnyObject.read =
      .ok ⟨some ("cluster.x-k8s.io/v1alpha4", "ManagedCluster"),
        { ns := some "ns1", name := some "cl1", uid := some "abc-123" }⟩ := by
    have hplain : outspokenObject.sorted.Plain := by
      rw [sorted_outspokenObject]
      simp [outspokenObject, Json.Plain, PlainMembers]
    rw [hsend, Reply.decode_of_holds (ofJson_holds (by decide) (by decide) hplain),
      sorted_outspokenObject]
    rfl
  have hclean : Clean outspokenCluster.ns := by
    have hns : IsNamespace outspokenCluster.ns := by decide +kernel
    exact hns.addressable.clean
  have hsame : outspokenServer.lessReplyTo outspokenRequest = outspokenServer :=
    ApiServer.lessReplyTo_of_takeScript_eq_none rfl
  obtain ⟨hanswer, ⟨qs, hrequests, hrequests'⟩, hmaps, hcounts, hadded⟩ :=
    fetched_eq_spelledOut outspokenCommand rfl ⟨.table [], none⟩ ⟨outspokenServer, {}⟩ hq ho
      (c := outspokenCluster) ⟨rfl, rfl, rfl, rfl⟩ (by decide)
  dsimp only at hanswer hrequests' hmaps hcounts
  rw [hsame] at hanswer hrequests' hmaps hcounts
  exact ⟨hanswer, ⟨qs, hrequests, hrequests'⟩, hmaps, hcounts,
    fun kv hkv => (hadded hclean kv hkv).resolve_left List.not_mem_nil⟩

end ClusterLock
