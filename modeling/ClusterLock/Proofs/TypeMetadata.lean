import ClusterLock.Proofs.FetchedCluster

/-
  The version and the kind that a cluster has from the configuration. Spelled out by its namespace,
  its name and its uid, it has the group and the version with a slash between them
  (`clusterApiVersion`); fetched as an object that does not say of what type it is, it has those of
  the resource that it was asked for as (`AnyObject.cluster_eq_of_untyped`). A group without a name
  is left out together with its slash in the second and not in the first
  (`clusterApiVersion_eq`), so that `explicit_eq_fetched_iff` gives the exact condition.
-/
namespace ClusterLock

/-! ## Versions -/

namespace Resource

theorem apiVersion_of_named {r : Resource} (h : r.group ≠ "") :
    r.apiVersion = r.group ++ "/" ++ r.version := by
  have hempty : r.group.isEmpty = false := by simpa using h
  simp only [apiVersion, hempty, Bool.false_eq_true, if_false]

theorem apiVersion_of_core {r : Resource} (h : r.group = "") : r.apiVersion = r.version := by
  simp [apiVersion, h]

end Resource

namespace Configuration

variable (conf : Configuration)

/-- In the core group the version that is spelled out has a slash too many. -/
theorem clusterApiVersion_eq :
    conf.clusterApiVersion =
      (if conf.clusterGroup = "" then "/" else "") ++ conf.clusterResource.apiVersion := by
  by_cases h : conf.clusterGroup = ""
  · rw [if_pos h, Resource.apiVersion_of_core h, clusterApiVersion, h]
    rfl
  · rw [if_neg h, Resource.apiVersion_of_named h, String.empty_append]
    rfl

theorem clusterApiVersion_eq_iff :
    conf.clusterApiVersion = conf.clusterResource.apiVersion ↔ conf.clusterGroup ≠ "" := by
  rw [clusterApiVersion_eq]
  by_cases h : conf.clusterGroup = ""
  · rw [if_pos h]
    have hlonger : ∀ s : String, "/" ++ s ≠ s := by
      intro s hs
      have hlength := congrArg String.length hs
      rw [String.length_append] at hlength
      have hslash : "/".length = 1 := by decide
      omega
    exact iff_of_false (hlonger _) fun hn => hn h
  · rw [if_neg h, String.empty_append]
    exact iff_of_true rfl h

end Configuration

/-! ## Clusters -/

/-- The arguments that spell out a cluster and leave its version and kind to the configuration. -/
def ClusterArgs.naming (ns name uid : String) : ClusterArgs :=
  ⟨ns, name, some uid, none, none, false⟩

theorem Configuration.explicitCluster_naming (conf : Configuration) (ns name uid : String) :
    conf.explicitCluster (.naming ns name uid) =
      some ⟨ns, name, uid, conf.clusterApiVersion, conf.clusterKind⟩ := rfl

/-- An object that does not say of what type it is stands for the cluster that its metadata names,
of the type that it was asked for as. -/
theorem AnyObject.cluster_eq_of_untyped {o : AnyObject} (ho : o.types = none) (r : Resource)
    {ns name uid : String} (hns : o.metadata.ns = some ns) (hname : o.metadata.name = some name)
    (huid : o.metadata.uid = some uid) :
    o.cluster r = Cluster.validate ⟨ns, name, uid, r.apiVersion, r.kind⟩ := by
  unfold AnyObject.cluster
  rw [ho]
  simp only [Metadata.cluster, hns, hname, huid, Option.getD_some]

theorem Cluster.eq_of_validate_ok {c c' : Cluster} (h : c.validate = .ok c') : c' = c := by
  unfold validate at h
  split at h
  · exact (Except.ok.inj h).symm
  · cases h

/-- The cluster of such an object, spelled out, differs from it in its version at most. -/
theorem Configuration.explicitCluster_of_fetched {conf : Configuration} {o : AnyObject}
    (ho : o.types = none) {ns name uid : String} (hns : o.metadata.ns = some ns)
    (hname : o.metadata.name = some name) (huid : o.metadata.uid = some uid) {c : Cluster}
    (hc : o.cluster conf.clusterResource = .ok c) :
    c.apiVersion = conf.clusterResource.apiVersion ∧
      conf.explicitCluster (.naming ns name uid) =
        some { c with apiVersion := conf.clusterApiVersion } := by
  rw [AnyObject.cluster_eq_of_untyped ho _ hns hname huid] at hc
  have hfields := Cluster.eq_of_validate_ok hc
  rw [hfields]
  exact ⟨rfl, rfl⟩

/-- **The cluster spelled out and the cluster fetched are the same** just when the configured group
has a name: then spelling it out gives what fetching it gives once it is validated. The object
yields a cluster at all just when its type, as configured, is not empty. -/
theorem explicit_eq_fetched_iff (conf : Configuration) {o : AnyObject} (ho : o.types = none)
    {ns name uid : String} (hns : o.metadata.ns = some ns) (hname : o.metadata.name = some name)
    (huid : o.metadata.uid = some uid) (hns0 : ns ≠ "") (hname0 : name ≠ "") (huid0 : uid ≠ "") :
    (conf.clusterApiVersion = conf.clusterResource.apiVersion ↔ conf.clusterGroup ≠ "") ∧
      ((∃ c, o.cluster conf.clusterResource = .ok c) ↔
        conf.clusterResource.apiVersion ≠ "" ∧ conf.clusterKind ≠ "") ∧
      (∀ c, o.cluster conf.clusterResource = .ok c →
        (conf.explicitCluster (.naming ns name uid) = some c ↔ conf.clusterGroup ≠ "")) ∧
      (conf.clusterGroup ≠ "" → ∃ c, conf.explicitCluster (.naming ns name uid) = some c ∧
        o.cluster conf.clusterResource = c.validate) := by
  have hcluster := AnyObject.cluster_eq_of_untyped ho conf.clusterResource hns hname huid
  refine ⟨conf.clusterApiVersion_eq_iff, ?_, fun c hc => ?_, fun hgroup => ?_⟩
  · rw [hcluster]
    constructor
    · rintro ⟨c, hc⟩
      by_contra hempty
      have hnot : ¬ Cluster.Complete ⟨ns, name, uid, conf.clusterResource.apiVersion,
          conf.clusterResource.kind⟩ := fun hcomplete => hempty hcomplete.2.2.2
      obtain ⟨e, he⟩ := Cluster.validate_of_not_complete hnot
      rw [hc] at he
      cases he
    · rintro ⟨hversion, hkind⟩
      exact ⟨_, Cluster.validate_of_complete ⟨hns0, hname0, huid0, hversion, hkind⟩⟩
  · obtain ⟨hversion, hexplicit⟩ := Configuration.explicitCluster_of_fetched ho hns hname huid hc
    rw [hexplicit, ← conf.clusterApiVersion_eq_iff, ← hversion, Option.some.injEq]
    constructor
    · intro heq
      exact congrArg Cluster.apiVersion heq
    · intro heq
      rw [heq]
  · refine ⟨_, conf.explicitCluster_naming ns name uid, ?_⟩
    rw [hcluster, conf.clusterApiVersion_eq_iff.2 hgroup]
    rfl

/-- An object that names itself and does not say of what type it is. -/
def untypedObject : AnyObject :=
  ⟨none, { ns := some "ns1", name := some "cl1", uid := some "abc-123" }⟩

theorem explicit_eq_fetched_iff_defaults :
    let conf : Configuration := ⟨.table [], none⟩
    untypedObject.cluster conf.clusterResource =
        .ok ⟨"ns1", "cl1", "abc-123", "cluster.x-k8s.io/v1beta1", "Cluster"⟩ ∧
      conf.explicitCluster (.naming "ns1" "cl1" "abc-123") =
        some ⟨"ns1", "cl1", "abc-123", "cluster.x-k8s.io/v1beta1", "Cluster"⟩ := by
  intro conf
  have hgroup : conf.clusterGroup ≠ "" := by decide
  have hfetched : untypedObject.cluster conf.clusterResource =
      .ok ⟨"ns1", "cl1", "abc-123", "cluster.x-k8s.io/v1beta1", "Cluster"⟩ := rfl
  obtain ⟨-, -, hsame, -⟩ := explicit_eq_fetched_iff conf (o := untypedObject) rfl rfl rfl rfl
    (by decide : "ns1" ≠ "") (by decide : "cl1" ≠ "") (by decide : "abc-123" ≠ "")
  exact ⟨hfetched, (hsame _ hfetched).2 hgroup⟩

/-- A file for settings that puts the clusters into the core group. -/
def coreFiles : FileTree :=
  .ofList [] [("conf/cpinit.yml", some (.text "cluster:\n  group: \"\"\n"))]

def coreCommandLine : CommandLine :=
  ⟨"conf/cpinit.yml", none, none, ⟨.acquire, .naming "ns1" "cl1" "abc-123"⟩⟩

/-- In the core group the cluster that is spelled out is not the one that is fetched. -/
theorem explicit_ne_fetched_core :
    ∃ conf, Configuration.build coreFiles [] true coreCommandLine = .ok conf ∧
      conf.clusterApiVersion = "/v1beta1" ∧ conf.clusterResource.apiVersion = "v1beta1" ∧
      conf.explicitCluster (.naming "ns1" "cl1" "abc-123") =
        some ⟨"ns1", "cl1", "abc-123", "/v1beta1", "Cluster"⟩ ∧
      untypedObject.cluster conf.clusterResource =
        .ok ⟨"ns1", "cl1", "abc-123", "v1beta1", "Cluster"⟩ := by
  have hsettings : (Configuration.build coreFiles [] true coreCommandLine).toOption.map
      (fun conf => (conf.clusterGroup, conf.clusterVersion, conf.clusterKind)) =
        some ("", "v1beta1", "Cluster") := by decide +kernel
  obtain ⟨conf, hsome, hconf⟩ := Option.map_eq_some_iff.1 hsettings
  simp only [Prod.mk.injEq] at hconf
  obtain ⟨hgroup, hversion, hkind⟩ := hconf
  have hbuild : Configuration.build coreFiles [] true coreCommandLine = .ok conf := by
    cases h : Configuration.build coreFiles [] true coreCommandLine with
    | error e =>
      rw [h] at hsome
      cases hsome
    | ok conf' =>
      rw [h] at hsome
      cases hsome
      rfl
  have hfetched : conf.clusterResource.apiVersion = "v1beta1" :=
    (Resource.apiVersion_of_core hgroup).trans hversion
  have hexplicit : conf.clusterApiVersion = "/v1beta1" := by
    rw [conf.clusterApiVersion_eq, if_pos hgroup, hfetched]
    rfl
  refine ⟨conf, hbuild, hexplicit, hfetched, ?_, ?_⟩
  · rw [Configuration.explicitCluster_naming, hexplicit, hkind]
  · have hresource : conf.clusterResource.kind = "Cluster" := hkind
    rw [AnyObject.cluster_eq_of_untyped rfl _ rfl rfl rfl, hfetched, hresource]
    rfl

end ClusterLock
