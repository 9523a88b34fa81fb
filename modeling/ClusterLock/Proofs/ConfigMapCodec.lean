import ClusterLock.Proofs.RoundTrip
import ClusterLock.Proofs.TypedConfigMap

/-
  Lock records as ConfigMaps and back. A ConfigMap that has been extended (`ConfigMapExtends`) is
  typed and has the same record, so that what a server adds does not matter. `configMapCodec` puts
  together what is read from the ConfigMap of a record and from any other.
-/
namespace ClusterLock

/-! ## Extended objects -/

/-- Members put between those that are there, which may change themselves. -/
inductive Inserted (new : String → Json → Prop) (change : String → Json → Json → Prop) :
    List (String × Json) → List (String × Json) → Prop
  | nil : Inserted new change [] []
  | insert {key : String} {w : Json} {ms ms' : List (String × Json)} (h : new key w)
      (rest : Inserted new change ms ms') : Inserted new change ms ((key, w) :: ms')
  | keep {key : String} {w w' : Json} {ms ms' : List (String × Json)} (h : change key w w')
      (rest : Inserted new change ms ms') :
      Inserted new change ((key, w) :: ms) ((key, w') :: ms')

/-- An object with further members. -/
def Json.Extends (new : String → Json → Prop) (change : String → Json → Json → Prop)
    (v v' : Json) : Prop :=
  ∃ ms ms', v = .object ms ∧ v' = .object ms' ∧ Inserted new change ms ms'

/-- An owner with further members: anything but what names the owner. -/
def OwnerExtends : Json → Json → Prop :=
  Json.Extends (fun key w => key ∉ OwnerRef.parts.map (·.1) ∧ Typed OwnerRef.memberTypes key w)
    (fun _ w w' => w = w')

/-- Metadata with further members: anything but what names the object and its owners, which may
be extended themselves. -/
def MetadataExtends : Json → Json → Prop :=
  Json.Extends
    (fun key w => key ∉ ["namespace", "name", "ownerReferences"] ∧ MetadataMember key w)
    (fun key w w' =>
      if key = "ownerReferences" then
        ∃ os os', w = .array os ∧ w' = .array os' ∧ List.Forall₂ OwnerExtends os os'
      else w = w')

/-- A ConfigMap with further members, in its metadata too. -/
def ConfigMapExtends : Json → Json → Prop :=
  Json.Extends (fun key w => key ≠ "metadata" ∧ ConfigMapMember key w)
    (fun key w w' => if key = "metadata" then MetadataExtends w w' else w = w')

namespace Inserted

variable {new : String → Json → Prop} {change : String → Json → Json → Prop}
  {ms ms' : List (String × Json)}

/-- Every member is a new one or comes from one that was there. -/
theorem members (h : Inserted new change ms ms') {key : String} {w' : Json}
    (hmem : (key, w') ∈ ms') : new key w' ∨ ∃ w, (key, w) ∈ ms ∧ change key w w' := by
  induction h with
  | nil => cases hmem
  | insert h rest ih =>
    rcases List.mem_cons.1 hmem with heq | hmem
    · cases heq
      exact Or.inl h
    · exact ih hmem
  | keep h rest ih =>
    rcases List.mem_cons.1 hmem with heq | hmem
    · cases heq
      exact Or.inr ⟨_, List.mem_cons_self, h⟩
    · rcases ih hmem with hnew | ⟨w, hw, hchange⟩
      · exact Or.inl hnew
      · exact Or.inr ⟨w, List.mem_cons_of_mem _ hw, hchange⟩

/-- A name that no new member has is missing from both, or stands in both for related values. -/
theorem member? (h : Inserted new change ms ms') (key : String) (hkey : ∀ w, ¬ new key w) :
    ((Json.object ms).member? key = none ∧ (Json.object ms').member? key = none) ∨
      ∃ w w', (Json.object ms).member? key = some w ∧ (Json.object ms').member? key = some w' ∧
        change key w w' := by
  induction h with
  | nil => exact Or.inl ⟨rfl, rfl⟩
  | @insert k w ms ms' hnew rest ih =>
    have hne : key ≠ k := by
      rintro rfl
      exact hkey w hnew
    rw [Json.member?_object_cons, if_neg hne, Option.or_none]
    exact ih
  | @keep k w w' ms ms' hchange rest ih =>
    rw [Json.member?_object_cons, Json.member?_object_cons]
    rcases ih with ⟨hnone, hnone'⟩ | ⟨w₁, w₁', hsome, hsome', hlast⟩
    · rw [hnone, hnone', Option.none_or, Option.none_or]
      by_cases hk : key = k
      · subst hk
        exact Or.inr ⟨w, w', if_pos rfl, if_pos rfl, hchange⟩
      · exact Or.inl ⟨if_neg hk, if_neg hk⟩
    · rw [hsome, hsome']
      exact Or.inr ⟨w₁, w₁', rfl, rfl, hlast⟩

end Inserted

/-- Extended objects are again objects of allowed members. -/
theorem Json.Extends.objectOf {new allowed : String → Json → Prop}
    {change : String → Json → Json → Prop} {v v' : Json} (h : v.Extends new change v')
    (hv : v.ObjectOf allowed) (hnew : ∀ key w, new key w → allowed key w)
    (hchange : ∀ key w w', change key w w' → allowed key w → allowed key w') :
    v'.ObjectOf allowed := by
  obtain ⟨ms, ms', rfl, rfl, hms⟩ := h
  obtain ⟨ms₀, heq, hallowed⟩ := hv
  cases heq
  refine ⟨ms', rfl, fun key w' hmem => ?_⟩
  rcases hms.members hmem with h | ⟨w, hw, h⟩
  · exact hnew key w' h
  · exact hchange key w w' h (hallowed key w hw)

theorem OwnerExtends.typed {o o' : Json} (h : OwnerExtends o o') (ho : OwnerTyped o) :
    OwnerTyped o' :=
  h.objectOf ho (fun _ _ hnew => hnew.2) (fun _ _ _ hsame hw => hsame ▸ hw)

/-- The owner that an object names goes by four of its texts. -/
theorem Json.ownerRef_congr {o o' : Json}
    (h : ∀ key ∈ OwnerRef.parts.map (·.1), o.textOf key = o'.textOf key) :
    o.ownerRef = o'.ownerRef := by
  rw [Json.ownerRef, Json.ownerRef, h _ (by decide), h _ (by decide), h _ (by decide),
    h _ (by decide)]

theorem OwnerExtends.ownerRef {o o' : Json} (h : OwnerExtends o o') : o'.ownerRef = o.ownerRef := by
  obtain ⟨ms, ms', rfl, rfl, hms⟩ := h
  have hkeep : ∀ key ∈ OwnerRef.parts.map (·.1),
      (Json.object ms').textOf key = (Json.object ms).textOf key := by
    intro key hkey
    rw [Json.textOf, Json.textOf]
    rcases hms.member? key fun w hnew => hnew.1 hkey with ⟨h, h'⟩ | ⟨w, w', h, h', rfl⟩
    · rw [h, h']
    · rw [h, h']
  exact Json.ownerRef_congr hkeep

theorem ownersTyped_extended {os os' : List Json} (h : List.Forall₂ OwnerExtends os os')
    (hos : ∀ o ∈ os, OwnerTyped o) : ∀ o' ∈ os', OwnerTyped o' := by
  induction h with
  | nil => exact fun o' ho' => nomatch ho'
  | cons ho _ ih =>
    intro o' ho'
    rcases List.mem_cons.1 ho' with rfl | ho'
    · exact ho.typed (hos _ List.mem_cons_self)
    · exact ih (fun o hmem => hos o (List.mem_cons_of_mem _ hmem)) o' ho'

theorem MetadataExtends.typed {w w' : Json} (h : MetadataExtends w w') (hw : MetadataTyped w) :
    MetadataTyped w' := by
  obtain rfl | hw := hw
  · obtain ⟨ms, -, heq, -⟩ := h
    cases heq
  · refine Or.inr (h.objectOf hw (fun _ _ hnew => hnew.2) fun key w w' hchange hmember => ?_)
    unfold MetadataMember at hmember ⊢
    by_cases hkey : key = "ownerReferences"
    · rw [if_pos hkey] at hchange hmember ⊢
      obtain ⟨os, os', rfl, rfl, hos⟩ := hchange
      obtain heq | ⟨l, heq, htyped⟩ := hmember
      · cases heq
      · cases heq
        exact Or.inr ⟨os', rfl, ownersTyped_extended hos htyped⟩
    · rw [if_neg hkey] at hchange
      exact hchange ▸ hmember

theorem ConfigMapExtends.typed {v v' : Json} (h : ConfigMapExtends v v') (hv : ConfigMapTyped v) :
    ConfigMapTyped v' := by
  refine h.objectOf hv (fun _ _ hnew => hnew.2) fun key w w' hchange hmember => ?_
  by_cases hkey : key = "metadata"
  · subst hkey
    rw [if_pos rfl] at hchange
    exact hchange.typed hmember
  · rw [if_neg hkey] at hchange
    exact hchange ▸ hmember

/-- The metadata is there in both ConfigMaps, extended in one of them, or in neither. -/
theorem ConfigMapExtends.metadata {v v' : Json} (h : ConfigMapExtends v v') :
    (v.member? "metadata" = none ∧ v'.member? "metadata" = none) ∨
      ∃ w w', v.member? "metadata" = some w ∧ v'.member? "metadata" = some w' ∧
        MetadataExtends w w' := by
  obtain ⟨ms, ms', rfl, rfl, hms⟩ := h
  exact hms.member? "metadata" fun w hnew => hnew.1 rfl

theorem MetadataExtends.text {w w' : Json} (h : MetadataExtends w w') {key : String}
    (hkey : key ∈ ["namespace", "name"]) : w'.member? key = w.member? key := by
  obtain ⟨ms, ms', rfl, rfl, hms⟩ := h
  have hprotected : key ∈ ["namespace", "name", "ownerReferences"] :=
    List.mem_append_left ["ownerReferences"] hkey
  have hne : key ≠ "ownerReferences" := by
    rintro rfl
    exact absurd hkey (by decide)
  rcases hms.member? key fun w hnew => hnew.1 hprotected with ⟨h, h'⟩ | ⟨u, u', h, h', hchange⟩
  · rw [h, h']
  · rw [if_neg hne] at hchange
    rw [h, h', hchange]

theorem ConfigMapExtends.text {v v' : Json} (h : ConfigMapExtends v v') {key : String}
    (hkey : key ∈ ["namespace", "name"]) : v'.metadataText? key = v.metadataText? key := by
  rw [Json.metadataText?, Json.metadataText?, Json.metadataMember?, Json.metadataMember?]
  rcases h.metadata with ⟨h, h'⟩ | ⟨w, w', h, h', hmeta⟩
  · rw [h, h']
  · rw [h, h', Option.bind_some, Option.bind_some, hmeta.text hkey]

theorem ConfigMapExtends.owners {v v' : Json} (h : ConfigMapExtends v v') :
    v'.ownerObjects.map Json.ownerRef = v.ownerObjects.map Json.ownerRef := by
  rw [Json.ownerObjects, Json.ownerObjects, Json.metadataMember?, Json.metadataMember?]
  rcases h.metadata with ⟨h, h'⟩ | ⟨w, w', h, h', hmeta⟩
  · rw [h, h']
  obtain ⟨ms, ms', rfl, rfl, hms⟩ := hmeta
  rw [h, h', Option.bind_some, Option.bind_some]
  rcases hms.member? "ownerReferences" fun w hnew => hnew.1 (by decide) with
    ⟨h, h'⟩ | ⟨u, u', h, h', hchange⟩
  · rw [h, h']
  · rw [if_pos rfl] at hchange
    obtain ⟨os, os', rfl, rfl, hos⟩ := hchange
    rw [h, h']
    dsimp only
    clear h h'
    induction hos with
    | nil => rfl
    | cons ho _ ih => rw [List.map_cons, List.map_cons, ho.ownerRef, ih]

theorem ConfigMapExtends.lockRecord {v v' : Json} (h : ConfigMapExtends v v') (ns : String) :
    v'.lockRecord ns = v.lockRecord ns := by
  rw [Json.lockRecord, Json.lockRecord, h.text (by decide), h.text (by decide), h.owners]

/-! ## Records -/

namespace LockRecord

variable (r : LockRecord)

theorem plain_configMap : r.configMap.Plain := by
  simp [configMap, Json.Plain, PlainMembers, plainItems_owners]

theorem configMap_typed : ConfigMapTyped r.configMap := by
  have hname : ∀ s : String, MetadataMember "name" (.text s) := by
    intro s t ht
    cases ht
    trivial
  have hns : ∀ s : String, MetadataMember "namespace" (.text s) := by
    intro s t ht
    cases ht
    trivial
  have howners : OwnersTyped (.array (r.owners.map OwnerRef.toJson)) := by
    refine Or.inr ⟨_, rfl, fun o ho => ?_⟩
    obtain ⟨owner, -, rfl⟩ := List.mem_map.1 ho
    refine ⟨_, rfl, fun k w hkw => ?_⟩
    simp only [List.mem_cons, Prod.mk.injEq, List.not_mem_nil, or_false] at hkw
    rcases hkw with ⟨rfl, rfl⟩ | ⟨rfl, rfl⟩ | ⟨rfl, rfl⟩ | ⟨rfl, rfl⟩ <;>
      (rintro t ⟨⟩; trivial)
  refine ⟨_, rfl, fun k w hkw => ?_⟩
  simp only [List.mem_cons, Prod.mk.injEq, List.not_mem_nil, or_false] at hkw
  rcases hkw with ⟨rfl, rfl⟩ | ⟨rfl, rfl⟩ | ⟨rfl, rfl⟩
  · rfl
  · rfl
  · refine Or.inr ⟨_, rfl, fun k w hkw => ?_⟩
    simp only [List.mem_cons, Prod.mk.injEq, List.not_mem_nil, or_false] at hkw
    rcases hkw with ⟨rfl, rfl⟩ | ⟨rfl, rfl⟩ | ⟨rfl, rfl⟩
    · exact hname r.name
    · exact hns r.ns
    · exact howners

theorem lockRecord_configMap (ns : String) : r.configMap.lockRecord ns = r := by
  have howners : (r.owners.map OwnerRef.toJson).map Json.ownerRef = r.owners := by
    rw [List.map_map]
    exact List.map_id _
  show (⟨r.ns, r.name, (r.owners.map OwnerRef.toJson).map Json.ownerRef⟩ : LockRecord) = r
  rw [howners]

end LockRecord

/-! ## The codec -/

/-- The namespace is absent from the metadata, or null, or there is no metadata. -/
def Json.NamesNoNamespace (v : Json) : Prop :=
  v.metadataMember? "namespace" = none ∨ v.metadataMember? "namespace" = some .null

theorem ConfigMapTyped.namespace {v w : Json} (h : ConfigMapTyped v)
    (hw : v.metadataMember? "namespace" = some w) : MemberType.text.Holds w := by
  obtain ⟨ms, rfl, hms⟩ := h
  obtain ⟨md, hmd, hw⟩ := Option.bind_eq_some_iff.1 hw
  obtain rfl | ⟨inner, rfl, hinner⟩ := (hms _ _ (Json.mem_of_member? hmd) : MetadataTyped md)
  · cases hw
  · exact hinner _ _ (Json.mem_of_member? hw) .text rfl

/-- Two ConfigMaps with the same namespace, name and owners, as far as they are set. -/
structure AgreeOnRecord (v v' : Json) : Prop where
  ns : v.metadataText? "namespace" = v'.metadataText? "namespace"
  name : (v.metadataText? "name").getD "" = (v'.metadataText? "name").getD ""
  owners : List.Forall₂ (fun o o' => ∀ key ∈ OwnerRef.parts.map (·.1), o.textOf key = o'.textOf key)
    v.ownerObjects v'.ownerObjects

theorem AgreeOnRecord.lockRecord {v v' : Json} (h : AgreeOnRecord v v') (ns : String) :
    v.lockRecord ns = v'.lockRecord ns := by
  obtain ⟨hns, hname, howners⟩ := h
  have hlist : v.ownerObjects.map Json.ownerRef = v'.ownerObjects.map Json.ownerRef := by
    generalize v.ownerObjects = os at howners ⊢
    generalize v'.ownerObjects = os' at howners ⊢
    induction howners with
    | nil => rfl
    | cons ho _ ih => rw [List.map_cons, List.map_cons, ih, Json.ownerRef_congr ho]
  rw [Json.lockRecord, Json.lockRecord, hns, hname, hlist]

/-- Reading ConfigMaps as lock records, given the namespace to fall back to. -/
structure ConfigMapCodec (read : String → Reader LockRecord) : Prop where
  /-- The metadata of a record's ConfigMap stands for the record. -/
  inMemory : ∀ (r : LockRecord) ns, r.metadata.lockRecord ns = r
  inText : ∀ ns, RoundTrip LockRecord.configMap (read ns)
  /-- What is put into the ConfigMap of a record does not matter. -/
  extended : ∀ (r : LockRecord) ns v cs, ConfigMapExtends r.configMap v → Spells cs v →
    (read ns).run cs = .ok r
  /-- The namespace to fall back to counts if the ConfigMap names none, -/
  fallback : ∀ v cs, ConfigMapTyped v → Spells cs v → v.NamesNoNamespace →
    ∀ ns, ∃ r, (read ns).run cs = .ok r ∧ r.ns = ns
  /-- and only then. -/
  named : ∀ v cs, ConfigMapTyped v → Spells cs v → ¬ v.NamesNoNamespace →
    ∃ r, v.metadataMember? "namespace" = some (.text r.ns) ∧ ∀ ns, (read ns).run cs = .ok r
  /-- Nothing but the namespace, the name and the owners counts. -/
  agreeing : ∀ v v' cs cs', ConfigMapTyped v → ConfigMapTyped v' → Spells cs v → Spells cs' v' →
    AgreeOnRecord v v' → ∀ ns, ∃ r, (read ns).run cs = .ok r ∧ (read ns).run cs' = .ok r

/-- **Lock records survive as ConfigMaps**, in memory and as texts, whatever else is put into the
texts. -/
theorem configMapCodec : ConfigMapCodec LockRecord.readConfigMap := by
  have hrun : ∀ {v : Json} {cs : List Char}, ConfigMapTyped v → Spells cs v → ∀ ns,
      (LockRecord.readConfigMap ns).run cs = .ok (v.lockRecord ns) := by
    intro v cs hv hcs ns
    rw [run_of_spells hcs, readConfigMap_typed hv]
  constructor
  case inMemory => exact fun r ns => r.lockRecord_metadata ns
  case inText =>
    intro ns
    refine roundTrip_of_draft (fun r => r.plain_configMap) fun r => ?_
    rw [readConfigMap_typed r.configMap_typed, r.lockRecord_configMap]
  case extended =>
    intro r ns v cs hext hcs
    rw [hrun (hext.typed r.configMap_typed) hcs, hext.lockRecord, r.lockRecord_configMap]
  case fallback =>
    intro v cs hv hcs hnone ns
    refine ⟨_, hrun hv hcs ns, ?_⟩
    rw [Json.lockRecord, Json.metadataText?]
    obtain hmember | hmember := hnone <;> rw [hmember] <;> rfl
  case named =>
    intro v cs hv hcs hnamed
    obtain ⟨s, hs⟩ : ∃ s, v.metadataMember? "namespace" = some (.text s) := by
      cases hmember : v.metadataMember? "namespace" with
      | none => exact absurd (Or.inl hmember) hnamed
      | some w =>
        have htext := hv.namespace hmember
        cases w with
        | null => exact absurd (Or.inr hmember) hnamed
        | text s => exact ⟨s, rfl⟩
        | _ => cases htext
    have hns : ∀ ns, v.lockRecord ns = v.lockRecord s := by
      intro ns
      rw [Json.lockRecord, Json.lockRecord, Json.metadataText?, hs]
      rfl
    refine ⟨v.lockRecord s, ?_, fun ns => by rw [hrun hv hcs, hns]⟩
    rw [hs, Json.lockRecord, Json.metadataText?, hs]
    rfl
  case agreeing =>
    intro v v' cs cs' hv hv' hcs hcs' hagree ns
    exact ⟨_, hrun hv hcs ns, by rw [hrun hv' hcs', hagree.lockRecord]⟩

/-- The ConfigMap of a record to which a uid and data have been added, and one that names no
namespace. -/
theorem configMapCodec_addedMembers :
    let r : LockRecord := ⟨"ns1", "abc", []⟩
    let text := ("\x7b\"apiVersion\":\"v1\",\"kind\":\"ConfigMap\",\"data\":\x7b\x7d," ++
      "\"metadata\":\x7b\"name\":\"abc\",\"uid\":\"u1\",\"namespace\":\"ns1\"," ++
      "\"ownerReferences\":[]\x7d\x7d").toList
    let nameless := "\x7b\"metadata\":\x7b\"name\":\"abc\"\x7d\x7d".toList
    (LockRecord.readConfigMap "other").run text = .ok r ∧
      (LockRecord.readConfigMap "other").run text = (LockRecord.readConfigMap "").run text ∧
      (LockRecord.readConfigMap "other").run text =
        (LockRecord.readConfigMap "other").run r.configMap.compact.toList ∧
      ∃ r', (LockRecord.readConfigMap "other").run nameless = .ok r' ∧ r'.ns = "other" := by
  intro r text nameless
  let metadata : List (String × Json) :=
    [("name", .text "abc"), ("uid", .text "u1"), ("namespace", .text "ns1"),
      ("ownerReferences", .array [])]
  let v : Json := .object [("apiVersion", .text "v1"), ("kind", .text "ConfigMap"),
    ("data", .object []), ("metadata", .object metadata)]
  let w : Json := .object [("metadata", .object [("name", .text "abc")])]
  have htext : Spells text v := by
    refine spells_of_render ?_ (by decide +kernel)
    simp [v, metadata, Json.Plain, PlainMembers, PlainItems]
  have hnameless : Spells nameless w := by
    refine spells_of_render ?_ (by decide +kernel)
    simp [w, Json.Plain, PlainMembers]
  have hmetadata : MetadataExtends
      (.object [("name", .text "abc"), ("namespace", .text "ns1"), ("ownerReferences", .array [])])
      (.object metadata) := by
    have huid : MetadataMember "uid" (.text "u1") := by
      intro t ht
      cases ht
      trivial
    refine ⟨_, _, rfl, rfl, .keep ?_ (.insert ⟨by decide, huid⟩ (.keep ?_ (.keep ?_ .nil)))⟩
    · rfl
    · rfl
    · exact ⟨[], [], rfl, rfl, .nil⟩
  have hext : ConfigMapExtends r.configMap v := by
    have hdata : ConfigMapMember "data" (.object []) := by
      intro t ht
      cases ht
      intro k u h
      cases h
    refine ⟨_, _, rfl, rfl,
      .keep ?_ (.keep ?_ (.insert ⟨by decide, hdata⟩ (.keep hmetadata .nil)))⟩
    · rfl
    · rfl
  have hw : ConfigMapTyped w := by
    have hname : MetadataTyped (.object [("name", .text "abc")]) := by
      refine Or.inr ⟨_, rfl, fun key u h => ?_⟩
      cases List.mem_singleton.1 h
      intro t ht
      cases ht
      trivial
    refine ⟨_, rfl, fun key u h => ?_⟩
    cases List.mem_singleton.1 h
    exact hname
  have hnamed : ¬ v.NamesNoNamespace := by
    rintro (h | h) <;> cases h
  have hv : ConfigMapTyped v := hext.typed r.configMap_typed
  have hcompact : Spells r.configMap.compact.toList r.configMap :=
    spells_of_render r.plain_configMap String.toList_ofList.symm
  obtain ⟨r₁, -, hread⟩ := configMapCodec.named v text hv htext hnamed
  obtain ⟨r₂, hread₂, hread₂'⟩ := configMapCodec.agreeing v r.configMap text _ hv r.configMap_typed
    htext hcompact ⟨rfl, rfl, .nil⟩ "other"
  refine ⟨configMapCodec.extended r "other" v text hext htext, ?_, ?_, ?_⟩
  · rw [hread, hread]
  · rw [hread₂, hread₂']
  · exact configMapCodec.fallback w nameless hw hnameless (Or.inl rfl) "other"

end ClusterLock
