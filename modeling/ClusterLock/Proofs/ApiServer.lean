import ClusterLock.Proofs.Reading
import ClusterLock.Proofs.RequestPath
import ClusterLock.Proofs.Spelling
import Mathlib.Logic.Function.Basic

/-
  What is relied on of an API server. `ConfigMapServer` says that it keeps ConfigMaps by namespace
  and name, finds, adds and removes them under these, reports what is absent or present already,
  and may add metadata of its own to what it is sent (`StoredAs`); the texts of its replies may be
  spelled in any way. `get_eq`, `create_eq` and `delete_eq` say what the store of ConfigMaps answers
  over such a server, request, path, text and reply included.
-/
namespace ClusterLock

/-! ## Legal names -/

/-- The lower-case letters and the digits. -/
def isDnsAlnum (c : Char) : Bool := c.isLower || c.isDigit

/-- Letters, digits and hyphens, no hyphen first or last. -/
def IsDnsLabel (cs : List Char) : Prop :=
  cs ≠ [] ∧ (∀ c ∈ cs, isDnsAlnum c = true ∨ c = '-') ∧ cs.head? ≠ some '-' ∧
    cs.getLast? ≠ some '-'

/-- A legal namespace: one label of at most 63 characters. -/
def IsNamespace (s : String) : Prop := IsDnsLabel s.toList ∧ s.toList.length ≤ 63

/-- A legal name of a ConfigMap: labels with dots between them, at most 253 characters. -/
def IsObjectName (s : String) : Prop :=
  (∀ w ∈ segments '.' s.toList, IsDnsLabel w) ∧ s.toList.length ≤ 253

-- the characters of the list are tried, not all characters
instance (cs : List Char) : Decidable (IsDnsLabel cs) :=
  have : Decidable (∀ c ∈ cs, isDnsAlnum c = true ∨ c = '-') := List.decidableBAll _ cs
  inferInstanceAs (Decidable (_ ∧ _ ∧ _ ∧ _))

instance (s : String) : Decidable (IsNamespace s) := by unfold IsNamespace; infer_instance

instance (s : String) : Decidable (IsObjectName s) := by unfold IsObjectName; infer_instance

theorem mem_segments_of_ne {sep c : Char} (hc : c ≠ sep) {cs : List Char} (h : c ∈ cs) :
    ∃ w ∈ segments sep cs, c ∈ w := by
  induction cs with
  | nil => cases h
  | cons d cs ih =>
    rw [segments]
    by_cases hd : d = sep
    · rw [if_pos hd]
      rcases List.mem_cons.1 h with rfl | h
      · exact absurd hd hc
      · obtain ⟨w, hw, hcw⟩ := ih h
        exact ⟨w, List.mem_cons_of_mem _ hw, hcw⟩
    · rw [if_neg hd]
      cases hseg : segments sep cs with
      | nil => exact absurd hseg (segments_ne_nil sep cs)
      | cons v ws =>
        rw [hseg] at ih
        rcases List.mem_cons.1 h with rfl | h
        · exact ⟨_, List.mem_cons_self, List.mem_cons_self⟩
        · obtain ⟨w, hw, hcw⟩ := ih h
          rcases List.mem_cons.1 hw with rfl | hw
          · exact ⟨_, List.mem_cons_self, List.mem_cons_of_mem _ hcw⟩
          · exact ⟨w, List.mem_cons_of_mem _ hw, hcw⟩

/-- What may stand in a legal name may stand in a path. -/
theorem isPathChar_of_dns {c : Char} (h : isDnsAlnum c = true ∨ c = '-' ∨ c = '.') :
    isPathChar c = true ∧ c ≠ '/' := by
  rcases h with h | rfl | rfl
  · have hlower : c.isLower = (c.val ≥ 'a'.val && c.val ≤ 'z'.val) := rfl
    simp only [isDnsAlnum, hlower, Char.isDigit, Bool.or_eq_true, Bool.and_eq_true,
      decide_eq_true_eq, ge_iff_le, UInt32.le_iff_toNat_le] at h
    have hn : (0x61 ≤ c.toNat ∧ c.toNat ≤ 0x7a) ∨ (0x30 ≤ c.toNat ∧ c.toNat ≤ 0x39) := h
    constructor
    · simp only [isPathChar, Bool.or_eq_true, Bool.and_eq_true, decide_eq_true_eq]
      omega
    · rintro rfl
      revert hn
      decide
  · decide
  · decide

theorem utf8ByteSize_le (s : String) : s.utf8ByteSize ≤ 4 * s.toList.length := by
  rw [← String.utf8Len_toList]
  induction s.toList with
  | nil => exact Nat.le_refl 0
  | cons c cs ih =>
    have hc := c.utf8Size_le_four
    rw [String.utf8Len_cons, List.length_cons]
    omega

theorem IsNamespace.addressable {s : String} (h : IsNamespace s) : Addressable s where
  chars := by
    intro c hc
    exact isPathChar_of_dns ((h.1.2.1 c hc).imp_right Or.inl)
  size := by
    have hsize := utf8ByteSize_le s
    have hlength := h.2
    unfold maxPartSize
    omega

theorem IsObjectName.addressable {s : String} (h : IsObjectName s) : Addressable s where
  chars := by
    intro c hc
    by_cases hdot : c = '.'
    · exact isPathChar_of_dns (Or.inr (Or.inr hdot))
    · obtain ⟨w, hw, hcw⟩ := mem_segments_of_ne hdot hc
      exact isPathChar_of_dns (((h.1 w hw).2.1 c hcw).imp_right Or.inl)
  size := by
    have hsize := utf8ByteSize_le s
    have hlength := h.2
    unfold maxPartSize
    omega

theorem IsObjectName.ne_empty {s : String} (h : IsObjectName s) : s ≠ "" := by
  rintro rfl
  exact (h.1 [] List.mem_cons_self).1 rfl

theorem Addressable.slash_notMem {s : String} (h : Addressable s) : '/' ∉ s.toList :=
  fun hc => (h.chars _ hc).2 rfl

/-! ## Replies -/

/-- A success whose body holds the value. -/
def Reply.Holds (reply : Reply) (v : Json) : Prop :=
  ∃ status body cs, reply = .response status body ∧ 200 ≤ status ∧ status < 300 ∧
    body.read = .ok cs ∧ Spells cs v

/-- A failure whose body reports it. -/
def Reply.Reports (reply : Reply) (code : Nat) (reason : String) : Prop :=
  ∃ body cs ms status message, reply = .response code body ∧ body.read = .ok cs ∧
    Spells cs (.object ms) ∧ (ms.map (·.1)).Nodup ∧
    (Json.object ms).member? "status" = some (.text status) ∧
    (Json.object ms).member? "message" = some (.text message) ∧
    (Json.object ms).member? "reason" = some (.text reason) ∧
    (Json.object ms).member? "code" = some (.ofNat code)

theorem Reply.decode_of_holds {reply : Reply} {v : Json} (h : reply.Holds v) {α : Type}
    (read : Reader α) : reply.decode read = (read v.draft).mapError .unreadable := by
  obtain ⟨status, body, cs, rfl, h1, h2, hbody, hv⟩ := h
  have hok : (Reply.response status body).body = .ok cs := by
    rw [Reply.body, hbody]
    exact if_neg (by omega)
  unfold Reply.decode
  rw [hok]
  show (read.run cs).mapError _ = _
  rw [run_of_spells hv]

theorem Reply.decode_of_reports {reply : Reply} {code : Nat} {reason : String}
    (h : reply.Reports code reason) (h1 : 400 ≤ code) (h2 : code < 600) {α : Type}
    (read : Reader α) :
    ∃ status message, reply.decode read = .error (.answered ⟨status, message, reason, code⟩) := by
  obtain ⟨body, cs, ms, status, message, rfl, hbody, hv, hn, hs, hm, hr, hc⟩ := h
  refine ⟨status, message, ?_⟩
  have hread : StatusError.ofBody code cs = ⟨status, message, reason, code⟩ := by
    have hrun := run_of_spells hv StatusError.read
    rw [StatusError.read_object hn (by omega) hs hm hr hc] at hrun
    simp only [StatusError.ofBody, hrun]
  have hfail : (Reply.response code body).body =
      .error (.answered ⟨status, message, reason, code⟩) := by
    rw [Reply.body, hbody]
    simp only [hread]
    exact if_pos ⟨h1, h2⟩
  unfold Reply.decode
  rw [hfail]
  rfl

/-! ## ConfigMaps on a server -/

/-- The last member of that name in the metadata of an object. -/
def Json.metadataMember? (key : String) (v : Json) : Option Json :=
  (v.member? "metadata").bind (Json.member? key)

/-- The texts that a server may add to the metadata. -/
def addedTexts : List String := ["uid", "resourceVersion", "creationTimestamp", "selfLink"]

/-- What a server keeps of an object that is posted to a namespace: the object, with the
namespace and with metadata of the server's own. No name stands twice in an object that it has
put together. -/
structure StoredAs (ns : String) (body v : Json) : Prop where
  isObject : ∃ ms inner, v = .object ms ∧ (ms.map (·.1)).Nodup ∧
    v.member? "metadata" = some (.object inner) ∧ (inner.map (·.1)).Nodup
  others : ∀ key, key ≠ "metadata" → v.member? key = body.member? key
  posted : ∀ key, key ≠ "namespace" → key ∉ addedTexts → key ≠ "managedFields" →
    v.metadataMember? key = body.metadataMember? key
  inNamespace : v.metadataMember? "namespace" = some (.text ns)
  texts : ∀ key ∈ addedTexts, ∀ w, v.metadataMember? key = some w → ∃ s, w = .text s
  managed : ∀ w, v.metadataMember? "managedFields" = some w →
    ∃ entries : List (List (String × Json)), w = .array (entries.map .object)
  fits : v.Fits nestingLimit

/-- The report with which a server may answer a deletion. -/
def deletionReport (name uid : String) : Json :=
  .object [("kind", .text "Status"), ("apiVersion", .text "v1"), ("metadata", .object []),
    ("status", .text "Success"),
    ("details", .object [("name", .text name), ("kind", .text "configmaps"),
      ("uid", .text uid)])]

/-- The members of a record's ConfigMap. -/
theorem LockRecord.member?_configMap (r : LockRecord) :
    r.configMap.member? "apiVersion" = some (.text "v1") ∧
      r.configMap.member? "kind" = some (.text "ConfigMap") ∧
      r.configMap.metadataMember? "name" = some (.text r.name) ∧
      r.configMap.metadataMember? "ownerReferences" =
        some (.array (r.owners.map OwnerRef.toJson)) :=
  ⟨rfl, rfl, rfl, rfl⟩

/-- A record's ConfigMap has no other members. -/
theorem LockRecord.names_configMap (r : LockRecord) {key : String} {v : Json}
    (h : r.configMap.member? key = some v) :
    key = "apiVersion" ∨ key = "kind" ∨ key = "metadata" := by
  simp only [LockRecord.configMap, Json.member?_object_cons, Json.member?_object_nil] at h
  by_cases h1 : key = "metadata"
  · exact Or.inr (Or.inr h1)
  · by_cases h2 : key = "kind"
    · exact Or.inr (Or.inl h2)
    · by_cases h3 : key = "apiVersion"
      · exact Or.inl h3
      · simp [h1, h2, h3] at h

theorem LockRecord.metadataNames_configMap (r : LockRecord) {key : String} {v : Json}
    (h : r.configMap.metadataMember? key = some v) :
    key = "name" ∨ key = "namespace" ∨ key = "ownerReferences" := by
  have hmeta : r.configMap.metadataMember? key =
      (Json.object [("name", .text r.name), ("namespace", .text r.ns),
        ("ownerReferences", .array (r.owners.map OwnerRef.toJson))]).member? key := rfl
  rw [hmeta] at h
  simp only [Json.member?_object_cons, Json.member?_object_nil] at h
  by_cases h1 : key = "name"
  · exact Or.inl h1
  · by_cases h2 : key = "namespace"
    · exact Or.inr (Or.inl h2)
    · by_cases h3 : key = "ownerReferences"
      · exact Or.inr (Or.inr h3)
      · simp [h1, h2, h3] at h

/-- What a server keeps of a record's ConfigMap stands for the record. -/
theorem readConfigMap_of_storedAs {ns : String} {r : LockRecord} {v : Json}
    (h : StoredAs ns r.configMap v) :
    LockRecord.readConfigMap ns v.draft = .ok ⟨ns, r.name, r.owners⟩ := by
  obtain ⟨ms, inner, rfl, hms, hinner, hinnern⟩ := h.isObject
  obtain ⟨hv, hk, hname, howners⟩ := r.member?_configMap
  have hmember : ∀ key, (Json.object ms).metadataMember? key = (Json.object inner).member? key := by
    intro key
    rw [Json.metadataMember?, hinner]
    rfl
  have hinnerok : ∀ k w, (k, w) ∈ inner → Metadata.Accepts k w := by
    intro k w hkw
    have hw := Json.member?_of_mem hinnern hkw
    rw [← hmember] at hw
    by_cases h1 : k = "namespace"
    · subst h1
      rw [h.inNamespace] at hw
      cases hw
      exact Metadata.accepts_text (by decide) ns
    by_cases h2 : k ∈ addedTexts
    · obtain ⟨s, rfl⟩ := h.texts k h2 w hw
      refine Metadata.accepts_text ?_ s
      simp only [addedTexts, List.mem_cons, List.not_mem_nil, or_false] at h2
      rcases h2 with rfl | rfl | rfl | rfl <;> decide
    by_cases h3 : k = "managedFields"
    · subst h3
      obtain ⟨entries, rfl⟩ := h.managed w hw
      exact Metadata.accepts_managedFields entries
    · rw [h.posted k h1 h2 h3] at hw
      rcases r.metadataNames_configMap hw with rfl | rfl | rfl
      · rw [hname] at hw
        cases hw
        exact Metadata.accepts_text (by decide) r.name
      · exact absurd rfl h1
      · rw [howners] at hw
        cases hw
        exact Metadata.accepts_owners r.owners
  have hok : ∀ k w, (k, w) ∈ ms → ObjectShape.configMap.Accepts k w := by
    intro k w hkw
    have hw := Json.member?_of_mem hms hkw
    by_cases h1 : k = "metadata"
    · subst h1
      rw [hinner] at hw
      cases hw
      exact ObjectShape.accepts_metadata hinnerok
    · rw [h.others k h1] at hw
      rcases r.names_configMap hw with rfl | rfl | rfl
      · rw [hv] at hw
        cases hw
        exact (ObjectShape.accepts_constants ObjectShape.configMap).1
      · rw [hk] at hw
        cases hw
        exact (ObjectShape.accepts_constants ObjectShape.configMap).2
      · exact absurd rfl h1
  obtain ⟨md, hmd⟩ := Metadata.read_ok hinnerok
  obtain ⟨hmns, hmname, hmowners⟩ := Metadata.read_spec hmd
  rw [← hmember, h.inNamespace] at hmns
  rw [← hmember, h.posted _ (by decide) (by decide) (by decide), hname] at hmname
  rw [← hmember, h.posted _ (by decide) (by decide) (by decide), howners] at hmowners
  rw [LockRecord.readConfigMap, ObjectShape.read_object hinner hmd hok]
  show Except.ok (md.lockRecord ns) = _
  rw [Metadata.lockRecord, hmns, hmname, hmowners]
  simp only [Option.bind_some, Json.text?, Metadata.owners?_toJson, Option.getD_some]

/-! ## The server -/

section

variable {σ : Type}

/-- A server that works in the given states and keeps the given ConfigMaps by namespace and
name. -/
structure ConfigMapServer (t : Transport σ) (works : σ → Prop)
    (kept : σ → String × String → Option Json) : Prop where
  get : ∀ s ns name q, works s → IsNamespace ns → IsObjectName name → q.method = .get →
    q.path = configMapPath ns name →
    works (t.send q s).2 ∧ kept (t.send q s).2 = kept s ∧
      match kept s (ns, name) with
      | some v => (t.send q s).1.Holds v
      | none => (t.send q s).1.Reports 404 "NotFound"
  create : ∀ s r q, works s → IsNamespace (LockRecord.ns r) → IsObjectName r.name →
    q.method = .post → q.path = configMapsPath r.ns → q.body = some r.configMap →
    works (t.send q s).2 ∧
      match kept s (r.ns, r.name) with
      | some _ => (t.send q s).1.Reports 409 "AlreadyExists" ∧ kept (t.send q s).2 = kept s
      | none => ∃ v, StoredAs r.ns r.configMap v ∧ (t.send q s).1.Holds v ∧
          kept (t.send q s).2 = Function.update (kept s) (r.ns, r.name) (some v)
  delete : ∀ s ns name q, works s → IsNamespace ns → IsObjectName name → q.method = .delete →
    q.path = configMapPath ns name →
    works (t.send q s).2 ∧
      match kept s (ns, name) with
      | some v => ((t.send q s).1.Holds v ∨ ∃ uid, (t.send q s).1.Holds (deletionReport name uid)) ∧
          kept (t.send q s).2 = Function.update (kept s) (ns, name) none
      | none => (t.send q s).1.Reports 404 "NotFound" ∧ kept (t.send q s).2 = kept s

/-- The object can be read as the record, and as a whole. -/
def StandsFor (ns : String) (v : Json) (r : LockRecord) : Prop :=
  LockRecord.readConfigMap ns v.draft = .ok r ∧ v.Fits nestingLimit

theorem StoredAs.standsFor {r : LockRecord} {v : Json} (h : StoredAs r.ns r.configMap v) :
    StandsFor r.ns v r :=
  ⟨readConfigMap_of_storedAs h, h.fits⟩

/-- A ConfigMap is no report on a deletion. -/
theorem StandsFor.kind_ne {ns : String} {v : Json} {r : LockRecord} (h : StandsFor ns v r) :
    v.member? "kind" ≠ some (.text "Status") := by
  intro hk
  obtain ⟨m, hm, -⟩ := Except.map_eq_ok h.1
  cases v with
  | object ms =>
    have hmem := Json.mem_of_member? hk
    obtain ⟨t, t', ht⟩ : ∃ t t', ObjectShape.configMap.visit t "kind"
        (Json.text "Status").draft = .ok t' := Reader.visit_of_members_ok hm hmem
    cases ht
  | null => cases hk
  | bool b => cases hk
  | number n => cases hk
  | text s => cases hk
  | array items => cases hk

theorem StandsFor.readDeleted {ns : String} {v : Json} {r : LockRecord} (h : StandsFor ns v r) :
    readDeleted v.draft = .ok () := by
  obtain ⟨m, hm, -⟩ := Except.map_eq_ok h.1
  unfold ClusterLock.readDeleted
  rw [whole_draft h.2]
  simp only [Except.mapError, bind, Except.bind]
  split
  · rename_i hk
    exact absurd hk h.kind_ne
  · rw [hm]
    rfl

theorem readDeleted_deletionReport (name uid : String) :
    readDeleted (deletionReport name uid).draft = .ok () := by
  have hfits : (deletionReport name uid).Fits nestingLimit := by
    simp [deletionReport, Json.Fits, MembersFit, nestingLimit]
  unfold readDeleted
  rw [whole_draft hfits]
  rfl

/-! ## The store over a server -/

variable {t : Transport σ} {works : σ → Prop} {kept : σ → String × String → Option Json}
  (hs : ConfigMapServer t works kept) {s : σ} (hw : works s) {ns name : String}

namespace ConfigMapStore

theorem get_of_addressable (t : Transport σ) (hns : Addressable ns) (hname : Addressable name)
    (hne : name ≠ "") (s : σ) :
    get t ns name s =
      (((t.send ⟨.get, configMapPath ns name, none⟩ s).1.decode
        (LockRecord.readConfigMap ns)).mapError (ApiError.classify ns name),
        (t.send ⟨.get, configMapPath ns name, none⟩ s).2) := by
  simp only [get, Transport.ask, getRequest_of_addressable hns hname hne]

theorem create_of_addressable (t : Transport σ) {r : LockRecord} (hns : Addressable r.ns)
    (s : σ) :
    create t r s =
      (((t.send ⟨.post, configMapsPath r.ns, some r.configMap⟩ s).1.decode
        (LockRecord.readConfigMap r.ns)).mapError (ApiError.classify r.ns r.name),
        (t.send ⟨.post, configMapsPath r.ns, some r.configMap⟩ s).2) := by
  simp only [create, Transport.ask, createRequest_of_addressable hns]

theorem delete_of_addressable (t : Transport σ) (hns : Addressable ns) (hname : Addressable name)
    (hne : name ≠ "") (s : σ) :
    delete t ns name s =
      (((t.send ⟨.delete, configMapPath ns name, some (.object [])⟩ s).1.decode
        readDeleted).mapError (ApiError.classify ns name),
        (t.send ⟨.delete, configMapPath ns name, some (.object [])⟩ s).2) := by
  simp only [delete, Transport.ask, deleteRequest_of_addressable hns hname hne]

include hs hw

theorem get_eq (hns : IsNamespace ns) (hname : IsObjectName name) :
    works (get t ns name s).2 ∧ kept (get t ns name s).2 = kept s ∧
      (∀ v r, kept s (ns, name) = some v → StandsFor ns v r → (get t ns name s).1 = .ok r) ∧
      (kept s (ns, name) = none → (get t ns name s).1 = .error (.notFound ns name)) := by
  obtain ⟨hw', hk', hreply⟩ := hs.get s ns name ⟨.get, configMapPath ns name, none⟩ hw hns hname
    rfl rfl
  rw [get_of_addressable t hns.addressable hname.addressable hname.ne_empty]
  refine ⟨hw', hk', ?_, ?_⟩
  · intro v r hv hr
    rw [hv] at hreply
    rw [Reply.decode_of_holds hreply, hr.1]
    rfl
  · intro hn
    rw [hn] at hreply
    obtain ⟨status, message, hd⟩ := Reply.decode_of_reports hreply (by decide) (by decide)
      (LockRecord.readConfigMap ns)
    rw [hd]
    rfl

theorem create_eq {r : LockRecord} (hns : IsNamespace r.ns) (hname : IsObjectName r.name) :
    works (create t r s).2 ∧
      (∀ v, kept s (r.ns, r.name) = some v →
        (create t r s).1 = .error (.alreadyExists r.ns r.name) ∧
          kept (create t r s).2 = kept s) ∧
      (kept s (r.ns, r.name) = none →
        (create t r s).1 = .ok r ∧ ∃ v, StandsFor r.ns v r ∧
          kept (create t r s).2 = Function.update (kept s) (r.ns, r.name) (some v)) := by
  obtain ⟨hw', hreply⟩ := hs.create s r ⟨.post, configMapsPath r.ns, some r.configMap⟩ hw hns
    hname rfl rfl rfl
  rw [create_of_addressable t hns.addressable]
  refine ⟨hw', ?_, ?_⟩
  · intro v hv
    rw [hv] at hreply
    obtain ⟨hrep, hk'⟩ := hreply
    obtain ⟨status, message, hd⟩ := Reply.decode_of_reports hrep (by decide) (by decide)
      (LockRecord.readConfigMap r.ns)
    refine ⟨?_, hk'⟩
    rw [hd]
    rfl
  · intro hn
    rw [hn] at hreply
    obtain ⟨v, hstored, hholds, hk'⟩ := hreply
    refine ⟨?_, v, hstored.standsFor, hk'⟩
    rw [Reply.decode_of_holds hholds, hstored.standsFor.1]
    rfl

theorem delete_eq (hns : IsNamespace ns) (hname : IsObjectName name) :
    works (delete t ns name s).2 ∧
      (∀ v r, kept s (ns, name) = some v → StandsFor ns v r →
        (delete t ns name s).1 = .ok () ∧
          kept (delete t ns name s).2 = Function.update (kept s) (ns, name) none) ∧
      (kept s (ns, name) = none →
        (delete t ns name s).1 = .error (.notFound ns name) ∧
          kept (delete t ns name s).2 = kept s) := by
  obtain ⟨hw', hreply⟩ := hs.delete s ns name
    ⟨.delete, configMapPath ns name, some (.object [])⟩ hw hns hname rfl rfl
  rw [delete_of_addressable t hns.addressable hname.addressable hname.ne_empty]
  refine ⟨hw', ?_, ?_⟩
  · intro v r hv hr
    rw [hv] at hreply
    obtain ⟨hrep | ⟨uid, hrep⟩, hk'⟩ := hreply
    · refine ⟨?_, hk'⟩
      rw [Reply.decode_of_holds hrep, hr.readDeleted]
      rfl
    · refine ⟨?_, hk'⟩
      rw [Reply.decode_of_holds hrep, readDeleted_deletionReport]
      rfl
  · intro hn
    rw [hn] at hreply
    obtain ⟨hrep, hk'⟩ := hreply
    obtain ⟨status, message, hd⟩ := Reply.decode_of_reports hrep (by decide) (by decide)
      readDeleted
    refine ⟨?_, hk'⟩
    rw [hd]
    rfl

end ConfigMapStore

end

end ClusterLock
