import ClusterLock.MemoryStore
import ClusterLock.Proofs.ApiServer
import ClusterLock.Proofs.RoundTrip
import Mathlib.Data.List.Sort

/-
  A server that works as a `ConfigMapServer`: `ApiServer` with no replies laid down. It sorts the
  members of what it sends by their names, so that the texts of its replies differ from what it was
  sent; `member?_sortMembers` says that they hold the same all the same.
-/
namespace ClusterLock

/-! ## Sorted members -/

/-- The last member of each name. -/
def lastMembers (ms : List (String × Json)) : List (String × Json) :=
  ms.reverse.foldl (fun kept (k, v) =>
    if (kept.lookup k).isSome then kept else (k, v) :: kept) []

theorem sortMembers_eq (ms : List (String × Json)) :
    sortMembers ms = (lastMembers ms).mergeSort fun a b => a.1 ≤ b.1 := rfl

theorem lastMembers_cons (k : String) (v : Json) (ms : List (String × Json)) :
    lastMembers ((k, v) :: ms) =
      if ((lastMembers ms).lookup k).isSome then lastMembers ms else (k, v) :: lastMembers ms := by
  simp only [lastMembers, List.foldl_reverse, List.foldr_cons]

theorem mem_of_mem_lastMembers {ms : List (String × Json)} {kv : String × Json}
    (h : kv ∈ lastMembers ms) : kv ∈ ms := by
  induction ms with
  | nil => cases h
  | cons kw ms ih =>
    obtain ⟨k, v⟩ := kw
    rw [lastMembers_cons] at h
    split at h
    · exact List.mem_cons_of_mem _ (ih h)
    · rcases List.mem_cons.1 h with rfl | h
      · exact List.mem_cons_self
      · exact List.mem_cons_of_mem _ (ih h)

theorem mem_names_of_lookup {ms : List (String × Json)} {k : String} :
    (ms.lookup k).isSome = true ↔ k ∈ ms.map (·.1) := by
  induction ms with
  | nil => simp
  | cons kw ms ih =>
    obtain ⟨k', v⟩ := kw
    rw [List.lookup_cons, List.map_cons, List.mem_cons, ← ih]
    by_cases h : k = k'
    · simp [h]
    · have hb : (k == k') = false := by simpa using h
      simp [h, hb]

theorem nodup_lastMembers (ms : List (String × Json)) : ((lastMembers ms).map (·.1)).Nodup := by
  induction ms with
  | nil => exact List.nodup_nil
  | cons kw ms ih =>
    obtain ⟨k, v⟩ := kw
    rw [lastMembers_cons]
    split
    · exact ih
    · rename_i h
      rw [mem_names_of_lookup] at h
      rw [List.map_cons, List.nodup_cons]
      exact ⟨h, ih⟩

theorem member?_lastMembers (ms : List (String × Json)) (key : String) :
    (Json.object (lastMembers ms)).member? key = (Json.object ms).member? key := by
  induction ms with
  | nil => rfl
  | cons kw ms ih =>
    obtain ⟨k, v⟩ := kw
    rw [lastMembers_cons, Json.member?_object_cons]
    split
    · rename_i h
      rw [ih]
      by_cases hk : key = k
      · -- a later member of that name counts
        subst hk
        rw [mem_names_of_lookup] at h
        obtain ⟨⟨k', w⟩, hmem, hk'⟩ := List.mem_map.1 h
        dsimp only at hk'
        subst hk'
        rw [← ih, Json.member?_of_mem (nodup_lastMembers ms) hmem]
        rfl
      · rw [if_neg hk, Option.or_none]
    · rw [Json.member?_object_cons, ih]

theorem perm_sortMembers (ms : List (String × Json)) : (sortMembers ms).Perm (lastMembers ms) :=
  List.mergeSort_perm _ _

theorem mem_of_mem_sortMembers {ms : List (String × Json)} {kv : String × Json}
    (h : kv ∈ sortMembers ms) : kv ∈ ms :=
  mem_of_mem_lastMembers ((perm_sortMembers ms).mem_iff.1 h)

/-- In sorted members no name stands twice. -/
theorem nodup_sortMembers (ms : List (String × Json)) : ((sortMembers ms).map (·.1)).Nodup :=
  ((perm_sortMembers ms).map _).nodup_iff.2 (nodup_lastMembers ms)

/-- Sorted members hold the same. -/
theorem member?_sortMembers (ms : List (String × Json)) (key : String) :
    (Json.object (sortMembers ms)).member? key = (Json.object ms).member? key := by
  rw [← member?_lastMembers ms]
  cases h : (Json.object (lastMembers ms)).member? key with
  | some v =>
    have hmem := Json.mem_of_member? h
    exact Json.member?_of_mem (nodup_sortMembers ms) ((perm_sortMembers ms).mem_iff.2 hmem)
  | none =>
    refine Json.member?_eq_none fun hkey => ?_
    obtain ⟨⟨k, v⟩, hmem, rfl⟩ := List.mem_map.1 hkey
    have hv := Json.member?_of_mem (nodup_lastMembers ms) ((perm_sortMembers ms).mem_iff.1 hmem)
    rw [hv] at h
    cases h

/-! ## What the server keeps and sends -/

theorem plainMembers_iff {ms : List (String × Json)} :
    PlainMembers ms ↔ ∀ kv ∈ ms, kv.2.Plain := by
  induction ms with
  | nil => simp [PlainMembers]
  | cons kv ms ih => simp [PlainMembers, ih]

theorem membersFit_iff {depth : Nat} {ms : List (String × Json)} :
    MembersFit depth ms ↔ ∀ kv ∈ ms, kv.2.Fits depth := by
  induction ms with
  | nil => simp [MembersFit]
  | cons kv ms ih => simp [MembersFit, ih]

theorem plainMembers_sortMembers {ms : List (String × Json)} (h : PlainMembers ms) :
    PlainMembers (sortMembers ms) := by
  rw [plainMembers_iff] at h ⊢
  exact fun kv hkv => h kv (mem_of_mem_sortMembers hkv)

theorem membersFit_sortMembers {depth : Nat} {ms : List (String × Json)}
    (h : MembersFit depth ms) : MembersFit depth (sortMembers ms) := by
  rw [membersFit_iff] at h ⊢
  exact fun kv hkv => h kv (mem_of_mem_sortMembers hkv)

theorem ofJson_holds {status : Nat} {v : Json} (h1 : 200 ≤ status) (h2 : status < 300)
    (hv : v.sorted.Plain) : (Reply.ofJson status v).Holds v.sorted := by
  refine ⟨status, .text v.sorted.compact, v.sorted.render, rfl, h1, h2, ?_, spells_render hv⟩
  rw [Content.read, Json.compact, String.toList_ofList]

theorem failure_reports (status : Nat) (reason : String) :
    (Reply.failure status reason).Reports status reason := by
  let ms : List (String × Json) := [("kind", .text "Status"), ("apiVersion", .text "v1"),
    ("metadata", (Json.object []).sorted), ("status", .text "Failure"),
    ("message", .text ("fake api server: " ++ reason)), ("reason", .text reason),
    ("code", .ofNat status)]
  have hplain : (Json.object (sortMembers ms)).Plain := by
    refine plainMembers_sortMembers ?_
    simp [ms, PlainMembers, Json.Plain, Json.sorted, sortedMembers, sortMembers, Json.ofNat,
      Numeral.ofNat, Numeral.Plain]
  refine ⟨.text (Json.object (sortMembers ms)).compact, (Json.object (sortMembers ms)).render,
    sortMembers ms, "Failure", "fake api server: " ++ reason, rfl, ?_, spells_render hplain,
    nodup_sortMembers ms, ?_, ?_, ?_, ?_⟩
  · rw [Content.read, Json.compact, String.toList_ofList]
  · rw [member?_sortMembers]
    rfl
  · rw [member?_sortMembers]
    rfl
  · rw [member?_sortMembers]
    rfl
  · rw [member?_sortMembers]
    rfl

theorem lastMembers_of_nodup {ms : List (String × Json)} (h : (ms.map (·.1)).Nodup) :
    lastMembers ms = ms := by
  induction ms with
  | nil => rfl
  | cons kv ms ih =>
    obtain ⟨k, v⟩ := kv
    rw [List.map_cons, List.nodup_cons] at h
    rw [lastMembers_cons, ih h.2, if_neg]
    rw [mem_names_of_lookup]
    exact h.1

theorem sortMembers_of_sorted {ms : List (String × Json)} (hn : (ms.map (·.1)).Nodup)
    (hp : ms.Pairwise fun a b => a.1 ≤ b.1) : sortMembers ms = ms := by
  rw [sortMembers_eq, lastMembers_of_nodup hn]
  exact List.mergeSort_of_pairwise (by simpa using hp)

theorem sorted_ownerRef (o : OwnerRef) : o.toJson.sorted = o.toJson := by
  show Json.object (sortMembers [("apiVersion", .text o.apiVersion), ("kind", .text o.kind),
    ("name", .text o.name), ("uid", .text o.uid)]) = _
  rw [sortMembers_of_sorted]
  · rfl
  · simp
  · simp

theorem sortedItems_owners (owners : List OwnerRef) :
    sortedItems (owners.map OwnerRef.toJson) = owners.map OwnerRef.toJson := by
  induction owners with
  | nil => rfl
  | cons o owners ih => rw [List.map_cons, sortedItems, sorted_ownerRef, ih]

/-- The metadata that the server keeps of a record's ConfigMap, before it is sorted. -/
def keptMetadata (ns : String) (r : LockRecord) : List (String × Json) :=
  [("name", .text r.name), ("ownerReferences", .array (r.owners.map OwnerRef.toJson)),
    ("namespace", .text ns), ("uid", .text ("uid-" ++ r.name)), ("resourceVersion", .text "1")]

/-- The members that the server keeps of a record's ConfigMap, before they are sorted. -/
def keptMembers (ns : String) (r : LockRecord) : List (String × Json) :=
  [("apiVersion", .text "v1"), ("kind", .text "ConfigMap"),
    ("metadata", .object (sortMembers (keptMetadata ns r)))]

theorem sorted_stored (ns : String) (r : LockRecord) :
    (stored ns r.name r.configMap).sorted = .object (sortMembers (keptMembers ns r)) := by
  have hstored : stored ns r.name r.configMap = .object [("apiVersion", .text "v1"),
      ("kind", .text "ConfigMap"), ("metadata", .object (keptMetadata ns r))] := rfl
  rw [hstored]
  simp only [Json.sorted, sortedMembers, keptMetadata, sortedItems_owners, keptMembers]

theorem itemsFit_owners (owners : List OwnerRef) (depth : Nat) (hd : 0 < depth) :
    ItemsFit depth (owners.map OwnerRef.toJson) := by
  induction owners with
  | nil => trivial
  | cons o owners ih =>
    refine ⟨?_, ih⟩
    simp [OwnerRef.toJson, Json.Fits, MembersFit, hd]

theorem plain_stored (ns : String) (r : LockRecord) :
    (stored ns r.name r.configMap).sorted.Plain := by
  rw [sorted_stored]
  refine plainMembers_sortMembers ?_
  have hmeta : PlainMembers (sortMembers (keptMetadata ns r)) := by
    refine plainMembers_sortMembers ?_
    simp [keptMetadata, PlainMembers, Json.Plain, plainItems_owners]
  exact ⟨trivial, trivial, hmeta, trivial⟩

/-- What the server keeps of a record's ConfigMap is what any server keeps of it. -/
theorem storedAs_stored (ns : String) (r : LockRecord) :
    StoredAs ns r.configMap (stored ns r.name r.configMap).sorted := by
  rw [sorted_stored]
  have hmeta : (Json.object (sortMembers (keptMembers ns r))).member? "metadata" =
      some (.object (sortMembers (keptMetadata ns r))) := by
    rw [member?_sortMembers]
    rfl
  have hinner : ∀ key, (Json.object (sortMembers (keptMembers ns r))).metadataMember? key =
      (Json.object (keptMetadata ns r)).member? key := by
    intro key
    rw [Json.metadataMember?, hmeta]
    exact member?_sortMembers _ key
  refine ⟨⟨_, _, rfl, nodup_sortMembers _, hmeta, nodup_sortMembers _⟩, ?_, ?_, ?_, ?_, ?_, ?_⟩
  · intro key hkey
    rw [member?_sortMembers]
    simp [keptMembers, LockRecord.configMap, Json.member?_object_cons, Json.member?_object_nil,
      hkey]
  · intro key h1 h2 h3
    rw [hinner]
    have hposted : r.configMap.metadataMember? key =
        (Json.object [("name", .text r.name), ("namespace", .text r.ns),
          ("ownerReferences", .array (r.owners.map OwnerRef.toJson))]).member? key := rfl
    have huid : key ≠ "uid" := fun h => h2 (by rw [h]; decide)
    have hversion : key ≠ "resourceVersion" := fun h => h2 (by rw [h]; decide)
    rw [hposted]
    simp only [keptMetadata, Json.member?_object_cons, Json.member?_object_nil, h1, huid,
      hversion, if_false, Option.or_none, Option.none_or]
  · rw [hinner]
    rfl
  · intro key hkey w hw
    rw [hinner] at hw
    simp only [addedTexts, List.mem_cons, List.not_mem_nil, or_false] at hkey
    rcases hkey with rfl | rfl | rfl | rfl
    · cases hw
      exact ⟨_, rfl⟩
    · cases hw
      exact ⟨_, rfl⟩
    · cases hw
    · cases hw
  · intro w hw
    rw [hinner] at hw
    cases hw
  · refine ⟨by decide, membersFit_sortMembers ?_⟩
    have howners := itemsFit_owners r.owners (nestingLimit - 3) (by decide)
    have hfit : MembersFit (nestingLimit - 2) (sortMembers (keptMetadata ns r)) := by
      refine membersFit_sortMembers ?_
      exact ⟨trivial, ⟨by decide, howners⟩, trivial, trivial, trivial, trivial⟩
    exact ⟨trivial, trivial, ⟨by decide, hfit⟩, trivial⟩

/-! ## The server -/

namespace ApiServer

/-- No replies are laid down, and every ConfigMap can be written. -/
def Works (s : ApiServer) : Prop :=
  s.scripts = [] ∧ ∀ key v, s.configMaps.lookup key = some v → v.sorted.Plain

/-- The ConfigMaps as the server sends them. -/
def kept (s : ApiServer) (key : String × String) : Option Json :=
  (s.configMaps.lookup key).map Json.sorted

theorem send_eq {s : ApiServer} (h : s.scripts = []) (q : Request) :
    serverTransport.send q s = serve q { s with requests := s.requests ++ [q] } := by
  show handle q s = _
  simp only [handle, h, takeScript]

theorem serve_get {s : ApiServer} {q : Request} (hm : q.method = .get) {key : String × String}
    (hq : configMapPath? q.path = some key) :
    serve q s = match s.configMaps.lookup key with
      | some v => (.ofJson 200 v, s)
      | none => (.failure 404 "NotFound", s) := by
  cases hl : s.configMaps.lookup key with
  | none => simp only [serve, hm, hq, hl]
  | some v => simp only [serve, hm, hq, hl]

theorem serve_delete {s : ApiServer} {q : Request} (hm : q.method = .delete)
    {key : String × String} (hq : configMapPath? q.path = some key) :
    serve q s = match s.configMaps.lookup key with
      | some v => (.ofJson 200 v, { s with configMaps := s.configMaps.filter (·.1 != key) })
      | none => (.failure 404 "NotFound", s) := by
  cases hl : s.configMaps.lookup key with
  | none => simp only [serve, hm, hq, hl]
  | some v => simp only [serve, hm, hq, hl]

theorem serve_post {s : ApiServer} {q : Request} (hm : q.method = .post) {ns : String}
    (hq : configMapsPath? q.path = some ns) {r : LockRecord} (hb : q.body = some r.configMap) :
    serve q s =
      if (s.configMaps.lookup (ns, r.name)).isSome then (.failure 409 "AlreadyExists", s)
      else (.ofJson 201 (stored ns r.name r.configMap),
        { s with
          configMaps := s.configMaps ++ [((ns, r.name), stored ns r.name r.configMap)] }) := by
  have hname : ((((some r.configMap).getD .null).member? "metadata").getD .null).member? "name" =
      some (.text r.name) := rfl
  simp only [serve, hm, hq, hb, hname]
  rfl

theorem kept_append {s : ApiServer} {key : String × String} (hn : s.configMaps.lookup key = none)
    (v : Json) (requests : List Request) :
    kept { s with requests := requests, configMaps := s.configMaps ++ [(key, v)] } =
      Function.update (kept s) key (some v.sorted) := by
  funext k
  by_cases hk : k = key
  · subst hk
    simp [kept, List.lookup_append, hn]
  · have hb : (k == key) = false := by simpa using hk
    rw [Function.update_of_ne hk]
    simp [kept, List.lookup_append, List.lookup_cons, hb]

theorem kept_filter (s : ApiServer) (key : String × String) (requests : List Request) :
    kept { s with requests := requests, configMaps := s.configMaps.filter (·.1 != key) } =
      Function.update (kept s) key none := by
  funext k
  have hl : kept { s with requests := requests, configMaps := s.configMaps.filter (·.1 != key) } k =
      ((s.configMaps.filter (·.1 != key)).lookup k).map Json.sorted := rfl
  rw [hl, lookup_filter_ne]
  by_cases hk : k = key
  · subst hk
    rw [if_pos rfl, Function.update_self]
    rfl
  · rw [if_neg hk, Function.update_of_ne hk]
    rfl

/-- The server is one on which locks can be kept. -/
theorem configMapServer : ConfigMapServer serverTransport Works kept where
  get := by
    intro s ns name q hw hns hname hm hp
    have hq : configMapPath? q.path = some (ns, name) :=
      configMapPath?_eq_some.2 ⟨hp, hns.addressable.slash_notMem, hname.addressable.slash_notMem⟩
    rw [send_eq hw.1, serve_get hm hq]
    dsimp only [kept]
    cases hl : s.configMaps.lookup (ns, name) with
    | none => exact ⟨hw, rfl, failure_reports 404 "NotFound"⟩
    | some v => exact ⟨hw, rfl, ofJson_holds (by decide) (by decide) (hw.2 _ _ hl)⟩
  create := by
    intro s r q hw hns hname hm hp hb
    have hq : configMapsPath? q.path = some r.ns :=
      configMapsPath?_eq_some.2 ⟨hp, hns.addressable.slash_notMem⟩
    rw [send_eq hw.1, serve_post hm hq hb]
    dsimp only
    cases hl : s.configMaps.lookup (r.ns, r.name) with
    | some v =>
      have hk : kept s (r.ns, r.name) = some v.sorted := by rw [kept, hl]; rfl
      rw [hk, Option.isSome_some, if_pos rfl]
      exact ⟨hw, failure_reports 409 "AlreadyExists", rfl⟩
    | none =>
      have hk : kept s (r.ns, r.name) = none := by rw [kept, hl]; rfl
      rw [hk, Option.isSome_none, if_neg (by decide)]
      refine ⟨⟨hw.1, ?_⟩, (stored r.ns r.name r.configMap).sorted, storedAs_stored r.ns r,
        ofJson_holds (by decide) (by decide) (plain_stored r.ns r), kept_append hl _ _⟩
      intro key v hv
      by_cases hkey : key = (r.ns, r.name)
      · subst hkey
        simp only [List.lookup_append, hl, Option.none_or, List.lookup_cons, beq_self_eq_true,
          Option.some.injEq] at hv
        rw [← hv]
        exact plain_stored r.ns r
      · have hb : (key == (r.ns, r.name)) = false := by simpa using hkey
        simp only [List.lookup_append, List.lookup_cons, hb, List.lookup_nil,
          Option.or_none] at hv
        exact hw.2 key v hv
  delete := by
    intro s ns name q hw hns hname hm hp
    have hq : configMapPath? q.path = some (ns, name) :=
      configMapPath?_eq_some.2 ⟨hp, hns.addressable.slash_notMem, hname.addressable.slash_notMem⟩
    rw [send_eq hw.1, serve_delete hm hq]
    dsimp only
    cases hl : s.configMaps.lookup (ns, name) with
    | none =>
      have hk : kept s (ns, name) = none := by rw [kept, hl]; rfl
      rw [hk]
      exact ⟨hw, failure_reports 404 "NotFound", rfl⟩
    | some v =>
      have hk : kept s (ns, name) = some v.sorted := by rw [kept, hl]; rfl
      rw [hk]
      refine ⟨⟨hw.1, ?_⟩, Or.inl (ofJson_holds (by decide) (by decide) (hw.2 _ _ hl)),
        kept_filter s _ _⟩
      intro key w hwl
      dsimp only at hwl
      rw [lookup_filter_ne] at hwl
      split at hwl
      · cases hwl
      · exact hw.2 key w hwl

end ApiServer

end ClusterLock
