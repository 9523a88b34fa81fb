import ClusterLock.Kubernetes.ConfigMapStore
import ClusterLock.Kubernetes.Server
import Mathlib.Data.List.TakeWhile
import Mathlib.Data.List.TakeDrop
import Mathlib.Data.String.Basic

/-
  The paths of requests for ConfigMaps. `configMapPath` is the path of one ConfigMap and
  `configMapsPath` the place of all those of a namespace; `configMapPath?_eq_some` and
  `configMapsPath?_eq_some` say which paths a server takes for them. A request is sent to its target
  up to the first question mark or hash sign, so that a name gets there as it is only if it has
  none of them and no slash (`Clean`): `addresses_iff` and `addressesPlace_iff`.
-/
namespace ClusterLock

/-! ## Parts of a path -/

theorem segments_of_notMem {sep : Char} {cs : List Char} (h : sep ∉ cs) :
    segments sep cs = [cs] := by
  induction cs with
  | nil => rfl
  | cons c cs ih =>
    rw [List.mem_cons, not_or] at h
    rw [segments, if_neg (Ne.symm h.1), ih h.2]

theorem segments_append {sep : Char} {w : List Char} (h : sep ∉ w) (cs : List Char) :
    segments sep (w ++ sep :: cs) = w :: segments sep cs := by
  induction w with
  | nil => rw [List.nil_append, segments, if_pos rfl]
  | cons c w ih =>
    rw [List.mem_cons, not_or] at h
    rw [List.cons_append, segments, if_neg (Ne.symm h.1), ih h.2]

/-- No part holds the separator. -/
theorem notMem_of_mem_segments {sep : Char} (cs : List Char) {w : List Char}
    (h : w ∈ segments sep cs) : sep ∉ w := by
  induction cs generalizing w with
  | nil =>
    rw [segments, List.mem_singleton] at h
    subst h
    exact List.not_mem_nil
  | cons c cs ih =>
    unfold segments at h
    split at h
    · rcases List.mem_cons.1 h with rfl | h
      · exact List.not_mem_nil
      · exact ih h
    · rename_i hc
      split at h
      · rename_i hnil
        exact absurd hnil (segments_ne_nil sep cs)
      · rename_i v ws hseg
        rw [hseg] at ih
        rcases List.mem_cons.1 h with rfl | h
        · rw [List.mem_cons, not_or]
          exact ⟨Ne.symm hc, ih List.mem_cons_self⟩
        · exact ih (List.mem_cons_of_mem _ h)

/-- The place of the ConfigMaps of a namespace. -/
def configMapsPath (ns : String) : String := "/api/v1/namespaces/" ++ ns ++ "/configmaps"

/-- The path of a ConfigMap. -/
def configMapPath (ns name : String) : String := configMapsPath ns ++ "/" ++ name

/-- The part of every such path before the namespace. -/
def placePrefix : List Char :=
  '/' :: ("api".toList ++ '/' :: ("v1".toList ++ '/' :: ("namespaces".toList ++ ['/'])))

theorem toList_append_append (a b c : String) :
    (a ++ b ++ c).toList = a.toList ++ (b.toList ++ c.toList) := by
  rw [String.toList_append, String.toList_append, List.append_assoc]

theorem toList_configMapsPath (ns : String) :
    (configMapsPath ns).toList =
      placePrefix ++ (ns.toList ++ '/' :: "configmaps".toList) := by
  have h1 : "/api/v1/namespaces/".toList = placePrefix := by decide +kernel
  have h2 : "/configmaps".toList = '/' :: "configmaps".toList := by decide +kernel
  have h : (configMapsPath ns).toList =
      "/api/v1/namespaces/".toList ++ (ns.toList ++ "/configmaps".toList) :=
    toList_append_append _ _ _
  rw [h, h1, h2]

theorem toList_configMapPath (ns name : String) :
    (configMapPath ns name).toList =
      placePrefix ++ (ns.toList ++ '/' :: ("configmaps".toList ++ '/' :: name.toList)) := by
  have h1 : "/".toList = ['/'] := by decide
  have h : (configMapPath ns name).toList =
      (configMapsPath ns).toList ++ ("/".toList ++ name.toList) := toList_append_append _ _ _
  rw [h, toList_configMapsPath, h1, List.append_assoc, List.append_assoc, List.cons_append,
    List.singleton_append]

theorem segments_placePrefix (cs : List Char) :
    segments '/' (placePrefix ++ cs) =
      [] :: "api".toList :: "v1".toList :: "namespaces".toList :: segments '/' cs := by
  have h1 : '/' ∉ "api".toList := by decide
  have h2 : '/' ∉ "v1".toList := by decide
  have h3 : '/' ∉ "namespaces".toList := by decide
  rw [placePrefix, List.cons_append, segments, if_pos rfl, List.append_assoc, List.cons_append,
    segments_append h1, List.append_assoc, List.cons_append, segments_append h2,
    List.append_assoc, List.singleton_append, segments_append h3]

theorem segments_configMapsPath {ns : String} (h : '/' ∉ ns.toList) :
    segments '/' (configMapsPath ns).toList =
      [[], "api".toList, "v1".toList, "namespaces".toList, ns.toList, "configmaps".toList] := by
  have h1 : '/' ∉ "configmaps".toList := by decide
  rw [toList_configMapsPath, segments_placePrefix, segments_append h, segments_of_notMem h1]

theorem segments_configMapPath {ns name : String} (h : '/' ∉ ns.toList)
    (h' : '/' ∉ name.toList) :
    segments '/' (configMapPath ns name).toList =
      [[], "api".toList, "v1".toList, "namespaces".toList, ns.toList, "configmaps".toList,
        name.toList] := by
  have h1 : '/' ∉ "configmaps".toList := by decide
  rw [toList_configMapPath, segments_placePrefix, segments_append h, segments_append h1,
    segments_of_notMem h']

/-- What a path holds beside the namespace and the name. -/
def fixedChars : List Char := placePrefix ++ '/' :: "configmaps".toList

theorem mem_configMapsPath {ns : String} {c : Char} (h : c ∈ (configMapsPath ns).toList) :
    c ∈ fixedChars ∨ c ∈ ns.toList := by
  rw [toList_configMapsPath, List.mem_append, List.mem_append] at h
  rcases h with h | h | h
  · exact Or.inl (List.mem_append_left _ h)
  · exact Or.inr h
  · exact Or.inl (List.mem_append_right _ h)

theorem mem_configMapPath {ns name : String} {c : Char}
    (h : c ∈ (configMapPath ns name).toList) :
    c ∈ fixedChars ∨ c ∈ ns.toList ∨ c ∈ name.toList := by
  have hpath : (configMapPath ns name).toList =
      (configMapsPath ns).toList ++ ("/".toList ++ name.toList) := toList_append_append _ _ _
  rw [hpath, List.mem_append, List.mem_append] at h
  rcases h with h | h | h
  · exact (mem_configMapsPath h).imp_right Or.inl
  · have hc : c = '/' := by simpa using h
    subst hc
    exact Or.inl (List.mem_append_left _ List.mem_cons_self)
  · exact Or.inr (Or.inr h)

theorem isPathChar_of_mem_fixedChars : ∀ c ∈ fixedChars, isPathChar c = true := by
  have hall : fixedChars.all isPathChar = true := by decide +kernel
  exact List.all_eq_true.1 hall

/-- A path is taken for that of the ConfigMap whose path it is. -/
theorem configMapPath?_eq_some {path ns name : String} :
    configMapPath? path = some (ns, name) ↔
      path = configMapPath ns name ∧ '/' ∉ ns.toList ∧ '/' ∉ name.toList := by
  constructor
  · intro h
    unfold configMapPath? at h
    split at h
    · rename_i ns' name' hparts
      cases h
      have hseg : segments '/' path.toList =
          [[], "api".toList, "v1".toList, "namespaces".toList, ns.toList, "configmaps".toList,
            name.toList] := by
        have hmap := congrArg (List.map String.toList) hparts
        simpa [partsOf, Function.comp_def] using hmap
      have hjoin := join_segments '/' path.toList
      rw [hseg] at hjoin
      refine ⟨?_, ?_, ?_⟩
      · rw [← String.toList_inj, ← hjoin, toList_configMapPath, placePrefix]
        simp [joinSegments]
      · exact notMem_of_mem_segments path.toList (by rw [hseg]; simp)
      · exact notMem_of_mem_segments path.toList (by rw [hseg]; simp)
    · cases h
  · rintro ⟨rfl, h, h'⟩
    have hparts : partsOf '/' (configMapPath ns name) =
        ["", "api", "v1", "namespaces", ns, "configmaps", name] := by
      rw [partsOf, segments_configMapPath h h']
      simp
    simp [configMapPath?, hparts]

/-- A path is taken for the place of the namespace whose place it is. -/
theorem configMapsPath?_eq_some {path ns : String} :
    configMapsPath? path = some ns ↔ path = configMapsPath ns ∧ '/' ∉ ns.toList := by
  constructor
  · intro h
    unfold configMapsPath? at h
    split at h
    · rename_i ns' hparts
      cases h
      have hseg : segments '/' path.toList =
          [[], "api".toList, "v1".toList, "namespaces".toList, ns.toList,
            "configmaps".toList] := by
        have hmap := congrArg (List.map String.toList) hparts
        simpa [partsOf, Function.comp_def] using hmap
      have hjoin := join_segments '/' path.toList
      rw [hseg] at hjoin
      refine ⟨?_, ?_⟩
      · rw [← String.toList_inj, ← hjoin, toList_configMapsPath, placePrefix]
        simp [joinSegments]
      · exact notMem_of_mem_segments path.toList (by rw [hseg]; simp)
    · cases h
  · rintro ⟨rfl, h⟩
    have hparts : partsOf '/' (configMapsPath ns) =
        ["", "api", "v1", "namespaces", ns, "configmaps"] := by
      rw [partsOf, segments_configMapsPath h]
      simp
    simp [configMapsPath?, hparts]

/-! ## Targets -/

/-- A target as far as it is sent as the path of a request. -/
def beforeMark (target : List Char) : List Char :=
  target.takeWhile fun c => c ≠ '?' && c ≠ '#'

/-- The request goes to the target up to its first mark, if neither a character nor its length
forbids it. -/
theorem Request.to?_ok {method : Method} {target : String} {body : Option Json} {q : Request}
    (h : Request.to? method target body = .ok q) :
    q.method = method ∧ q.body = body ∧ q.path.toList = beforeMark target.toList := by
  unfold Request.to? readTarget? splitTarget at h
  rw [List.span_eq_takeWhile_dropWhile] at h
  dsimp only at h
  split at h
  · cases h
  · split at h
    · rename_i path query heq
      split at heq
      · cases heq
        cases h
        exact ⟨rfl, rfl, String.toList_ofList⟩
      · cases heq
    · cases h

theorem beforeMark_eq_self {cs : List Char} (h : ∀ c ∈ cs, c ≠ '?' ∧ c ≠ '#') {mark : Char}
    (hmark : mark = '?' ∨ mark = '#') (rest : List Char) :
    beforeMark (cs ++ mark :: rest) = cs := by
  have hall : ∀ c ∈ cs, (decide (c ≠ '?') && decide (c ≠ '#')) = true := by
    intro c hc
    simp [(h c hc).1, (h c hc).2]
  have hstop : (mark :: rest).takeWhile (fun c => c ≠ '?' && c ≠ '#') = [] := by
    rcases hmark with rfl | rfl
    · exact List.takeWhile_cons_of_neg (by simp)
    · exact List.takeWhile_cons_of_neg (by simp)
  rw [beforeMark, List.takeWhile_append_of_pos hall, hstop, List.append_nil]

theorem of_mem_beforeMark {cs : List Char} {c : Char} (h : c ∈ beforeMark cs) :
    c ≠ '?' ∧ c ≠ '#' := by
  have hp := List.mem_takeWhile_imp h
  simpa using hp

theorem isPathChar_not_mark {c : Char} (h : isPathChar c = true) : c ≠ '?' ∧ c ≠ '#' := by
  constructor
  · rintro rfl
    revert h
    decide
  · rintro rfl
    revert h
    decide

/-- A target of path characters and a final question mark is sent as it is, if it is not too
long. -/
theorem Request.to?_of_isPathChar (method : Method) {path : String} (body : Option Json)
    (h : ∀ c ∈ path.toList, isPathChar c = true)
    (hsize : (path ++ "?").utf8ByteSize ≤ Uri.maxLength) :
    Request.to? method (path ++ "?") body = .ok { method, path, body } := by
  have hmark : (path ++ "?").toList = path.toList ++ ['?'] := String.toList_append
  have hall : ∀ c ∈ path.toList, (decide (c ≠ '?') && decide (c ≠ '#')) = true := by
    intro c hc
    have hne := isPathChar_not_mark (h c hc)
    simp [hne.1, hne.2]
  have hread : readTarget? (path.toList ++ ['?']) = some (path.toList, ['?']) := by
    unfold readTarget? splitTarget
    rw [List.span_eq_takeWhile_dropWhile, List.takeWhile_append_of_pos hall,
      List.dropWhile_append_of_pos hall]
    have hpath : path.toList.all isPathChar = true := List.all_eq_true.2 h
    simp [hpath]
  unfold Request.to?
  rw [if_neg (not_lt.2 hsize), hmark, hread]
  dsimp only
  rw [String.ofList_toList]

/-! ## Requests for ConfigMaps -/

theorem path_configMaps (ns : String) : configMaps.path (some ns) = configMapsPath ns := by
  have h : ("/api/" ++ "v1" ++ "/" : String) ++ "namespaces/" = "/api/v1/namespaces/" := by
    decide +kernel
  have h' : ("/" : String) ++ "configmaps" = "/configmaps" := by decide +kernel
  have hassoc : ∀ a b c d : String, a ++ (b ++ ns ++ c) ++ d = (a ++ b) ++ ns ++ (c ++ d) := by
    intro a b c d
    simp only [String.append_assoc]
  calc configMaps.path (some ns)
      = ("/api/" ++ "v1" ++ "/") ++ ("namespaces/" ++ ns ++ "/") ++ "configmaps" := rfl
    _ = (("/api/" ++ "v1" ++ "/") ++ "namespaces/") ++ ns ++ ("/" ++ "configmaps") :=
        hassoc _ _ _ _
    _ = configMapsPath ns := congrArg₂ (· ++ ·) (congrArg (· ++ ns) h) h'

theorem namedTarget_configMaps (ns : String) {name : String} (h : name ≠ "") :
    namedTarget (configMaps.path (some ns)) name = .ok (configMapPath ns name ++ "?") := by
  have hne : name.isEmpty = false := by simpa using h
  rw [namedTarget, hne, path_configMaps]
  rfl

theorem getRequest_configMaps (ns : String) {name : String} (h : name ≠ "") :
    Transport.getRequest configMaps ns name =
      Request.to? .get (configMapPath ns name ++ "?") none := by
  simp only [Transport.getRequest, namedTarget_configMaps ns h, bind, Except.bind]

theorem deleteRequest_configMaps (ns : String) {name : String} (h : name ≠ "") :
    Transport.deleteRequest configMaps ns name =
      Request.to? .delete (configMapPath ns name ++ "?") (some (.object [])) := by
  simp only [Transport.deleteRequest, namedTarget_configMaps ns h, bind, Except.bind]

/-- A request for one object that can be built is for a name that is not empty. -/
theorem to?_of_getRequest {ns name : String} {q : Request}
    (h : Transport.getRequest configMaps ns name = .ok q) :
    Request.to? .get (configMapPath ns name ++ "?") none = .ok q := by
  have hne : name ≠ "" := by
    rintro rfl
    cases h
  exact (getRequest_configMaps ns hne).symm.trans h

theorem to?_of_deleteRequest {ns name : String} {q : Request}
    (h : Transport.deleteRequest configMaps ns name = .ok q) :
    Request.to? .delete (configMapPath ns name ++ "?") (some (.object [])) = .ok q := by
  have hne : name ≠ "" := by
    rintro rfl
    cases h
  exact (deleteRequest_configMaps ns hne).symm.trans h

theorem createRequest_configMaps (ns : String) (body : Json) :
    Transport.createRequest configMaps ns body =
      Request.to? .post (configMapsPath ns ++ "?") (some body) := by
  rw [Transport.createRequest, path_configMaps]

/-- The text stands in a path as it is, as one part of it. -/
def Clean (s : String) : Prop := ∀ c ∈ s.toList, c ≠ '/' ∧ c ≠ '?' ∧ c ≠ '#'

theorem toList_questionMark (path : String) : (path ++ "?").toList = path.toList ++ ['?'] :=
  String.toList_append

theorem notMark_configMapPath {ns name : String} (hns : Clean ns) (hname : Clean name) :
    ∀ c ∈ (configMapPath ns name).toList, c ≠ '?' ∧ c ≠ '#' := by
  intro c hc
  rcases mem_configMapPath hc with hc | hc | hc
  · exact isPathChar_not_mark (isPathChar_of_mem_fixedChars c hc)
  · exact (hns c hc).2
  · exact (hname c hc).2

/-- A request for one object addresses the ConfigMap of that namespace and name just when both
are clean. -/
theorem addresses_iff {method : Method} {ns name : String} {body : Option Json} {q : Request}
    (h : Request.to? method (configMapPath ns name ++ "?") body = .ok q) :
    configMapPath? q.path = some (ns, name) ↔ Clean ns ∧ Clean name := by
  obtain ⟨-, -, hpath⟩ := Request.to?_ok h
  rw [toList_questionMark] at hpath
  rw [configMapPath?_eq_some]
  constructor
  · rintro ⟨hq, hns, hname⟩
    rw [hq] at hpath
    have hmark : ∀ c ∈ (configMapPath ns name).toList, c ≠ '?' ∧ c ≠ '#' := by
      intro c hc
      rw [hpath] at hc
      exact of_mem_beforeMark hc
    rw [toList_configMapPath] at hmark
    constructor
    · intro c hc
      refine ⟨fun h => hns (h ▸ hc), hmark c ?_⟩
      exact List.mem_append_right _ (List.mem_append_left _ hc)
    · intro c hc
      refine ⟨fun h => hname (h ▸ hc), hmark c ?_⟩
      refine List.mem_append_right _ (List.mem_append_right _ (List.mem_cons_of_mem _ ?_))
      exact List.mem_append_right _ (List.mem_cons_of_mem _ hc)
  · rintro ⟨hns, hname⟩
    rw [beforeMark_eq_self (notMark_configMapPath hns hname) (Or.inl rfl)] at hpath
    exact ⟨String.toList_inj.1 hpath, fun h => (hns _ h).1 rfl, fun h => (hname _ h).1 rfl⟩

/-- If there is a mark in the name, a request for one object is sent as one for the object that
what comes before the mark is the name of. -/
theorem request_of_marked {method : Method} {ns name w : String} {body : Option Json} {q : Request}
    (h : Request.to? method (configMapPath ns name ++ "?") body = .ok q) (hns : Clean ns)
    (hw : Clean w) {mark : Char} (hmark : mark = '?' ∨ mark = '#') {rest : List Char}
    (hname : name.toList = w.toList ++ mark :: rest) : q = ⟨method, configMapPath ns w, body⟩ := by
  obtain ⟨hm, hb, hpath⟩ := Request.to?_ok h
  have htarget : (configMapPath ns name ++ "?").toList =
      (configMapPath ns w).toList ++ mark :: (rest ++ ['?']) := by
    rw [toList_questionMark, toList_configMapPath, toList_configMapPath, hname]
    simp only [List.append_assoc, List.cons_append]
  rw [htarget, beforeMark_eq_self (notMark_configMapPath hns hw) hmark, String.toList_inj] at hpath
  rw [← hm, ← hb, ← hpath]

/-- A request for all ConfigMaps of a namespace goes to its place just when it is clean. -/
theorem addressesPlace_iff {method : Method} {ns : String} {body : Option Json} {q : Request}
    (h : Request.to? method (configMapsPath ns ++ "?") body = .ok q) :
    configMapsPath? q.path = some ns ↔ Clean ns := by
  obtain ⟨-, -, hpath⟩ := Request.to?_ok h
  rw [toList_questionMark] at hpath
  rw [configMapsPath?_eq_some]
  constructor
  · rintro ⟨hq, hns⟩
    rw [hq] at hpath
    have hmark : ∀ c ∈ (configMapsPath ns).toList, c ≠ '?' ∧ c ≠ '#' := by
      intro c hc
      rw [hpath] at hc
      exact of_mem_beforeMark hc
    rw [toList_configMapsPath] at hmark
    intro c hc
    refine ⟨fun h => hns (h ▸ hc), hmark c ?_⟩
    exact List.mem_append_right _ (List.mem_append_left _ hc)
  · intro hns
    have hmark : ∀ c ∈ (configMapsPath ns).toList, c ≠ '?' ∧ c ≠ '#' := by
      intro c hc
      rcases mem_configMapsPath hc with hc | hc
      · exact isPathChar_not_mark (isPathChar_of_mem_fixedChars c hc)
      · exact (hns c hc).2
    rw [beforeMark_eq_self hmark (Or.inl rfl)] at hpath
    exact ⟨String.toList_inj.1 hpath, fun h => (hns _ h).1 rfl⟩

/-! ## Names that can be sent -/

/-- Two texts of that size and what else a path holds make no address too long. -/
def maxPartSize : Nat := 32000

/-- The text may stand in a path as one part of it. -/
structure Addressable (s : String) : Prop where
  chars : ∀ c ∈ s.toList, isPathChar c = true ∧ c ≠ '/'
  size : s.utf8ByteSize ≤ maxPartSize

theorem Addressable.clean {s : String} (h : Addressable s) : Clean s := by
  intro c hc
  exact ⟨(h.chars c hc).2, isPathChar_not_mark (h.chars c hc).1⟩

theorem utf8ByteSize_configMapsPath (ns : String) :
    (configMapsPath ns ++ "?").utf8ByteSize = ns.utf8ByteSize + 31 := by
  have hfront : String.utf8Len placePrefix = 19 := by decide +kernel
  have hback : String.utf8Len ('/' :: "configmaps".toList ++ ['?']) = 12 := by decide +kernel
  rw [← String.utf8Len_toList, toList_questionMark, toList_configMapsPath, List.append_assoc,
    List.append_assoc, String.utf8Len_append, String.utf8Len_append, String.utf8Len_toList, hfront,
    hback]
  omega

theorem utf8ByteSize_configMapPath (ns name : String) :
    (configMapPath ns name ++ "?").utf8ByteSize = ns.utf8ByteSize + name.utf8ByteSize + 32 := by
  have hfront : String.utf8Len placePrefix = 19 := by decide +kernel
  have hmiddle : String.utf8Len ('/' :: ("configmaps".toList ++ ['/'])) = 12 := by decide +kernel
  have hmark : String.utf8Len ['?'] = 1 := by decide
  have htarget : (configMapPath ns name ++ "?").toList = placePrefix ++ (ns.toList ++
      ('/' :: ("configmaps".toList ++ ['/']) ++ (name.toList ++ ['?']))) := by
    rw [toList_questionMark, toList_configMapPath]
    simp only [List.append_assoc, List.cons_append, List.nil_append]
  rw [← String.utf8Len_toList, htarget, String.utf8Len_append, String.utf8Len_append,
    String.utf8Len_append, String.utf8Len_append, String.utf8Len_toList, String.utf8Len_toList,
    hfront, hmiddle, hmark]
  omega

section

variable {ns name : String} (hns : Addressable ns) (hname : Addressable name)

include hns

theorem createRequest_of_addressable (body : Json) :
    Transport.createRequest configMaps ns body =
      .ok ⟨.post, configMapsPath ns, some body⟩ := by
  have hchars : ∀ c ∈ (configMapsPath ns).toList, isPathChar c = true := by
    intro c hc
    rcases mem_configMapsPath hc with hc | hc
    · exact isPathChar_of_mem_fixedChars c hc
    · exact (hns.chars c hc).1
  rw [createRequest_configMaps]
  refine Request.to?_of_isPathChar _ _ hchars ?_
  have hsize := hns.size
  rw [utf8ByteSize_configMapsPath]
  unfold maxPartSize at hsize
  unfold Uri.maxLength
  omega

include hname

theorem size_configMapPath : (configMapPath ns name ++ "?").utf8ByteSize ≤ Uri.maxLength := by
  have hsize := hns.size
  have hsize' := hname.size
  rw [utf8ByteSize_configMapPath]
  unfold maxPartSize at hsize hsize'
  unfold Uri.maxLength
  omega

theorem isPathChar_configMapPath :
    ∀ c ∈ (configMapPath ns name).toList, isPathChar c = true := by
  intro c hc
  rcases mem_configMapPath hc with hc | hc | hc
  · exact isPathChar_of_mem_fixedChars c hc
  · exact (hns.chars c hc).1
  · exact (hname.chars c hc).1

theorem getRequest_of_addressable (h : name ≠ "") :
    Transport.getRequest configMaps ns name = .ok ⟨.get, configMapPath ns name, none⟩ := by
  rw [getRequest_configMaps ns h]
  exact Request.to?_of_isPathChar _ _ (isPathChar_configMapPath hns hname)
    (size_configMapPath hns hname)

theorem deleteRequest_of_addressable (h : name ≠ "") :
    Transport.deleteRequest configMaps ns name =
      .ok ⟨.delete, configMapPath ns name, some (.object [])⟩ := by
  rw [deleteRequest_configMaps ns h]
  exact Request.to?_of_isPathChar _ _ (isPathChar_configMapPath hns hname)
    (size_configMapPath hns hname)

end

end ClusterLock
