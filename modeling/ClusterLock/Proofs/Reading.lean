import ClusterLock.Kubernetes.ConfigMapStore

/-
  What readers make of whole values. A draft that comes from a value has no faults: it can be
  passed over (`skim_draft`) and, within the limits of the format, read as the value again
  (`whole_draft`). An object is read member by member; `members_field` says what a part of the
  result is if one name decides it, `Metadata.read_spec` what that means for metadata, and
  `readConfigMap_spec` for the record of a ConfigMap. `StatusError.read_spec` does the same for
  reports of failures.
-/
namespace ClusterLock

/-! ## Drafts of values -/

mutual

theorem skim_draft (v : Json) : v.draft.skim = none := by
  cases v with
  | array items => exact skimItems_draft items
  | object members => exact skimMembers_draft members
  | null => rfl
  | bool b => rfl
  | number n => rfl
  | text s => rfl

theorem skimItems_draft (items : List Json) : skimItems (draftItems items) none = none := by
  cases items with
  | nil => rfl
  | cons v items => rw [draftItems, skimItems, skim_draft v, skimItems_draft items]

theorem skimMembers_draft (members : List (String × Json)) :
    skimMembers (draftMembers members) none = none := by
  match members with
  | [] => rfl
  | (k, v) :: members => rw [draftMembers, skimMembers, skim_draft v, skimMembers_draft members]

end

theorem skip_draft (v : Json) : Reader.skip v.draft = .ok () := by
  rw [Reader.skip, skim_draft]

mutual

/-- Arrays and objects nest at most `depth` deep and every number is in range. -/
def Json.Fits (depth : Nat) : Json → Prop
  | .number n => n.reading?.isSome = true
  | .array items => 0 < depth ∧ ItemsFit (depth - 1) items
  | .object members => 0 < depth ∧ MembersFit (depth - 1) members
  | _ => True

def ItemsFit (depth : Nat) : List Json → Prop
  | [] => True
  | v :: items => v.Fits depth ∧ ItemsFit depth items

def MembersFit (depth : Nat) : List (String × Json) → Prop
  | [] => True
  | (_, v) :: members => v.Fits depth ∧ MembersFit depth members

end

mutual

theorem whole_draft {v : Json} {depth : Nat} (h : v.Fits depth) :
    v.draft.whole depth = .ok v := by
  cases v with
  | null => rfl
  | bool b => rfl
  | text s => rfl
  | number n => exact if_pos h
  | array items =>
    obtain ⟨hd, hi⟩ := h
    rw [Json.draft, Draft.whole, if_neg (by omega), wholeItems_draft hi]
    rfl
  | object members =>
    obtain ⟨hd, hm⟩ := h
    rw [Json.draft, Draft.whole, if_neg (by omega), wholeMembers_draft hm]
    rfl

theorem wholeItems_draft {items : List Json} {depth : Nat} (h : ItemsFit depth items) :
    wholeItems depth (draftItems items) none = .ok items := by
  match items with
  | [] => rfl
  | v :: items =>
    obtain ⟨hv, hi⟩ := h
    rw [draftItems, wholeItems, whole_draft hv, wholeItems_draft hi]
    rfl

theorem wholeMembers_draft {members : List (String × Json)} {depth : Nat}
    (h : MembersFit depth members) :
    wholeMembers depth (draftMembers members) none = .ok members := by
  match members with
  | [] => rfl
  | (k, v) :: members =>
    obtain ⟨hv, hm⟩ := h
    rw [draftMembers, wholeMembers, whole_draft hv, wholeMembers_draft hm]
    rfl

end

/-! ## Texts and lists -/

namespace Reader

/-- An optional text is the text, or nothing for null. -/
theorem optional_text_draft {v : Json} {o : Option String}
    (h : optional text v.draft = .ok o) : o = v.text? := by
  cases v with
  | null =>
    cases h
    rfl
  | text s =>
    cases h
    rfl
  | _ => cases h

/-- A list of written values is read back if each value is. -/
theorem items_map {α : Type} (read : Reader α) (write : α → Json)
    (h : ∀ a, read (write a).draft = .ok a) (l : List α) :
    items read (draftItems (l.map write)) none = .ok l := by
  induction l with
  | nil => rfl
  | cons a l ih =>
    rw [List.map_cons, draftItems, items, h, ih]
    rfl

/-! ## Objects -/

variable {σ α : Type} {visit : σ → String → Draft → Except ReadError σ}

theorem members_cons_ok {k : String} {v : Json} {ms : List (String × Json)} {s s' : σ}
    (h : members visit (draftMembers ((k, v) :: ms)) none s = .ok s') :
    ∃ t, visit s k v.draft = .ok t ∧ members visit (draftMembers ms) none t = .ok s' := by
  rw [draftMembers, members] at h
  cases hv : visit s k v.draft with
  | error e =>
    rw [hv] at h
    cases h
  | ok t =>
    rw [hv] at h
    exact ⟨t, rfl, h⟩

/-- In an object that is read every member is. -/
theorem visit_of_members_ok {ms : List (String × Json)} {s s' : σ}
    (h : members visit (draftMembers ms) none s = .ok s') {k : String} {v : Json}
    (hkv : (k, v) ∈ ms) : ∃ t t', visit t k v.draft = .ok t' := by
  induction ms generalizing s with
  | nil => cases hkv
  | cons kv ms ih =>
    obtain ⟨k', v'⟩ := kv
    obtain ⟨t, ht, hrest⟩ := members_cons_ok h
    rcases List.mem_cons.1 hkv with heq | hmem
    · cases heq
      exact ⟨s, t, ht⟩
    · exact ih hrest hmem

/-- An object whose members can all be read can be read. -/
theorem members_ok {ms : List (String × Json)}
    (h : ∀ k v, (k, v) ∈ ms → ∀ s, ∃ s', visit s k v.draft = .ok s') (s : σ) :
    ∃ s', members visit (draftMembers ms) none s = .ok s' := by
  induction ms generalizing s with
  | nil => exact ⟨s, rfl⟩
  | cons kv ms ih =>
    obtain ⟨k, v⟩ := kv
    obtain ⟨t, ht⟩ := h k v List.mem_cons_self s
    obtain ⟨s', hs'⟩ := ih (fun k' v' h' => h k' v' (List.mem_cons_of_mem _ h')) t
    refine ⟨s', ?_⟩
    rw [draftMembers, members, ht]
    exact hs'

end Reader

theorem Json.member?_object_nil (key : String) : (Json.object []).member? key = none := rfl

/-- The last member of a name counts. -/
theorem Json.member?_object_cons (key k : String) (v : Json) (ms : List (String × Json)) :
    (Json.object ((k, v) :: ms)).member? key =
      ((Json.object ms).member? key).or (if key = k then some v else none) := by
  simp only [Json.member?, List.reverse_cons, List.lookup_append]
  by_cases h : key = k
  · simp [h]
  · have hb : (key == k) = false := by simpa using h
    simp [h, hb, List.lookup_cons]

theorem Json.member?_eq_none {key : String} {ms : List (String × Json)}
    (h : key ∉ ms.map (·.1)) : (Json.object ms).member? key = none := by
  induction ms with
  | nil => rfl
  | cons kv ms ih =>
    obtain ⟨k, v⟩ := kv
    rw [List.map_cons, List.mem_cons, not_or] at h
    rw [Json.member?_object_cons, ih h.2, if_neg h.1]
    rfl

theorem Json.mem_of_member? {key : String} {v : Json} {ms : List (String × Json)}
    (h : (Json.object ms).member? key = some v) : (key, v) ∈ ms := by
  induction ms with
  | nil => cases h
  | cons kv ms ih =>
    obtain ⟨k, w⟩ := kv
    rw [Json.member?_object_cons] at h
    cases hm : (Json.object ms).member? key with
    | some u =>
      rw [hm] at h ih
      exact List.mem_cons_of_mem _ (ih h)
    | none =>
      rw [hm, Option.none_or] at h
      split at h
      · rename_i hk
        cases h
        subst hk
        exact List.mem_cons_self
      · cases h

/-- If no name stands twice, each member counts. -/
theorem Json.member?_of_mem {key : String} {v : Json} {ms : List (String × Json)}
    (hn : (ms.map (·.1)).Nodup) (h : (key, v) ∈ ms) : (Json.object ms).member? key = some v := by
  induction ms with
  | nil => cases h
  | cons kv ms ih =>
    obtain ⟨k, w⟩ := kv
    rw [List.map_cons, List.nodup_cons] at hn
    rw [Json.member?_object_cons]
    rcases List.mem_cons.1 h with heq | hmem
    · cases heq
      rw [Json.member?_eq_none hn.1, if_pos rfl]
      rfl
    · rw [ih hn.2 hmem]
      rfl

/-- A part of the result that one name decides: it is what the last member of that name makes
of it. -/
theorem Reader.members_field {σ α : Type} {visit : σ → String → Draft → Except ReadError σ}
    (key : String) (field : σ → α) (value : Json → α)
    (hkey : ∀ s (v : Json) s', visit s key v.draft = .ok s' → field s' = value v)
    (hother : ∀ s k (v : Json) s', k ≠ key → visit s k v.draft = .ok s' → field s' = field s)
    {ms : List (String × Json)} {s s' : σ}
    (h : members visit (draftMembers ms) none s = .ok s') :
    field s' = ((Json.object ms).member? key).elim (field s) value := by
  induction ms generalizing s with
  | nil =>
    cases h
    rfl
  | cons kv ms ih =>
    obtain ⟨k, v⟩ := kv
    obtain ⟨t, ht, hrest⟩ := members_cons_ok h
    rw [ih hrest, Json.member?_object_cons]
    cases (Json.object ms).member? key with
    | some w => rfl
    | none =>
      by_cases hk : key = k
      · subst hk
        rw [if_pos rfl]
        exact hkey s v t ht
      · rw [if_neg hk]
        exact hother s k v t (Ne.symm hk) ht

theorem Except.map_eq_ok {ε α β : Type} {f : α → β} {x : Except ε α} {b : β}
    (h : x.map f = .ok b) : ∃ a, x = .ok a ∧ f a = b := by
  cases x with
  | error e => cases h
  | ok a =>
    cases h
    exact ⟨a, rfl, rfl⟩

theorem Except.mapError_eq_ok {ε ε' α : Type} {f : ε → ε'} {x : Except ε α} {a : α}
    (h : x.mapError f = .ok a) : x = .ok a := by
  cases x with
  | error e => cases h
  | ok b =>
    cases h
    rfl

/-! ## Metadata -/

/-- The owners that a member of metadata names. -/
def Json.owners? (v : Json) : Option (List OwnerRef) :=
  match Reader.optional (Reader.list OwnerRef.readMember) v.draft with
  | .ok owners => owners
  | .error _ => none

namespace Metadata

/-- What a member does to the metadata: it sets the part that it names, if that is kept. -/
theorem visit_cases {m m' : Metadata} {key : String} {d : Draft} (h : m.visit key d = .ok m') :
    (key = "namespace" ∧ ∃ ns, Reader.optional Reader.text d = .ok ns ∧ m' = { m with ns }) ∨
    (key = "name" ∧ ∃ name, Reader.optional Reader.text d = .ok name ∧ m' = { m with name }) ∨
    (key = "ownerReferences" ∧ ∃ owners,
      Reader.optional (Reader.list OwnerRef.readMember) d = .ok owners ∧
        m' = { m with owners }) ∨
    (key ≠ "namespace" ∧ key ≠ "name" ∧ key ≠ "ownerReferences" ∧
      m'.ns = m.ns ∧ m'.name = m.name ∧ m'.owners = m.owners) := by
  unfold visit at h
  dsimp only at h
  split at h
  · obtain ⟨ns, hns, rfl⟩ := Except.map_eq_ok h
    exact Or.inl ⟨rfl, ns, hns, rfl⟩
  · obtain ⟨name, hname, rfl⟩ := Except.map_eq_ok h
    exact Or.inr (Or.inl ⟨rfl, name, hname, rfl⟩)
  · obtain ⟨uid, -, rfl⟩ := Except.map_eq_ok h
    exact Or.inr (Or.inr (Or.inr ⟨by decide, by decide, by decide, rfl, rfl, rfl⟩))
  · obtain ⟨generateName, -, rfl⟩ := Except.map_eq_ok h
    exact Or.inr (Or.inr (Or.inr ⟨by decide, by decide, by decide, rfl, rfl, rfl⟩))
  · obtain ⟨owners, howners, rfl⟩ := Except.map_eq_ok h
    exact Or.inr (Or.inr (Or.inl ⟨rfl, owners, howners, rfl⟩))
  all_goals
    obtain ⟨-, -, rfl⟩ := Except.map_eq_ok h
    refine Or.inr (Or.inr (Or.inr ⟨?_, ?_, ?_, rfl, rfl, rfl⟩))
  all_goals first
    | decide
    | assumption

theorem elim_none_eq_bind {α : Type} (o : Option Json) (f : Json → Option α) :
    o.elim none f = o.bind f := by
  cases o <;> rfl

/-- What is kept of metadata: for each part the last member of its name counts. -/
theorem read_spec {ms : List (String × Json)} {m : Metadata}
    (h : read (Json.object ms).draft = .ok m) :
    m.ns = ((Json.object ms).member? "namespace").bind Json.text? ∧
      m.name = ((Json.object ms).member? "name").bind Json.text? ∧
      m.owners = ((Json.object ms).member? "ownerReferences").bind Json.owners? := by
  have h' : Reader.members visit (draftMembers ms) none {} = .ok m := h
  simp only [← elim_none_eq_bind]
  refine ⟨Reader.members_field "namespace" ns Json.text? ?_ ?_ h',
    Reader.members_field "name" name Json.text? ?_ ?_ h',
    Reader.members_field "ownerReferences" owners Json.owners? ?_ ?_ h'⟩
  · intro s v s' hv
    rcases visit_cases hv with ⟨-, ns, hns, rfl⟩ | ⟨hk, -⟩ | ⟨hk, -⟩ | ⟨hk, -⟩
    · exact Reader.optional_text_draft hns
    · exact absurd hk (by decide)
    · exact absurd hk (by decide)
    · exact absurd rfl hk
  · intro s k v s' hk hv
    rcases visit_cases hv with ⟨hk', -⟩ | ⟨-, name, -, rfl⟩ | ⟨-, owners, -, rfl⟩ |
      ⟨-, -, -, hns, -⟩
    · exact absurd hk' hk
    · rfl
    · rfl
    · exact hns
  · intro s v s' hv
    rcases visit_cases hv with ⟨hk, -⟩ | ⟨-, name, hname, rfl⟩ | ⟨hk, -⟩ | ⟨-, hk, -⟩
    · exact absurd hk (by decide)
    · exact Reader.optional_text_draft hname
    · exact absurd hk (by decide)
    · exact absurd rfl hk
  · intro s k v s' hk hv
    rcases visit_cases hv with ⟨-, ns, -, rfl⟩ | ⟨hk', -⟩ | ⟨-, owners, -, rfl⟩ |
      ⟨-, -, -, -, hname, -⟩
    · rfl
    · exact absurd hk' hk
    · rfl
    · exact hname
  · intro s v s' hv
    rcases visit_cases hv with ⟨hk, -⟩ | ⟨hk, -⟩ | ⟨-, owners, howners, rfl⟩ | ⟨-, -, hk, -⟩
    · exact absurd hk (by decide)
    · exact absurd hk (by decide)
    · simp only [Json.owners?, howners]
    · exact absurd rfl hk
  · intro s k v s' hk hv
    rcases visit_cases hv with ⟨-, ns, -, rfl⟩ | ⟨-, name, -, rfl⟩ | ⟨hk', -⟩ |
      ⟨-, -, -, -, -, howners⟩
    · rfl
    · rfl
    · exact absurd hk' hk
    · exact howners

/-- A member that metadata may have: it has its declared type. -/
def Accepts (key : String) (v : Json) : Prop := ∀ m : Metadata, ∃ m', m.visit key v.draft = .ok m'

/-- The members of metadata that are texts. -/
def textMembers : List String :=
  ["namespace", "name", "uid", "generateName", "resourceVersion", "selfLink",
    "creationTimestamp", "deletionTimestamp"]

theorem accepts_text {key : String} (h : key ∈ textMembers) (s : String) :
    Accepts key (.text s) := by
  intro m
  simp only [textMembers, List.mem_cons, List.not_mem_nil, or_false] at h
  rcases h with rfl | rfl | rfl | rfl | rfl | rfl | rfl | rfl <;> exact ⟨_, rfl⟩

theorem read_owners (owners : List OwnerRef) :
    Reader.optional (Reader.list OwnerRef.readMember)
      (Json.array (owners.map OwnerRef.toJson)).draft = .ok (some owners) := by
  have h := Reader.items_map OwnerRef.readMember OwnerRef.toJson (fun o => rfl) owners
  rw [Json.draft, Reader.optional, Reader.list, h]
  · rfl
  · intro hn
    cases hn

theorem accepts_owners (owners : List OwnerRef) :
    Accepts "ownerReferences" (.array (owners.map OwnerRef.toJson)) := by
  intro m
  refine ⟨{ m with owners := some owners }, ?_⟩
  show Except.map _ _ = _
  rw [read_owners]
  rfl

theorem owners?_toJson (owners : List OwnerRef) :
    (Json.array (owners.map OwnerRef.toJson)).owners? = some owners := by
  rw [Json.owners?, read_owners]

theorem anyObject_draft (wanted : String) (ms : List (String × Json)) :
    Reader.anyObject wanted (Json.object ms).draft = .ok () := by
  obtain ⟨u, hu⟩ : ∃ u, Reader.members (fun _ _ d => Reader.skip d) (draftMembers ms) none () =
      .ok u := Reader.members_ok (fun k v _ s => ⟨(), skip_draft v⟩) ()
  exact hu

/-- A server may say which of its clients manage which parts of the object. -/
theorem accepts_managedFields (entries : List (List (String × Json))) :
    Accepts "managedFields" (.array (entries.map .object)) := by
  intro m
  refine ⟨m, ?_⟩
  have hitems : ∀ l : List (List (String × Json)), ∃ us,
      Reader.items (Reader.anyObject "ManagedFieldsEntry") (draftItems (l.map .object)) none =
        .ok us := by
    intro l
    induction l with
    | nil => exact ⟨[], rfl⟩
    | cons ms l ih =>
      obtain ⟨us, hus⟩ := ih
      refine ⟨() :: us, ?_⟩
      rw [List.map_cons, draftItems, Reader.items, anyObject_draft, hus]
      rfl
  obtain ⟨us, hus⟩ := hitems entries
  show Except.map _ (Reader.checked _ _) = _
  rw [Reader.checked, Json.draft, Reader.optional, Reader.list, hus]
  · rfl
  · intro hn
    cases hn

theorem read_ok {ms : List (String × Json)} (h : ∀ k v, (k, v) ∈ ms → Accepts k v) :
    ∃ m, read (Json.object ms).draft = .ok m :=
  Reader.members_ok h {}

end Metadata

/-! ## ConfigMaps -/

namespace ObjectShape

/-- A member that an object of that kind may have: it has its declared type. -/
def Accepts (shape : ObjectShape) (key : String) (v : Json) : Prop :=
  ∀ m : Metadata, ∃ m', shape.visit m key v.draft = .ok m'

theorem visit_of_ne {shape : ObjectShape} {m m' : Metadata} {key : String} {d : Draft}
    (hk : key ≠ "metadata") (h : shape.visit m key d = .ok m') : m' = m := by
  unfold visit at h
  split at h
  · obtain ⟨-, -, rfl⟩ := Except.map_eq_ok h
    rfl
  · obtain ⟨-, -, rfl⟩ := Except.map_eq_ok h
    rfl
  · exact absurd rfl hk
  · split at h
    · obtain ⟨-, -, rfl⟩ := Except.map_eq_ok h
      rfl
    · obtain ⟨-, -, rfl⟩ := Except.map_eq_ok h
      rfl

theorem visit_metadata (shape : ObjectShape) (m : Metadata) (d : Draft) :
    shape.visit m "metadata" d = (Reader.optional Metadata.read d).map (·.getD {}) := rfl

/-- Of an object whose members have their types the metadata is read. -/
theorem read_object {shape : ObjectShape} {ms inner : List (String × Json)} {md : Metadata}
    (hinner : (Json.object ms).member? "metadata" = some (.object inner))
    (hmd : Metadata.read (Json.object inner).draft = .ok md)
    (h : ∀ k v, (k, v) ∈ ms → shape.Accepts k v) : shape.read (Json.object ms).draft = .ok md := by
  obtain ⟨m, hm⟩ := Reader.members_ok h {}
  have hread : shape.read (Json.object ms).draft = .ok m := hm
  rw [hread]
  congr 1
  let value : Json → Metadata := fun v =>
    match Reader.optional Metadata.read v.draft with
    | .ok o => o.getD {}
    | .error _ => {}
  have hfield := Reader.members_field "metadata" id value ?_ ?_ hm
  · rw [hinner] at hfield
    have hopt : Reader.optional Metadata.read (Json.object inner).draft = .ok (some md) := by
      have hd : (Json.object inner).draft = .object (draftMembers inner) none := rfl
      rw [hd] at hmd ⊢
      simp only [Reader.optional, hmd]
      rfl
    simpa only [Option.elim, value, hopt, id, Option.getD_some] using hfield
  · intro s v s' hv
    rw [visit_metadata] at hv
    obtain ⟨o, ho, rfl⟩ := Except.map_eq_ok hv
    simp only [value, ho, id]
  · intro s k v s' hk hv
    exact visit_of_ne hk hv

theorem accepts_metadata {shape : ObjectShape} {inner : List (String × Json)}
    (h : ∀ k v, (k, v) ∈ inner → Metadata.Accepts k v) :
    shape.Accepts "metadata" (.object inner) := by
  intro m
  obtain ⟨md, hmd⟩ := Metadata.read_ok h
  refine ⟨md, ?_⟩
  have hd : (Json.object inner).draft = .object (draftMembers inner) none := rfl
  rw [visit_metadata, hd]
  rw [hd] at hmd
  simp only [Reader.optional, hmd]
  rfl

theorem accepts_constants (shape : ObjectShape) :
    shape.Accepts "apiVersion" (.text shape.apiVersion) ∧
      shape.Accepts "kind" (.text shape.kind) := by
  constructor
  · intro m
    refine ⟨m, ?_⟩
    show Except.map _ (if _ then _ else _) = _
    rw [if_pos rfl]
    rfl
  · intro m
    refine ⟨m, ?_⟩
    show Except.map _ (if _ then _ else _) = _
    rw [if_pos rfl]
    rfl

end ObjectShape

/-! ## Reports of failures -/

namespace FieldShape

variable {α : Type} {shapes : List (FieldShape α)}

/-- The value of a declared field is what its last member holds. -/
theorem lookup_members (key : String) {shape : FieldShape α}
    (hs : shapes.find? (·.name == key) = some shape) {ms : List (String × Json)}
    {filled filled' : Filled α}
    (h : Reader.members (visit shapes) (draftMembers ms) none filled = .ok filled') :
    filled'.lookup key =
      ((Json.object ms).member? key).elim (filled.lookup key) fun v =>
        (shape.read v.draft).toOption := by
  refine Reader.members_field key (fun f : Filled α => f.lookup key)
    (fun v => (shape.read v.draft).toOption) ?_ ?_ h
  · intro f v f' hv
    simp only [visit, hs] at hv
    cases hf : f.lookup key with
    | some a =>
      rw [hf] at hv
      cases hv
    | none =>
      rw [hf] at hv
      obtain ⟨a, ha, rfl⟩ := Except.map_eq_ok hv
      simp [List.lookup_append, hf, ha, Except.toOption]
  · intro f k v f' hk hv
    have hb : (key == k) = false := by simpa using Ne.symm hk
    unfold visit at hv
    split at hv
    · obtain ⟨u, -, rfl⟩ := Except.map_eq_ok hv
      rfl
    · split at hv
      · cases hv
      · obtain ⟨a, -, rfl⟩ := Except.map_eq_ok hv
        simp [List.lookup_append, List.lookup_cons, hb]

/-- An object in which no name stands twice and every declared field has its type is read. -/
theorem members_ok {ms : List (String × Json)} (hn : (ms.map (·.1)).Nodup)
    (h : ∀ k v, (k, v) ∈ ms → ∀ shape, shapes.find? (·.name == k) = some shape →
      ∃ a, shape.read v.draft = .ok a)
    (filled : Filled α) (hf : ∀ k ∈ ms.map (·.1), filled.lookup k = none) :
    ∃ filled', Reader.members (visit shapes) (draftMembers ms) none filled = .ok filled' := by
  induction ms generalizing filled with
  | nil => exact ⟨filled, rfl⟩
  | cons kv ms ih =>
    obtain ⟨k, v⟩ := kv
    rw [List.map_cons, List.nodup_cons] at hn
    have hrest := ih hn.2 fun k' v' h' => h k' v' (List.mem_cons_of_mem _ h')
    have hk : filled.lookup k = none := hf k List.mem_cons_self
    rw [draftMembers, Reader.members]
    cases hs : shapes.find? (·.name == k) with
    | none =>
      obtain ⟨filled', hfilled⟩ := hrest filled fun k' h' => hf k' (List.mem_cons_of_mem _ h')
      refine ⟨filled', ?_⟩
      have hv : visit shapes filled k v.draft = .ok filled := by
        simp only [visit, hs, skip_draft]
        rfl
      rw [hv]
      exact hfilled
    | some shape =>
      obtain ⟨a, ha⟩ := h k v List.mem_cons_self shape hs
      have hv : visit shapes filled k v.draft = .ok (filled ++ [(k, a)]) := by
        simp only [visit, hs, hk, ha]
        rfl
      obtain ⟨filled', hfilled⟩ := hrest (filled ++ [(k, a)]) fun k' h' => by
        have hne : (k' == k) = false := by
          simp only [beq_eq_false_iff_ne]
          rintro rfl
          exact hn.1 h'
        simp [List.lookup_append, List.lookup_cons, hf k' (List.mem_cons_of_mem _ h'), hne]
      refine ⟨filled', ?_⟩
      rw [hv]
      exact hfilled

end FieldShape

theorem StatusError.readCode_ofNat {n : Nat} (h : n < 65536) :
    StatusError.readCode (Json.ofNat n).draft = .ok n := by
  have hr : (Numeral.ofNat n).reading? = some (.integer n) := by
    have hn : n < 18446744073709551616 := by omega
    simp [Numeral.ofNat, Numeral.reading?, hn]
  show StatusError.readCode (.number (Numeral.ofNat n)) = _
  simp only [StatusError.readCode, hr]
  rw [if_pos ⟨by omega, by omega⟩]
  rfl

/-- A report of a failure is read as what it says, whatever else it holds. -/
theorem StatusError.read_object {ms : List (String × Json)} (hn : (ms.map (·.1)).Nodup)
    {status message reason : String} {code : Nat} (hcode : code < 65536)
    (h1 : (Json.object ms).member? "status" = some (.text status))
    (h2 : (Json.object ms).member? "message" = some (.text message))
    (h3 : (Json.object ms).member? "reason" = some (.text reason))
    (h4 : (Json.object ms).member? "code" = some (.ofNat code)) :
    StatusError.read (Json.object ms).draft = .ok ⟨status, message, reason, code⟩ := by
  have hok : ∀ k v, (k, v) ∈ ms → ∀ shape, fields.find? (·.name == k) = some shape →
      ∃ a, shape.read v.draft = .ok a := by
    intro k v hkv shape hs
    have hv := Json.member?_of_mem hn hkv
    have hk : shape.name = k := by simpa using List.find?_some hs
    have hmem := List.mem_of_find?_eq_some hs
    simp only [fields, List.mem_cons, List.not_mem_nil, or_false] at hmem
    rcases hmem with rfl | rfl | rfl | rfl
    · subst hk
      rw [h1] at hv
      cases hv
      exact ⟨_, rfl⟩
    · subst hk
      rw [h2] at hv
      cases hv
      exact ⟨_, rfl⟩
    · subst hk
      rw [h3] at hv
      cases hv
      exact ⟨_, rfl⟩
    · subst hk
      rw [h4] at hv
      cases hv
      refine ⟨.code code, ?_⟩
      simp only [readCode_ofNat hcode]
      rfl
  obtain ⟨filled, hfilled⟩ := FieldShape.members_ok hn hok [] fun k _ => rfl
  have g1 := FieldShape.lookup_members "status" rfl hfilled
  have g2 := FieldShape.lookup_members "message" rfl hfilled
  have g3 := FieldShape.lookup_members "reason" rfl hfilled
  have g4 := FieldShape.lookup_members "code" rfl hfilled
  rw [h1] at g1
  rw [h2] at g2
  rw [h3] at g3
  rw [h4] at g4
  simp only [Option.elim, readCode_ofNat hcode] at g4
  have hall : FieldShape.readAll "ErrorResponse" fields (Json.object ms).draft =
      .ok [.text status, .text message, .text reason, .code code] := by
    show (do let filled ← Reader.members _ _ _ _; FieldShape.gather filled fields) = _
    rw [hfilled]
    show FieldShape.gather filled fields = _
    simp only [fields, FieldShape.gather, g1, g2, g3, g4]
    rfl
  rw [StatusError.read, hall]
  rfl

end ClusterLock
