import ClusterLock.Proofs.ApiServer

/-
  Which ConfigMaps there can be, and what is read from them. `ConfigMapTyped` says that members
  have the declared types, or are null, or are not declared at all. Each such ConfigMap is read
  (`readConfigMap_typed`), as the record of its namespace, its name and four texts of each owner.
-/
namespace ClusterLock

/-! ## Typed members -/

/-- The types of members, as far as they matter for whether an object can be read. -/
inductive MemberType
  | text | flag | int64 | texts | textMap | objects
deriving DecidableEq

/-- Null has every type: a member that is null is not set. -/
def MemberType.Holds : MemberType → Json → Prop
  | _, .null => True
  | .text, .text _ => True
  | .flag, .bool _ => True
  | .int64, .number n => ∃ i, n.reading? = some (.integer i) ∧ i < Int.pow 2 63
  | .texts, .array ws => ∃ l : List String, ws = l.map .text
  | .textMap, .object ms => ∀ k v, (k, v) ∈ ms → ∃ s, v = .text s
  | .objects, .array ws => ∃ l : List (List (String × Json)), ws = l.map .object
  | _, _ => False

/-- Declared members have their type. -/
def Typed (types : List (String × MemberType)) (key : String) (v : Json) : Prop :=
  ∀ t, types.lookup key = some t → t.Holds v

def OwnerRef.memberTypes : List (String × MemberType) :=
  [("apiVersion", .text), ("kind", .text), ("name", .text), ("uid", .text),
    ("controller", .flag), ("blockOwnerDeletion", .flag)]

/-- Times count as texts, managed fields as objects of any members. -/
def Metadata.memberTypes : List (String × MemberType) :=
  [("namespace", .text), ("name", .text), ("uid", .text), ("generateName", .text),
    ("resourceVersion", .text), ("selfLink", .text), ("creationTimestamp", .text),
    ("deletionTimestamp", .text), ("annotations", .textMap), ("labels", .textMap),
    ("finalizers", .texts), ("generation", .int64), ("deletionGracePeriodSeconds", .int64),
    ("managedFields", .objects)]

/-- Binary data count as texts. -/
def configMapMemberTypes : List (String × MemberType) :=
  [("data", .textMap), ("binaryData", .textMap), ("immutable", .flag)]

/-- An object whose members are allowed. -/
def Json.ObjectOf (allowed : String → Json → Prop) (v : Json) : Prop :=
  ∃ ms, v = .object ms ∧ ∀ k w, (k, w) ∈ ms → allowed k w

def OwnerTyped : Json → Prop := Json.ObjectOf (Typed OwnerRef.memberTypes)

def OwnersTyped (v : Json) : Prop :=
  v = .null ∨ ∃ os, v = .array os ∧ ∀ o ∈ os, OwnerTyped o

/-- A member of metadata: the owners are objects of their own. -/
def MetadataMember (key : String) (v : Json) : Prop :=
  if key = "ownerReferences" then OwnersTyped v else Typed Metadata.memberTypes key v

def MetadataTyped (v : Json) : Prop := v = .null ∨ Json.ObjectOf MetadataMember v

/-- A member of a ConfigMap: version and kind are those of ConfigMaps. -/
def ConfigMapMember (key : String) (v : Json) : Prop :=
  if key = "apiVersion" then v = .text "v1"
  else if key = "kind" then v = .text "ConfigMap"
  else if key = "metadata" then MetadataTyped v
  else Typed configMapMemberTypes key v

def ConfigMapTyped : Json → Prop := Json.ObjectOf ConfigMapMember

/-! ## The record of a ConfigMap -/

namespace Json

/-- The text of a member, empty if the member is not set. -/
def textOf (key : String) (v : Json) : String := ((v.member? key).bind text?).getD ""

/-- The owner that an object names. -/
def ownerRef (o : Json) : OwnerRef :=
  ⟨o.textOf "apiVersion", o.textOf "kind", o.textOf "name", o.textOf "uid"⟩

/-- The objects that stand for the owners in the metadata. -/
def ownerObjects (v : Json) : List Json :=
  match v.metadataMember? "ownerReferences" with
  | some (.array os) => os
  | _ => []

def metadataText? (key : String) (v : Json) : Option String :=
  (v.metadataMember? key).bind text?

/-- The record that a ConfigMap stands for, in `ns` if it names no namespace. -/
def lockRecord (ns : String) (v : Json) : LockRecord :=
  ⟨(v.metadataText? "namespace").getD ns, (v.metadataText? "name").getD "",
    v.ownerObjects.map ownerRef⟩

end Json

/-! ## Reading typed members -/

namespace MemberType

/-- How a member of the type is checked. -/
def check : MemberType → Reader Unit
  | text => Reader.checked Reader.text
  | flag => Reader.checked Reader.bool
  | int64 => Reader.checked Reader.int64
  | texts => Reader.checked (Reader.list Reader.text)
  | textMap => Reader.checked Reader.textMap
  | objects => Reader.checked (Reader.list (Reader.anyObject "ManagedFieldsEntry"))

/-- Values that can all be read can be read as the items of an array. -/
theorem items_total {α β : Type} {read : Reader β} {write : α → Json}
    (h : ∀ a, ∃ b, read (write a).draft = .ok b) (l : List α) :
    ∃ bs, Reader.items read (draftItems (l.map write)) none = .ok bs := by
  induction l with
  | nil => exact ⟨[], rfl⟩
  | cons a l ih =>
    obtain ⟨b, hb⟩ := h a
    obtain ⟨bs, hbs⟩ := ih
    refine ⟨b :: bs, ?_⟩
    rw [List.map_cons, draftItems, Reader.items, hb, show (Except.ok _ >>= _) = _ from rfl, hbs]
    rfl

theorem checked_ok {α : Type} {read : Reader α} {v : Json} {a : α} (h : read v.draft = .ok a) :
    Reader.checked read v.draft = .ok () := by
  cases v with
  | null => rfl
  | _ => exact congrArg (fun x => Except.map (fun _ => ()) (Except.map some x)) h

theorem check_ok {t : MemberType} {v : Json} (h : t.Holds v) : t.check v.draft = .ok () := by
  cases t with
  | text =>
    cases v with
    | null => rfl
    | text s => rfl
    | _ => cases h
  | flag =>
    cases v with
    | null => rfl
    | bool b => rfl
    | _ => cases h
  | int64 =>
    cases v with
    | null => rfl
    | number n =>
      obtain ⟨i, hread, hi⟩ := h
      refine checked_ok (v := .number n) (a := i) ?_
      simp only [Json.draft, Reader.int64, hread]
      exact if_pos hi
    | _ => cases h
  | texts =>
    cases v with
    | null => rfl
    | array ws =>
      obtain ⟨l, rfl⟩ := h
      exact checked_ok (v := .array _) (Reader.items_map Reader.text .text (fun s => rfl) l)
    | _ => cases h
  | textMap =>
    cases v with
    | null => rfl
    | object ms =>
      obtain ⟨u, hu⟩ : ∃ u, Reader.textMap (Json.object ms).draft = .ok u :=
        Reader.members_ok (fun k w hkw _ => by
          obtain ⟨s, rfl⟩ := h k w hkw
          exact ⟨(), rfl⟩) ()
      exact checked_ok hu
    | _ => cases h
  | objects =>
    cases v with
    | null => rfl
    | array ws =>
      obtain ⟨l, rfl⟩ := h
      obtain ⟨us, hus⟩ := items_total
        (fun ms => ⟨(), Metadata.anyObject_draft "ManagedFieldsEntry" ms⟩) l
      exact checked_ok (v := .array _) hus
    | _ => cases h

/-- What is made of a member once it is checked. -/
theorem map_check {α : Type} {v : Json} (t : MemberType) (h : t.Holds v) (f : Unit → α) :
    ∃ x, (t.check v.draft).map f = .ok x := by
  rw [check_ok h]
  exact ⟨_, rfl⟩

/-- A text, or nothing for null. -/
theorem optional_text_ok {v : Json} (h : MemberType.text.Holds v) :
    Reader.optional Reader.text v.draft = .ok v.text? := by
  cases v with
  | null => rfl
  | text s => rfl
  | _ => cases h

end MemberType

/-! ## Owners -/

namespace OwnerRef

/-- What a member does to an owner: it sets the part that it names, if it is one of the four. -/
theorem visit_cases {o o' : OwnerRef} {key : String} {d : Draft} (h : o.visit key d = .ok o') :
    (∃ t, Reader.optional Reader.text d = .ok t ∧
      (key = "apiVersion" ∧ o' = { o with apiVersion := t.getD "" } ∨
        key = "kind" ∧ o' = { o with kind := t.getD "" } ∨
        key = "name" ∧ o' = { o with name := t.getD "" } ∨
        key = "uid" ∧ o' = { o with uid := t.getD "" })) ∨
      (key ∉ ["apiVersion", "kind", "name", "uid"] ∧ o' = o) := by
  have htext : ∀ {f : String → OwnerRef}, ((Reader.optional Reader.text d).map
      (·.getD "")).map f = .ok o' → ∃ t, Reader.optional Reader.text d = .ok t ∧
        o' = f (t.getD "") := by
    intro f hf
    obtain ⟨s, hs, rfl⟩ := Except.map_eq_ok hf
    obtain ⟨t, ht, rfl⟩ := Except.map_eq_ok hs
    exact ⟨t, ht, rfl⟩
  unfold visit at h
  dsimp only at h
  split at h
  · obtain ⟨t, ht, ho⟩ := htext h
    exact Or.inl ⟨t, ht, Or.inl ⟨rfl, ho⟩⟩
  · obtain ⟨t, ht, ho⟩ := htext h
    exact Or.inl ⟨t, ht, Or.inr (Or.inl ⟨rfl, ho⟩)⟩
  · obtain ⟨t, ht, ho⟩ := htext h
    exact Or.inl ⟨t, ht, Or.inr (Or.inr (Or.inl ⟨rfl, ho⟩))⟩
  · obtain ⟨t, ht, ho⟩ := htext h
    exact Or.inl ⟨t, ht, Or.inr (Or.inr (Or.inr ⟨rfl, ho⟩))⟩
  all_goals
    obtain ⟨-, -, rfl⟩ := Except.map_eq_ok h
    refine Or.inr ⟨?_, rfl⟩
  · decide
  · decide
  · simp only [List.mem_cons, List.not_mem_nil, or_false, not_or]
    exact ⟨by assumption, by assumption, by assumption, by assumption⟩

/-- The parts of an owner, each under the name of the member that it comes from. -/
def parts : List (String × (OwnerRef → String)) :=
  [("apiVersion", apiVersion), ("kind", kind), ("name", name), ("uid", uid)]

/-- Each part of an owner that is read is the text of its member. -/
theorem readMember_part {ms : List (String × Json)} {o : OwnerRef}
    (h : readMember (Json.object ms).draft = .ok o) {key : String} {part : OwnerRef → String}
    (hpart : (key, part) ∈ parts) : part o = (Json.object ms).textOf key := by
  have h' : Reader.members visit (draftMembers ms) none ⟨"", "", "", ""⟩ = .ok o := h
  have hempty : part ⟨"", "", "", ""⟩ = "" := by
    simp only [parts, List.mem_cons, Prod.mk.injEq, List.not_mem_nil, or_false] at hpart
    rcases hpart with ⟨-, rfl⟩ | ⟨-, rfl⟩ | ⟨-, rfl⟩ | ⟨-, rfl⟩ <;> rfl
  have hread : part o = ((Json.object ms).member? key).elim (part ⟨"", "", "", ""⟩)
      (fun v => v.text?.getD "") := by
    have htext := @Reader.optional_text_draft
    simp only [parts, List.mem_cons, Prod.mk.injEq, List.not_mem_nil, or_false] at hpart
    refine Reader.members_field key part _ (fun s v s' hv => ?_) (fun s k v s' hk hv => ?_) h'
    · have := visit_cases hv
      rcases hpart with ⟨rfl, rfl⟩ | ⟨rfl, rfl⟩ | ⟨rfl, rfl⟩ | ⟨rfl, rfl⟩ <;> grind
    · have := visit_cases hv
      rcases hpart with ⟨rfl, rfl⟩ | ⟨rfl, rfl⟩ | ⟨rfl, rfl⟩ | ⟨rfl, rfl⟩ <;> grind
  rw [hread, hempty, Json.textOf]
  cases (Json.object ms).member? key <;> rfl

theorem accepts {key : String} {v : Json} (h : Typed memberTypes key v) (o : OwnerRef) :
    ∃ o', o.visit key v.draft = .ok o' := by
  have htext : MemberType.text.Holds v → ∀ f : String → OwnerRef, ∃ o',
      ((Reader.optional Reader.text v.draft).map (·.getD "")).map f = .ok o' := by
    intro hv f
    rw [MemberType.optional_text_ok hv]
    exact ⟨_, rfl⟩
  unfold visit
  dsimp only
  split
  · exact htext (h .text rfl) _
  · exact htext (h .text rfl) _
  · exact htext (h .text rfl) _
  · exact htext (h .text rfl) _
  · exact MemberType.map_check .flag (h .flag rfl) _
  · exact MemberType.map_check .flag (h .flag rfl) _
  · rw [skip_draft]
    exact ⟨_, rfl⟩

/-- An owner whose members have their types is read as the texts of the four that name it. -/
theorem readMember_typed {v : Json} (h : OwnerTyped v) : readMember v.draft = .ok v.ownerRef := by
  obtain ⟨ms, rfl, hms⟩ := h
  have hvisit : ∀ k w, (k, w) ∈ ms → ∀ o, ∃ o', visit o k w.draft = .ok o' := fun k w hkw =>
    accepts (hms k w hkw)
  obtain ⟨o, ho⟩ := Reader.members_ok hvisit ⟨"", "", "", ""⟩
  have hread : readMember (Json.object ms).draft = .ok o := ho
  rw [hread]
  congr 1
  obtain ⟨apiVersion, kind, name, uid⟩ := o
  have hpart := @readMember_part ms _ hread
  simp only [parts, List.mem_cons, Prod.mk.injEq, List.not_mem_nil, or_false] at hpart
  rw [Json.ownerRef, ← hpart (Or.inl ⟨rfl, rfl⟩), ← hpart (Or.inr (Or.inl ⟨rfl, rfl⟩)),
    ← hpart (Or.inr (Or.inr (Or.inl ⟨rfl, rfl⟩))), ← hpart (Or.inr (Or.inr (Or.inr ⟨rfl, rfl⟩)))]

end OwnerRef

/-- The owners in metadata, if they are set. -/
theorem owners?_typed {v : Json} (h : OwnersTyped v) :
    Reader.optional (Reader.list OwnerRef.readMember) v.draft = .ok v.owners? ∧
      v.owners? = match v with
        | .array os => some (os.map Json.ownerRef)
        | _ => none := by
  obtain rfl | ⟨os, rfl, hos⟩ := h
  · exact ⟨rfl, rfl⟩
  · have hitems : Reader.items OwnerRef.readMember (draftItems os) none =
        .ok (os.map Json.ownerRef) := by
      induction os with
      | nil => rfl
      | cons o os ih =>
        rw [draftItems, Reader.items, OwnerRef.readMember_typed (hos o List.mem_cons_self),
          show (Except.ok _ >>= _) = _ from rfl,
          ih fun o' ho' => hos o' (List.mem_cons_of_mem _ ho')]
        rfl
    have hlist : Reader.optional (Reader.list OwnerRef.readMember) (Json.array os).draft =
        .ok (some (os.map Json.ownerRef)) := congrArg (Except.map some) hitems
    rw [Json.owners?, hlist]
    exact ⟨rfl, rfl⟩

/-! ## Metadata -/

theorem Metadata.accepts_member {key : String} {v : Json} (h : MetadataMember key v) :
    Accepts key v := by
  intro m
  unfold MetadataMember at h
  have htext : MemberType.text.Holds v → ∀ f : Option String → Metadata, ∃ m',
      (Reader.optional Reader.text v.draft).map f = .ok m' := by
    intro hv f
    rw [MemberType.optional_text_ok hv]
    exact ⟨_, rfl⟩
  unfold visit
  dsimp only
  split
  · exact htext (h .text rfl) _
  · exact htext (h .text rfl) _
  · exact htext (h .text rfl) _
  · exact htext (h .text rfl) _
  · rw [if_pos rfl] at h
    rw [(owners?_typed h).1]
    exact ⟨_, rfl⟩
  · exact htext (h .text rfl) _
  · exact htext (h .text rfl) _
  · exact htext (h .text rfl) _
  · exact htext (h .text rfl) _
  · exact MemberType.map_check .textMap (h .textMap rfl) _
  · exact MemberType.map_check .textMap (h .textMap rfl) _
  · exact MemberType.map_check .texts (h .texts rfl) _
  · exact MemberType.map_check .int64 (h .int64 rfl) _
  · exact MemberType.map_check .int64 (h .int64 rfl) _
  · exact MemberType.map_check .objects (h .objects rfl) _
  · rw [skip_draft]
    exact ⟨_, rfl⟩

/-- Metadata that is set or null is read, and takes over three of its members. -/
theorem metadata_typed {v : Json} (h : MetadataTyped v) :
    ∃ m, (Reader.optional Metadata.read v.draft).map (·.getD {}) = .ok m ∧
      m.ns = (v.member? "namespace").bind Json.text? ∧
      m.name = (v.member? "name").bind Json.text? ∧
      m.owners = (v.member? "ownerReferences").bind Json.owners? := by
  obtain rfl | ⟨ms, rfl, hms⟩ := h
  · exact ⟨{}, rfl, rfl, rfl, rfl⟩
  · obtain ⟨m, hm⟩ := Metadata.read_ok fun k w hkw => Metadata.accepts_member (hms k w hkw)
    refine ⟨m, ?_, Metadata.read_spec hm⟩
    exact congrArg (fun x => Except.map (·.getD {}) (Except.map some x)) hm

/-! ## ConfigMaps -/

theorem configMap_accepts {key : String} {v : Json} (h : ConfigMapMember key v) :
    ObjectShape.configMap.Accepts key v := by
  unfold ConfigMapMember at h
  split at h
  · rename_i hkey
    subst hkey
    subst h
    exact (ObjectShape.accepts_constants ObjectShape.configMap).1
  split at h
  · rename_i hkey
    subst hkey
    subst h
    exact (ObjectShape.accepts_constants ObjectShape.configMap).2
  split at h
  · rename_i hkey
    subst hkey
    intro m
    obtain ⟨m', hm', -⟩ := metadata_typed h
    exact ⟨m', hm'⟩
  · rename_i hversion hkind hmeta
    intro m
    unfold ObjectShape.visit
    split
    · exact absurd rfl hversion
    · exact absurd rfl hkind
    · exact absurd rfl hmeta
    · by_cases h1 : key = "data"
      · subst h1
        exact MemberType.map_check .textMap (h .textMap rfl) _
      by_cases h2 : key = "binaryData"
      · subst h2
        exact MemberType.map_check .textMap (h .textMap rfl) _
      by_cases h3 : key = "immutable"
      · subst h3
        have hflag := h .flag rfl
        cases v with
        | null => exact ⟨_, rfl⟩
        | bool b => exact ⟨_, rfl⟩
        | _ => cases hflag
      · have hnone : ObjectShape.configMap.parts.lookup key = none := by
          simp only [ObjectShape.configMap, List.lookup_cons, beq_eq_false_iff_ne.2 h1,
            beq_eq_false_iff_ne.2 h2, beq_eq_false_iff_ne.2 h3, List.lookup_nil]
        rw [hnone, skip_draft]
        exact ⟨_, rfl⟩

/-- **Every ConfigMap is read**, as the record that its metadata names. -/
theorem readConfigMap_typed {v : Json} (h : ConfigMapTyped v) (ns : String) :
    LockRecord.readConfigMap ns v.draft = .ok (v.lockRecord ns) := by
  obtain ⟨ms, rfl, hms⟩ := h
  obtain ⟨m, hm⟩ := Reader.members_ok (fun k w hkw => configMap_accepts (hms k w hkw)) {}
  have hread : ObjectShape.configMap.read (Json.object ms).draft = .ok m := hm
  have hvalue := Reader.members_field "metadata" id
    (fun v => ((Reader.optional Metadata.read v.draft).map (·.getD {})).toOption.getD {})
    (fun s v s' hv => by rw [ObjectShape.visit_metadata] at hv; rw [hv]; rfl)
    (fun s k v s' hk hv => ObjectShape.visit_of_ne hk hv) hm
  rw [LockRecord.readConfigMap, hread]
  show Except.ok (m.lockRecord ns) = _
  congr 1
  cases hmember : (Json.object ms).member? "metadata" with
  | none =>
    rw [hmember] at hvalue
    obtain rfl : m = {} := hvalue
    simp [Metadata.lockRecord, Json.lockRecord, Json.metadataText?, Json.ownerObjects,
      Json.metadataMember?, hmember]
  | some w =>
    have htyped : MetadataTyped w := hms "metadata" w (Json.mem_of_member? hmember)
    obtain ⟨m', hm', hns, hname, howners⟩ := metadata_typed htyped
    rw [hmember] at hvalue
    obtain rfl : m = m' := by
      simpa [hm', Except.toOption] using hvalue
    have hlist : m.owners.getD [] = (Json.object ms).ownerObjects.map Json.ownerRef := by
      rw [howners, Json.ownerObjects, Json.metadataMember?, hmember, Option.bind_some]
      cases hos : w.member? "ownerReferences" with
      | none => rfl
      | some os =>
        obtain rfl | ⟨inner, rfl, hinner⟩ := htyped
        · cases hos
        · have hosTyped : OwnersTyped os := hinner _ _ (Json.mem_of_member? hos)
          rw [Option.bind_some, (owners?_typed hosTyped).2]
          obtain rfl | ⟨l, rfl, -⟩ := hosTyped <;> rfl
    simp only [Metadata.lockRecord, Json.lockRecord, Json.metadataText?, Json.metadataMember?,
      hmember, Option.bind_some, hns, hname, hlist]

end ClusterLock
