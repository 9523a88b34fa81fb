import ClusterLock.JsonForm
import ClusterLock.Proofs.DeclaredFields

/-
  Which JSON values are clusters, owner references and lock records. The forms are said of the
  value as a whole: which names stand how often, and with what under them; the readers go through
  it from left to right. `readsExactly` has that both agree on every well-formed text, and what
  does not matter: the order of members, members of other names, and whether the declared members
  stand under their names or in order.
-/
namespace ClusterLock

/-! ## The forms -/

def Cluster.names : List String := ["namespace", "name", "uid", "apiVersion", "kind"]

def OwnerRef.names : List String := ["apiVersion", "kind", "name", "uid"]

def LockRecord.names : List String := ["namespace", "name", "ownerReferences"]

/-- A list of texts in a value: an object in which each name stands once and with its text, or an
array of the texts in order. -/
inductive TextForm (names values : List String) : Json → Prop
  | object {ms : List (String × Json)}
      (once : List.Forall₂ (fun name s => Json.valuesOf name ms = [.text s]) names values) :
      TextForm names values (.object ms)
  | array (length : values.length = names.length) :
      TextForm names values (.array (values.map .text))

def Cluster.Form (c : Cluster) : Json → Prop :=
  TextForm names [c.ns, c.name, c.uid, c.apiVersion, c.kind]

def OwnerRef.Form (o : OwnerRef) : Json → Prop :=
  TextForm names [o.apiVersion, o.kind, o.name, o.uid]

/-- What stands for the owners of a record: an array of them, or nothing if there are none. -/
inductive OwnersForm : List OwnerRef → List Json → Prop
  | leftOut : OwnersForm [] []
  | listed {owners : List OwnerRef} {ws : List Json}
      (each : List.Forall₂ OwnerRef.Form owners ws) : OwnersForm owners [.array ws]

inductive LockRecord.Form (r : LockRecord) : Json → Prop
  | object {ms : List (String × Json)}
      (ns : Json.valuesOf "namespace" ms = [.text r.ns])
      (name : Json.valuesOf "name" ms = [.text r.name])
      (owners : OwnersForm r.owners (Json.valuesOf "ownerReferences" ms)) : Form r (.object ms)
  | array {ws : List Json} (owners : OwnersForm r.owners ws) :
      Form r (.array (.text r.ns :: .text r.name :: ws))

/-! ## What does not matter -/

/-- Members of other names put in or taken out, at any place and any number of times. `inside`
says what of it may happen to what stands under a name. -/
inductive Padded (names : List String) (inside : String → Json → Json → Prop) :
    Json → Json → Prop
  | insert {key : String} (other : key ∉ names) (w : Json) (ms₁ ms₂ : List (String × Json)) :
      Padded names inside (.object (ms₁ ++ ms₂)) (.object (ms₁ ++ (key, w) :: ms₂))
  | within {key : String} {w w' : Json} (h : inside key w w') (ms₁ ms₂ : List (String × Json)) :
      Padded names inside (.object (ms₁ ++ (key, w) :: ms₂)) (.object (ms₁ ++ (key, w') :: ms₂))
  | item {key : String} {w w' : Json} {ws₁ : List Json} (place : names[ws₁.length]? = some key)
      (h : inside key w w') (ws₂ : List Json) :
      Padded names inside (.array (ws₁ ++ w :: ws₂)) (.array (ws₁ ++ w' :: ws₂))
  | refl (v : Json) : Padded names inside v v
  | symm {v v' : Json} : Padded names inside v v' → Padded names inside v' v
  | trans {v v' v'' : Json} :
      Padded names inside v v' → Padded names inside v' v'' → Padded names inside v v''

/-- The same, and the members in another order, and the items of an array under the names of the
members that they stand for. -/
inductive SameFields (names : List String) (inside : String → Json → Json → Prop) :
    Json → Json → Prop
  | insert {key : String} (other : key ∉ names) (w : Json) (ms₁ ms₂ : List (String × Json)) :
      SameFields names inside (.object (ms₁ ++ ms₂)) (.object (ms₁ ++ (key, w) :: ms₂))
  | reorder {ms ms' : List (String × Json)} (h : ms.Perm ms') :
      SameFields names inside (.object ms) (.object ms')
  | positional {ws : List Json} (h : ws.length ≤ names.length) :
      SameFields names inside (.array ws) (.object (names.zip ws))
  | within {key : String} {w w' : Json} (h : inside key w w') (ms₁ ms₂ : List (String × Json)) :
      SameFields names inside (.object (ms₁ ++ (key, w) :: ms₂)) (.object (ms₁ ++ (key, w') :: ms₂))
  | refl (v : Json) : SameFields names inside v v
  | symm {v v' : Json} : SameFields names inside v v' → SameFields names inside v' v
  | trans {v v' v'' : Json} :
      SameFields names inside v v' → SameFields names inside v' v'' → SameFields names inside v v''

/-- Nothing may happen to what stands under a name. -/
def nowhere (_ : String) (_ _ : Json) : Prop := False

/-- It may happen to the owners of a record, to each of them. -/
def inOwners (change : Json → Json → Prop) (key : String) (w w' : Json) : Prop :=
  key = "ownerReferences" ∧ ∃ ws ws', w = .array ws ∧ w' = .array ws' ∧ List.Forall₂ change ws ws'

/-! ## What is missing -/

/-- An object that has the form once further members are added to it; `name` is the first of the
names that it lacks. -/
inductive Lacks {α : Type} (names : List String) (Form : α → Json → Prop) (name : String) :
    Json → Prop
  | own {ms extra : List (String × Json)} {a : α} (mended : Form a (.object (ms ++ extra)))
      (first : names.find? (fun n => n ∉ ms.map (·.1)) = some name) :
      Lacks names Form name (.object ms)

/-- A record that lacks a name itself, or one of whose owners does. -/
inductive LockRecord.LacksName (name : String) : Json → Prop
  | own {v : Json} (h : Lacks ["namespace", "name"] Form name v) : LacksName name v
  | owner {ms₁ ms₂ ms extra : List (String × Json)} {ws₁ ws₂ : List Json} {r : LockRecord}
      (mended : Form r (.object
        (ms₁ ++ ("ownerReferences", .array (ws₁ ++ .object (ms ++ extra) :: ws₂)) :: ms₂)))
      (first : OwnerRef.names.find? (fun n => n ∉ ms.map (·.1)) = some name) :
      LacksName name (.object
        (ms₁ ++ ("ownerReferences", .array (ws₁ ++ .object ms :: ws₂)) :: ms₂))
  | item {ns n : Json} {ms extra : List (String × Json)} {ws₁ ws₂ : List Json} {r : LockRecord}
      (mended : Form r (.array [ns, n, .array (ws₁ ++ .object (ms ++ extra) :: ws₂)]))
      (first : OwnerRef.names.find? (fun n => n ∉ ms.map (·.1)) = some name) :
      LacksName name (.array [ns, n, .array (ws₁ ++ .object ms :: ws₂)])

/-! ## Reading and the forms -/

theorem Reader.text_iff {v : Json} {s : String} : Reader.text v.draft = .ok s ↔ v = .text s := by
  constructor
  · intro h
    cases v with
    | text t =>
      cases h
      rfl
    | _ => cases h
  · rintro rfl
    rfl

theorem Reader.items_iff {α : Type} {read : Reader α} {ws : List Json} {as : List α} :
    Reader.items read (draftItems ws) none = .ok as ↔
      List.Forall₂ (fun a w => read (Json.draft w) = .ok a) as ws := by
  induction ws generalizing as with
  | nil =>
    rw [List.forall₂_nil_right_iff]
    exact ⟨fun h => (Except.ok.inj h).symm, fun h => by rw [h]; rfl⟩
  | cons w ws ih =>
    rw [List.forall₂_cons_right_iff, draftItems, Reader.items]
    constructor
    · intro h
      obtain ⟨a, ha, h⟩ := Except.bind_eq_ok h
      obtain ⟨as', has, h⟩ := Except.bind_eq_ok h
      cases h
      exact ⟨a, as', ha, ih.1 has, rfl⟩
    · rintro ⟨a, as', ha, has, rfl⟩
      rw [ha, show (Except.ok _ >>= _) = _ from rfl, ih.2 has]
      rfl

theorem Reader.list_iff {α : Type} {read : Reader α} {v : Json} {as : List α} :
    Reader.list read v.draft = .ok as ↔
      ∃ ws, v = .array ws ∧ List.Forall₂ (fun a w => read (Json.draft w) = .ok a) as ws := by
  constructor
  · intro h
    cases v with
    | array ws => exact ⟨ws, rfl, Reader.items_iff.1 h⟩
    | _ => cases h
  · rintro ⟨ws, rfl, h⟩
    exact Reader.items_iff.2 h

/-- The fields of a structure are read from an object or from an array. -/
theorem readAll_cases {α : Type} {title : String} {shapes : List (FieldShape α)} {v : Json}
    {as : List α} (h : FieldShape.readAll title shapes v.draft = .ok as) :
    (∃ ms, v = .object ms) ∨ ∃ ws, v = .array ws := by
  cases v with
  | object ms => exact Or.inl ⟨ms, rfl⟩
  | array ws => exact Or.inr ⟨ws, rfl⟩
  | _ => cases h

theorem distinct_textFields {names : List String} (hn : names.Nodup) :
    FieldShape.Distinct (names.map textField) := by
  rwa [FieldShape.Distinct, List.map_map, show (·.name) ∘ textField = id from rfl, List.map_id]

theorem inOrder_texts_iff {names values : List String} {ws : List Json} :
    FieldShape.GivenInOrder (names.map textField) ws values ↔
      ws = values.map .text ∧ values.length = names.length := by
  induction names generalizing ws values with
  | nil =>
    constructor
    · rintro ⟨⟩
      exact ⟨rfl, rfl⟩
    · rintro ⟨rfl, hlen⟩
      rw [List.length_eq_zero_iff.1 hlen]
      exact .nil
  | cons name names ih =>
    constructor
    · rintro (_ | ⟨hread, hrest⟩ | ⟨habsent, -⟩)
      · obtain ⟨rfl, hlen⟩ := ih.1 hrest
        rw [Reader.text_iff.1 hread, List.map_cons, List.length_cons, List.length_cons, hlen]
        exact ⟨rfl, rfl⟩
      · cases habsent
    · rintro ⟨rfl, hlen⟩
      cases values with
      | nil => cases hlen
      | cons s values => exact .item rfl (ih.2 ⟨rfl, Nat.succ.inj hlen⟩)

theorem textForm_iff {title : String} {names : List String} (hn : names.Nodup)
    {values : List String} {v : Json} :
    FieldShape.readAll title (names.map textField) v.draft = .ok values ↔
      TextForm names values v := by
  have hgiven : ∀ ms name s, FieldShape.GivenBy ms (textField name) s ↔
      Json.valuesOf name ms = [.text s] := by
    intro ms name s
    constructor
    · rintro (⟨w, hw, hread⟩ | ⟨-, habsent⟩)
      · rw [← Reader.text_iff.1 hread]
        exact hw
      · cases habsent
    · intro h
      exact Or.inl ⟨_, h, rfl⟩
  have hobject : ∀ ms, FieldShape.readAll title (names.map textField) (Json.object ms).draft =
      .ok values ↔ List.Forall₂ (fun name s => Json.valuesOf name ms = [.text s]) names values := by
    intro ms
    rw [FieldShape.readAll_object_iff (distinct_textFields hn), List.forall₂_map_left_iff]
    simp only [hgiven]
  constructor
  · intro h
    rcases readAll_cases h with ⟨ms, rfl⟩ | ⟨ws, rfl⟩
    · exact .object ((hobject ms).1 h)
    · obtain ⟨rfl, hlen⟩ := inOrder_texts_iff.1 (FieldShape.readAll_array_iff.1 h)
      exact .array hlen
  · rintro (h | h)
    · exact (hobject _).2 h
    · exact FieldShape.readAll_array_iff.2 (inOrder_texts_iff.2 ⟨rfl, h⟩)

/-- A reader of values that are made of the declared fields and nothing else. -/
structure ReadBy {α β : Type} (title : String) (shapes : List (FieldShape β))
    (fieldsOf : α → List β) (read : Reader α) : Prop where
  distinct : FieldShape.Distinct shapes
  built : ∃ build : List β → Except ReadError α,
    (∀ d, read d = (FieldShape.readAll title shapes d >>= build)) ∧
      ∀ as a, build as = .ok a ↔ as = fieldsOf a

namespace ReadBy

variable {α β : Type} {title : String} {shapes : List (FieldShape β)} {fieldsOf : α → List β}
  {read : Reader α} (h : ReadBy title shapes fieldsOf read)

include h

theorem ok_iff {d : Draft} {a : α} :
    read d = .ok a ↔ FieldShape.readAll title shapes d = .ok (fieldsOf a) := by
  obtain ⟨-, build, hread, hbuild⟩ := h
  rw [hread]
  constructor
  · intro hok
    obtain ⟨as, has, hok⟩ := Except.bind_eq_ok hok
    rw [has, (hbuild as a).1 hok]
  · intro hall
    rw [hall]
    exact (hbuild _ a).2 rfl

theorem error {d : Draft} {e : ReadError} (hall : FieldShape.readAll title shapes d = .error e) :
    read d = .error e := by
  obtain ⟨-, build, hread, -⟩ := h
  rw [hread, hall]
  rfl

theorem congr {d d' : Draft}
    (hall : FieldShape.readAll title shapes d = FieldShape.readAll title shapes d') :
    read d = read d' := by
  obtain ⟨-, build, hread, -⟩ := h
  rw [hread, hread, hall]

end ReadBy

theorem Cluster.readBy :
    ReadBy "ClusterIdentity" fields (fun c => [c.ns, c.name, c.uid, c.apiVersion, c.kind])
      read := by
  refine ⟨distinct_textFields (by decide), _, fun d => rfl, fun as c => ⟨fun h => ?_, ?_⟩⟩
  · split at h
    · cases h
      rfl
    · cases h
  · rintro rfl
    rfl

theorem OwnerRef.readBy :
    ReadBy "OwnerReference" fields (fun o => [o.apiVersion, o.kind, o.name, o.uid]) read := by
  refine ⟨distinct_textFields (by decide), _, fun d => rfl, fun as o => ⟨fun h => ?_, ?_⟩⟩
  · split at h
    · cases h
      rfl
    · cases h
  · rintro rfl
    rfl

theorem LockRecord.readBy :
    ReadBy "LockRecord" fields (fun r => [.text r.ns, .text r.name, .owners r.owners]) read := by
  refine ⟨by unfold FieldShape.Distinct; decide, _, fun d => rfl, fun as r => ⟨fun h => ?_, ?_⟩⟩
  · split at h
    · cases h
      rfl
    · cases h
  · rintro rfl
    rfl

theorem Cluster.form_iff {v : Json} {c : Cluster} : read v.draft = .ok c ↔ c.Form v :=
  readBy.ok_iff.trans (textForm_iff (by decide))

theorem OwnerRef.form_iff {v : Json} {o : OwnerRef} : read v.draft = .ok o ↔ o.Form v :=
  readBy.ok_iff.trans (textForm_iff (by decide))

namespace LockRecord

theorem readText_iff {w : Json} {x : FieldValue} :
    (Reader.text w.draft).map FieldValue.text = .ok x ↔ ∃ s, w = .text s ∧ x = .text s := by
  constructor
  · intro h
    obtain ⟨s, hs, rfl⟩ := Except.map_eq_ok h
    exact ⟨s, Reader.text_iff.1 hs, rfl⟩
  · rintro ⟨s, rfl, rfl⟩
    rfl

theorem readOwners_iff {w : Json} {x : FieldValue} :
    (Reader.list OwnerRef.read w.draft).map FieldValue.owners = .ok x ↔
      ∃ owners ws, w = .array ws ∧ List.Forall₂ OwnerRef.Form owners ws ∧ x = .owners owners := by
  constructor
  · intro h
    obtain ⟨owners, howners, rfl⟩ := Except.map_eq_ok h
    obtain ⟨ws, rfl, hws⟩ := Reader.list_iff.1 howners
    exact ⟨owners, ws, rfl, hws.imp fun o w => OwnerRef.form_iff.1, rfl⟩
  · rintro ⟨owners, ws, rfl, hws, rfl⟩
    rw [Reader.list_iff.2 ⟨ws, rfl, hws.imp fun o w => OwnerRef.form_iff.2⟩]
    rfl

theorem ownersForm_iff {owners : List OwnerRef} {ms : List (String × Json)} :
    FieldShape.GivenBy ms ⟨"ownerReferences",
      fun d => (Reader.list OwnerRef.read d).map FieldValue.owners, some (FieldValue.owners [])⟩
        (FieldValue.owners owners) ↔
      OwnersForm owners (Json.valuesOf "ownerReferences" ms) := by
  constructor
  · rintro (⟨w, hw, hread⟩ | ⟨hnil, habsent⟩)
    · obtain ⟨owners', ws, rfl, hws, hsame⟩ := readOwners_iff.1 hread
      cases hsame
      rw [show Json.valuesOf "ownerReferences" ms = [.array ws] from hw]
      exact .listed hws
    · cases habsent
      rw [show Json.valuesOf "ownerReferences" ms = [] from hnil]
      exact .leftOut
  · intro h
    generalize hvalues : Json.valuesOf "ownerReferences" ms = values at h
    cases h with
    | leftOut => exact Or.inr ⟨hvalues, rfl⟩
    | listed each => exact Or.inl ⟨_, hvalues, readOwners_iff.2 ⟨owners, _, rfl, each, rfl⟩⟩

theorem textGiven_iff {name s : String} {ms : List (String × Json)} :
    FieldShape.GivenBy ms ⟨name, fun d => (Reader.text d).map FieldValue.text, none⟩ (.text s) ↔
      Json.valuesOf name ms = [.text s] := by
  constructor
  · rintro (⟨w, hw, hread⟩ | ⟨-, habsent⟩)
    · obtain ⟨s', rfl, hsame⟩ := readText_iff.1 hread
      cases hsame
      exact hw
    · cases habsent
  · intro h
    exact Or.inl ⟨_, h, rfl⟩

theorem inOrder_fields_iff {ws : List Json} {r : LockRecord} :
    FieldShape.GivenInOrder fields ws [.text r.ns, .text r.name, .owners r.owners] ↔
      ∃ ws', ws = .text r.ns :: .text r.name :: ws' ∧ OwnersForm r.owners ws' := by
  constructor
  · rintro (_ | ⟨hns, hrest⟩ | ⟨habsent, -⟩)
    · obtain ⟨ns, rfl, hsame⟩ := readText_iff.1 hns
      cases hsame
      rcases hrest with _ | ⟨hname, hrest⟩ | ⟨habsent, -⟩
      · obtain ⟨name, rfl, hsame⟩ := readText_iff.1 hname
        cases hsame
        refine ⟨_, rfl, ?_⟩
        rcases hrest with _ | ⟨howners, ⟨⟩⟩ | ⟨habsent, -⟩
        · obtain ⟨owners, ws, rfl, hws, hsame⟩ := readOwners_iff.1 howners
          cases hsame
          exact .listed hws
        · rw [← (FieldValue.owners.inj (Option.some.inj habsent) : ([] : List OwnerRef) = r.owners)]
          exact .leftOut
      · cases habsent
    · cases habsent
  · rintro ⟨ws', rfl, howners⟩
    refine .item rfl (.item rfl ?_)
    obtain ⟨ns, name, owners⟩ := r
    cases howners with
    | leftOut => exact .absent rfl .nil
    | listed each => exact .item (readOwners_iff.2 ⟨owners, _, rfl, each, rfl⟩) .nil

theorem form_iff {v : Json} {r : LockRecord} : read v.draft = .ok r ↔ r.Form v := by
  have hobject : ∀ ms, FieldShape.readAll "LockRecord" fields (Json.object ms).draft =
      .ok [.text r.ns, .text r.name, .owners r.owners] ↔ r.Form (.object ms) := by
    intro ms
    rw [FieldShape.readAll_object_iff readBy.distinct]
    simp only [fields, List.forall₂_cons, textGiven_iff, ownersForm_iff, List.Forall₂.nil, and_true]
    constructor
    · rintro ⟨hns, hname, howners⟩
      exact .object hns hname howners
    · rintro ⟨hns, hname, howners⟩
      exact ⟨hns, hname, howners⟩
  rw [readBy.ok_iff]
  constructor
  · intro h
    rcases readAll_cases h with ⟨ms, rfl⟩ | ⟨ws, rfl⟩
    · exact (hobject ms).1 h
    · obtain ⟨ws', rfl, howners⟩ := inOrder_fields_iff.1 (FieldShape.readAll_array_iff.1 h)
      exact .array howners
  · intro h
    cases h with
    | object hns hname howners => exact (hobject _).2 (.object hns hname howners)
    | array howners =>
      exact FieldShape.readAll_array_iff.2 (inOrder_fields_iff.2 ⟨_, rfl, howners⟩)

end LockRecord

/-! ## Reading and what does not matter -/

namespace FieldShape

variable {α : Type} {shapes : List (FieldShape α)} {inside : String → Json → Json → Prop}

theorem same_of_alike (hn : Distinct shapes)
    (hinside : ∀ shape ∈ shapes, ∀ w w', inside shape.name w w' →
      ∀ a, shape.read w.draft = .ok a ↔ shape.read w'.draft = .ok a)
    {v v' : Json} (h : SameFields (shapes.map (·.name)) inside v v') : Same shapes v v' := by
  induction h with
  | insert other w ms₁ ms₂ =>
    intro title as
    rw [readAll_inserted other]
  | reorder h => exact same_reordered hn h
  | positional h => exact same_positional hn (by simpa using h)
  | within h ms₁ ms₂ =>
    refine same_within hn (fun shape hs hname => ?_) ms₁ ms₂
    exact hinside shape hs _ _ (hname ▸ h)
  | refl v => exact fun title as => Iff.rfl
  | symm _ ih => exact fun title as => (ih title as).symm
  | trans _ _ ih₁ ih₂ => exact fun title as => (ih₁ title as).trans (ih₂ title as)

theorem readAll_padded
    (hinside : ∀ shape ∈ shapes, ∀ w w', inside shape.name w w' →
      shape.read w.draft = shape.read w'.draft)
    {v v' : Json} (h : Padded (shapes.map (·.name)) inside v v') (title : String) :
    readAll title shapes v.draft = readAll title shapes v'.draft := by
  induction h with
  | insert other w ms₁ ms₂ => exact (readAll_inserted other w ms₁ ms₂).symm
  | within h ms₁ ms₂ =>
    exact readAll_within (fun shape hs hname => hinside shape hs _ _ (hname ▸ h)) ms₁ ms₂
  | @item key w w' ws₁ place h ws₂ =>
    refine inOrder_item fun shape hs => ?_
    rw [List.getElem?_map, hs] at place
    have hkey : shape.name = key := Option.some.inj place
    exact hinside shape (List.mem_of_getElem? hs) _ _ (hkey ▸ h)
  | refl v => rfl
  | symm _ ih => exact ih.symm
  | trans _ _ ih₁ ih₂ => exact ih₁.trans ih₂

end FieldShape

namespace ReadBy

variable {α β : Type} {title : String} {shapes : List (FieldShape β)} {fieldsOf : α → List β}
  {read : Reader α} (h : ReadBy title shapes fieldsOf read) {inside : String → Json → Json → Prop}
  {v v' : Json}

include h

theorem alike
    (hinside : ∀ shape ∈ shapes, ∀ w w', inside shape.name w w' →
      ∀ a, shape.read w.draft = .ok a ↔ shape.read w'.draft = .ok a)
    (halike : SameFields (shapes.map (·.name)) inside v v') (a : α) :
    read v.draft = .ok a ↔ read v'.draft = .ok a := by
  rw [h.ok_iff, h.ok_iff]
  exact FieldShape.same_of_alike h.distinct hinside halike title (fieldsOf a)

theorem padded
    (hinside : ∀ shape ∈ shapes, ∀ w w', inside shape.name w w' →
      shape.read w.draft = shape.read w'.draft)
    (hpadded : Padded (shapes.map (·.name)) inside v v') : read v.draft = read v'.draft :=
  h.congr (FieldShape.readAll_padded hinside hpadded title)

theorem lacks {Form : α → Json → Prop} (hform : ∀ {v a}, read v.draft = .ok a ↔ Form a v)
    {name : String} (hlacks : Lacks (FieldShape.required shapes) Form name v) :
    read v.draft = .error (.mismatch (.missingField name)) := by
  obtain ⟨mended, first⟩ := hlacks
  exact h.error (FieldShape.readAll_lacking h.distinct (h.ok_iff.1 (hform.2 mended)) first)

end ReadBy

/-! ## Owners -/

theorem forall₂_right {α β : Type} {R : α → β → Prop} {l : List α} {u : List β}
    (h : List.Forall₂ R l u) {b : β} (hb : b ∈ u) : ∃ a, R a b := by
  obtain ⟨i, hi, rfl⟩ := List.getElem_of_mem hb
  exact ⟨_, h.get (h.length_eq ▸ hi) hi⟩

namespace Reader

variable {α : Type} {read : Reader α} {ws ws' : List Json}

theorem items_alike
    (h : List.Forall₂ (fun w w' => ∀ a, read (Json.draft w) = .ok a ↔ read (Json.draft w') = .ok a)
      ws ws') (as : List α) :
    items read (draftItems ws) none = .ok as ↔ items read (draftItems ws') none = .ok as := by
  rw [items_iff, items_iff]
  induction h generalizing as with
  | nil => rfl
  | cons hw _ ih => simp only [List.forall₂_cons_right_iff, hw, ih]

theorem items_congr
    (h : List.Forall₂ (fun w w' => read (Json.draft w) = read (Json.draft w')) ws ws') :
    items read (draftItems ws) none = items read (draftItems ws') none := by
  induction h with
  | nil => rfl
  | cons hw _ ih => rw [draftItems, draftItems, items, items, hw, ih]

/-- Of items that are read once one of them is exchanged, the problem of that item is reported. -/
theorem items_unreadable {ws₁ ws₂ : List Json} {w w' : Json} {as : List α} {e : ReadError}
    (hok : List.Forall₂ (fun a w => read (Json.draft w) = .ok a) as (ws₁ ++ w' :: ws₂))
    (he : read w.draft = .error e) :
    items read (draftItems (ws₁ ++ w :: ws₂)) none = .error e := by
  induction ws₁ generalizing as with
  | nil =>
    rw [List.nil_append, draftItems, items, he]
    rfl
  | cons w₁ ws₁ ih =>
    rw [List.cons_append, List.forall₂_cons_right_iff] at hok
    obtain ⟨a, as', ha, has, -⟩ := hok
    rw [List.cons_append, draftItems, items, ha]
    show (items read (draftItems (ws₁ ++ w :: ws₂)) none >>= _) = _
    rw [ih has]
    rfl

end Reader

namespace LockRecord

/-- Only the field of the owners has something that `inOwners` is about. -/
theorem inOwners_field {change : Json → Json → Prop} {shape : FieldShape FieldValue}
    (hs : shape ∈ fields) {w w' : Json} (h : inOwners change shape.name w w') :
    shape.read = (fun d => (Reader.list OwnerRef.read d).map .owners) ∧
      ∃ ws ws', w = .array ws ∧ w' = .array ws' ∧ List.Forall₂ change ws ws' := by
  obtain ⟨hname, hchange⟩ := h
  simp only [fields, List.mem_cons, List.not_mem_nil, or_false] at hs
  rcases hs with rfl | rfl | rfl
  · exact absurd hname (by decide)
  · exact absurd hname (by decide)
  · exact ⟨rfl, hchange⟩

theorem alike_owners (shape : FieldShape FieldValue) (hs : shape ∈ fields) (w w' : Json)
    (h : inOwners (SameFields OwnerRef.names nowhere) shape.name w w') (x : FieldValue) :
    shape.read w.draft = .ok x ↔ shape.read w'.draft = .ok x := by
  obtain ⟨hread, ws, ws', rfl, rfl, hchange⟩ := inOwners_field hs h
  have hitems : ∀ owners, Reader.items OwnerRef.read (draftItems ws) none = .ok owners ↔
      Reader.items OwnerRef.read (draftItems ws') none = .ok owners :=
    Reader.items_alike
      (hchange.imp fun v v' halike => OwnerRef.readBy.alike (fun _ _ _ _ => nofun) halike)
  have hlist : ∀ us, Reader.list OwnerRef.read (Json.array us).draft =
      Reader.items OwnerRef.read (draftItems us) none := fun us => rfl
  rw [hread]
  dsimp only
  rw [hlist, hlist]
  constructor
  · intro hx
    obtain ⟨owners, howners, rfl⟩ := Except.map_eq_ok hx
    rw [(hitems owners).1 howners]
    rfl
  · intro hx
    obtain ⟨owners, howners, rfl⟩ := Except.map_eq_ok hx
    rw [(hitems owners).2 howners]
    rfl

theorem padded_owners (shape : FieldShape FieldValue) (hs : shape ∈ fields) (w w' : Json)
    (h : inOwners (Padded OwnerRef.names nowhere) shape.name w w') :
    shape.read w.draft = shape.read w'.draft := by
  obtain ⟨hread, ws, ws', rfl, rfl, hchange⟩ := inOwners_field hs h
  have hitems : Reader.items OwnerRef.read (draftItems ws) none =
      Reader.items OwnerRef.read (draftItems ws') none :=
    Reader.items_congr
      (hchange.imp fun v v' hpadded => OwnerRef.readBy.padded (fun _ _ _ _ => nofun) hpadded)
  rw [hread]
  exact congrArg (Except.map FieldValue.owners) hitems

/-- Among owners that are accepted once one object has further members, the first name that this
object lacks is reported. -/
theorem owners_lacking {name : String} {owners : List OwnerRef} {ws₁ ws₂ : List Json}
    {ms extra : List (String × Json)}
    (each : List.Forall₂ OwnerRef.Form owners (ws₁ ++ .object (ms ++ extra) :: ws₂))
    (first : OwnerRef.names.find? (fun n => n ∉ ms.map (·.1)) = some name) :
    (Reader.list OwnerRef.read (Json.array (ws₁ ++ .object ms :: ws₂)).draft).map
      FieldValue.owners = .error (.mismatch (.missingField name)) := by
  obtain ⟨o, mended⟩ := forall₂_right each (by simp : Json.object (ms ++ extra) ∈ _)
  have howner : OwnerRef.read (Json.object ms).draft = .error (.mismatch (.missingField name)) :=
    OwnerRef.readBy.lacks OwnerRef.form_iff (.own mended first)
  have hitems := Reader.items_unreadable (each.imp fun o w => OwnerRef.form_iff.2) howner
  exact congrArg (Except.map FieldValue.owners) hitems

theorem each_of_ownersForm {owners : List OwnerRef} {ws : List Json} {l₁ l₂ : List Json}
    (h : OwnersForm owners (l₁ ++ .array ws :: l₂)) : List.Forall₂ OwnerRef.Form owners ws := by
  generalize hvalues : l₁ ++ .array ws :: l₂ = values at h
  cases h with
  | leftOut => simp at hvalues
  | listed each =>
    obtain ⟨-, hlist⟩ | ⟨-, hlist⟩ := List.append_eq_singleton_iff.1 hvalues
    · cases hlist
      exact each
    · cases hlist

theorem read_lacksName {name : String} {v : Json} (h : LacksName name v) :
    read v.draft = .error (.mismatch (.missingField name)) := by
  cases h with
  | own h => exact readBy.lacks form_iff h
  | @owner ms₁ ms₂ ms extra ws₁ ws₂ r mended first =>
    have each : List.Forall₂ OwnerRef.Form r.owners (ws₁ ++ .object (ms ++ extra) :: ws₂) := by
      cases mended with
      | object hns hname howners =>
        rw [Json.valuesOf_append, Json.valuesOf_cons_self] at howners
        exact each_of_ownersForm howners
    have hfield : fields[2] ∈ fields := List.getElem_mem _
    exact readBy.error (FieldShape.readAll_unreadable readBy.distinct hfield
      (readBy.ok_iff.1 (form_iff.2 mended)) (owners_lacking each first))
  | @item ns n ms extra ws₁ ws₂ r mended first =>
    have hgiven := FieldShape.readAll_array_iff.1 (readBy.ok_iff.1 (form_iff.2 mended))
    have each : List.Forall₂ OwnerRef.Form r.owners (ws₁ ++ .object (ms ++ extra) :: ws₂) := by
      cases mended with
      | array howners => exact @each_of_ownersForm _ _ [] [] howners
    have hfield : fields[[ns, n].length]? = some fields[2] := rfl
    exact readBy.error (FieldShape.inOrder_unreadable hfield hgiven (owners_lacking each first))

end LockRecord

/-! ## Well-formed texts -/

/-- What a reader makes of the well-formed texts. -/
structure ReadsExactly {α : Type} (read : Reader α) (Form : α → Json → Prop)
    (Alike Padded : Json → Json → Prop) (Lacks : String → Json → Prop) : Prop where
  /-- It reads the values of the form, as what the form says. -/
  accepted : ∀ cs v, Json.read cs = .ok v → ∀ a, read.run cs = .ok a ↔ Form a v
  /-- Values that differ only in what does not matter are read as the same, or both are not. -/
  alike : ∀ cs cs' v v', Json.read cs = .ok v → Json.read cs' = .ok v' → Alike v v' →
    (read.run cs).toOption = (read.run cs').toOption
  /-- Members of other names do not even matter for what is reported. -/
  padded : ∀ cs cs' v v', Json.read cs = .ok v → Json.read cs' = .ok v' → Padded v v' →
    read.run cs = read.run cs'
  /-- The first name that is missing is reported, if nothing else is wrong. -/
  lacking : ∀ cs v name, Json.read cs = .ok v → Lacks name v →
    read.run cs = .error (.mismatch (.missingField name))

theorem toOption_eq {ε α : Type} {x y : Except ε α} (h : ∀ a, x = .ok a ↔ y = .ok a) :
    x.toOption = y.toOption := by
  cases x with
  | ok a => rw [(h a).1 rfl]
  | error e =>
    cases y with
    | ok a => cases (h a).2 rfl
    | error e' => rfl

theorem readsExactly_of_draft {α : Type} {read : Reader α} {Form : α → Json → Prop}
    {Alike Padded : Json → Json → Prop} {Lacks : String → Json → Prop}
    (accepted : ∀ {v a}, read v.draft = .ok a ↔ Form a v)
    (alike : ∀ {v v'}, Alike v v' → ∀ a, read v.draft = .ok a ↔ read v'.draft = .ok a)
    (padded : ∀ {v v'}, Padded v v' → read v.draft = read v'.draft)
    (lacking : ∀ {v name}, Lacks name v → read v.draft = .error (.mismatch (.missingField name))) :
    ReadsExactly read Form Alike Padded Lacks where
  accepted cs v hv a := by rw [run_of_read hv, accepted]
  alike cs cs' v v' hv hv' halike := by
    rw [run_of_read hv, run_of_read hv', toOption_eq (alike halike)]
  padded cs cs' v v' hv hv' hpadded := by
    rw [run_of_read hv, run_of_read hv', padded hpadded]
  lacking cs v name hv hlacks := by rw [run_of_read hv, lacking hlacks]

/-- **Clusters, owner references and lock records are read from exactly the values of their
forms**, in every well-formed text: every text that spells a value within the limits of the format,
and so every text of such a value with blanks between its parts. Neither the order of members nor
members of other names matter, nor whether the values stand under their names or in order; and if
all that is wrong is that one object lacks names, the first of them is reported. -/
theorem readsExactly :
    (∀ cs v, Json.read cs = .ok v ↔ Spells cs v ∧ v.Fits nestingLimit) ∧
      (∀ cs v, v.Plain → v.Fits nestingLimit → Spaced v.tokens cs → Json.read cs = .ok v) ∧
      ReadsExactly Cluster.read Cluster.Form (SameFields Cluster.names nowhere)
        (Padded Cluster.names nowhere) (Lacks Cluster.names Cluster.Form) ∧
      ReadsExactly OwnerRef.read OwnerRef.Form (SameFields OwnerRef.names nowhere)
        (Padded OwnerRef.names nowhere) (Lacks OwnerRef.names OwnerRef.Form) ∧
      ReadsExactly LockRecord.read LockRecord.Form
        (SameFields LockRecord.names (inOwners (SameFields OwnerRef.names nowhere)))
        (Padded LockRecord.names (inOwners (Padded OwnerRef.names nowhere)))
        LockRecord.LacksName := by
  refine ⟨fun _ _ => json_read_iff, fun _ _ => json_read_of_spaced, ?_, ?_, ?_⟩
  · exact readsExactly_of_draft Cluster.form_iff
      (Cluster.readBy.alike fun _ _ _ _ => nofun)
      (Cluster.readBy.padded fun _ _ _ _ => nofun)
      (Cluster.readBy.lacks Cluster.form_iff)
  · exact readsExactly_of_draft OwnerRef.form_iff
      (OwnerRef.readBy.alike fun _ _ _ _ => nofun)
      (OwnerRef.readBy.padded fun _ _ _ _ => nofun)
      (OwnerRef.readBy.lacks OwnerRef.form_iff)
  · exact readsExactly_of_draft LockRecord.form_iff
      (LockRecord.readBy.alike LockRecord.alike_owners)
      (LockRecord.readBy.padded LockRecord.padded_owners)
      LockRecord.read_lacksName

/-- A record in order, under its names with another member among them, and without its
namespace. -/
theorem readsExactly_paddedRecord :
    let ordered := "[\"ns1\",\"abc\"]".toList
    let named := "\x7b\"name\":\"abc\",\"namespace\":\"ns1\"\x7d".toList
    let padded := "\x7b\"name\":\"abc\",\"note\":[true],\"namespace\":\"ns1\"\x7d".toList
    let lacking := "\x7b\"name\":\"abc\"\x7d".toList
    let r : LockRecord := ⟨"ns1", "abc", []⟩
    Json.read named = .ok (.object [("name", .text "abc"), ("namespace", .text "ns1")]) ∧
      LockRecord.read.run named = .ok r ∧
      (LockRecord.read.run ordered).toOption = (LockRecord.read.run named).toOption ∧
      LockRecord.read.run named = LockRecord.read.run padded ∧
      LockRecord.read.run lacking = .error (.mismatch (.missingField "namespace")) := by
  intro ordered named padded lacking r
  let values : List Json := [.text "ns1", .text "abc"]
  let members : List (String × Json) := [("name", .text "abc"), ("namespace", .text "ns1")]
  have hordered : Json.read ordered = .ok (.array values) := by
    refine json_read_of_render ?_ ?_ (by decide +kernel)
    · simp [values, Json.Plain, PlainItems]
    · simp [values, Json.Fits, ItemsFit, nestingLimit]
  have hnamed : Json.read named = .ok (.object members) := by
    refine json_read_of_render ?_ ?_ (by decide +kernel)
    · simp [members, Json.Plain, PlainMembers]
    · simp [members, Json.Fits, MembersFit, nestingLimit]
  have hpadded : Json.read padded = .ok (.object ([("name", .text "abc")] ++
      ("note", .array [.bool true]) :: [("namespace", .text "ns1")])) := by
    refine json_read_of_render ?_ ?_ (by decide +kernel)
    · simp [Json.Plain, PlainMembers, PlainItems]
    · simp [Json.Fits, MembersFit, ItemsFit, nestingLimit]
  have hlacking : Json.read lacking = .ok (.object [("name", .text "abc")]) := by
    refine json_read_of_render ?_ ?_ (by decide +kernel)
    · simp [Json.Plain, PlainMembers]
    · simp [Json.Fits, MembersFit, nestingLimit]
  have hform : r.Form (.object members) := .object rfl rfl .leftOut
  obtain ⟨-, -, -, -, hrecord⟩ := readsExactly
  refine ⟨hnamed, (hrecord.accepted _ _ hnamed r).2 hform, ?_, ?_, ?_⟩
  · refine hrecord.alike _ _ _ _ hordered hnamed (.trans (.positional (by decide)) ?_)
    exact .reorder (List.Perm.swap ..)
  · have hother : "note" ∉ LockRecord.names := by decide
    exact hrecord.padded _ _ _ _ hnamed hpadded
      (.insert hother _ [("name", .text "abc")] [("namespace", .text "ns1")])
  · refine hrecord.lacking _ _ _ hlacking (.own ?_)
    exact @Lacks.own _ _ _ _ _ [("namespace", .text "ns1")] r hform (by decide)

end ClusterLock
