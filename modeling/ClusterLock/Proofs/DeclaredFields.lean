import ClusterLock.Proofs.WellFormed
import Mathlib.Data.List.Forall2

/-
  Reading a structure by its declared fields. `visit` goes from left to right and keeps a state;
  what it comes to is said here of the members as a whole: each declared name stands there at most
  once (`Settles`), so that neither the order nor anything under other names matters
  (`readAll_object_iff`). An array is read field by field (`readAll_array_iff`), which is what the
  object made of it gives (`object_zip_iff`). `readAll_lacking` says which missing field is
  reported.
-/
namespace ClusterLock

/-! ## The members of a name -/

namespace Json

/-- What stands under a name, in the order of the text. -/
def valuesOf (key : String) (ms : List (String × Json)) : List Json :=
  (ms.filter (·.1 == key)).map (·.2)

variable {key k : String} {v : Json} {ms ms₁ ms₂ : List (String × Json)}

@[simp] theorem valuesOf_nil : valuesOf key [] = [] := rfl

@[simp] theorem valuesOf_cons_self : valuesOf key ((key, v) :: ms) = v :: valuesOf key ms := by
  simp [valuesOf]

theorem valuesOf_cons_of_ne (h : k ≠ key) : valuesOf key ((k, v) :: ms) = valuesOf key ms := by
  simp [valuesOf, h]

theorem valuesOf_append : valuesOf key (ms₁ ++ ms₂) = valuesOf key ms₁ ++ valuesOf key ms₂ := by
  simp [valuesOf]

theorem valuesOf_perm (h : ms₁.Perm ms₂) : (valuesOf key ms₁).Perm (valuesOf key ms₂) :=
  (h.filter _).map _

theorem valuesOf_eq_nil_iff : valuesOf key ms = [] ↔ key ∉ ms.map (·.1) := by
  simp only [valuesOf, List.map_eq_nil_iff, List.filter_eq_nil_iff, List.mem_map, beq_iff_eq,
    not_exists, not_and]

end Json

/-! ## Objects cut in two -/

namespace Reader

variable {σ : Type} {visit : σ → String → Draft → Except ReadError σ}

theorem members_cons (k : String) (v : Json) (ms : List (String × Json)) (s : σ) :
    members visit (draftMembers ((k, v) :: ms)) none s =
      (visit s k v.draft >>= members visit (draftMembers ms) none) := rfl

theorem members_append (ms₁ ms₂ : List (String × Json)) (s : σ) :
    members visit (draftMembers (ms₁ ++ ms₂)) none s =
      (members visit (draftMembers ms₁) none s >>= members visit (draftMembers ms₂) none) := by
  induction ms₁ generalizing s with
  | nil => rfl
  | cons kv ms₁ ih =>
    obtain ⟨k, v⟩ := kv
    rw [List.cons_append, members_cons, members_cons]
    cases visit s k v.draft with
    | error e => rfl
    | ok t => exact ih t

end Reader

namespace FieldShape

variable {α : Type} {shapes : List (FieldShape α)} {ms : List (String × Json)}

/-- No name is declared twice. -/
def Distinct (shapes : List (FieldShape α)) : Prop := (shapes.map (·.name)).Nodup

/-! ## One member -/

theorem find?_name (hn : Distinct shapes) {shape : FieldShape α} (h : shape ∈ shapes) :
    shapes.find? (·.name == shape.name) = some shape := by
  induction shapes with
  | nil => cases h
  | cons s shapes ih =>
    rw [Distinct, List.map_cons, List.nodup_cons] at hn
    rcases List.mem_cons.1 h with rfl | hmem
    · exact List.find?_cons_of_pos (by simp)
    · have hne : s.name ≠ shape.name := by
        rintro heq
        exact hn.1 (heq ▸ List.mem_map_of_mem hmem)
      rw [List.find?_cons_of_neg (by simpa using hne)]
      exact ih hn.2 hmem

/-- A member that is not declared changes nothing. -/
theorem visit_undeclared {key : String} (h : key ∉ shapes.map (·.name)) (filled : Filled α)
    (v : Json) : visit shapes filled key v.draft = .ok filled := by
  have hnone : shapes.find? (·.name == key) = none := by
    simp only [List.find?_eq_none, beq_iff_eq]
    intro shape hs heq
    exact h (heq ▸ List.mem_map_of_mem hs)
  simp only [visit, hnone, skip_draft]
  rfl

/-- A member of a declared field fills it with what it holds. -/
theorem visit_declared (hn : Distinct shapes) {shape : FieldShape α} (h : shape ∈ shapes)
    {filled : Filled α} (hf : filled.lookup shape.name = none) (v : Json) :
    visit shapes filled shape.name v.draft =
      (shape.read v.draft).map fun a => filled ++ [(shape.name, a)] := by
  simp only [visit, find?_name hn h, hf]
  rfl

/-- What one member can do: one that is declared fills a field that is not filled yet. -/
theorem visit_cases {filled filled' : Filled α} {key : String} {d : Draft}
    (h : visit shapes filled key d = .ok filled') :
    (key ∉ shapes.map (·.name) ∧ filled' = filled) ∨
      ∃ shape ∈ shapes, shape.name = key ∧ filled.lookup key = none ∧
        ∃ a, shape.read d = .ok a ∧ filled' = filled ++ [(key, a)] := by
  unfold visit at h
  split at h
  · rename_i hnone
    obtain ⟨-, -, rfl⟩ := Except.map_eq_ok h
    refine Or.inl ⟨fun hmem => ?_, rfl⟩
    obtain ⟨shape, hs, rfl⟩ := List.mem_map.1 hmem
    exact absurd (List.find?_eq_none.1 hnone shape hs) (by simp)
  · rename_i shape hfind
    split at h
    · cases h
    · rename_i hlookup
      obtain ⟨a, ha, rfl⟩ := Except.map_eq_ok h
      have hname : shape.name = key := by simpa using List.find?_some hfind
      exact Or.inr ⟨shape, List.mem_of_find?_eq_some hfind, hname,
        Option.not_isSome_iff_eq_none.1 hlookup, a, ha, rfl⟩

theorem lookup_filled (filled : Filled α) (key k : String) (a : α) :
    (filled ++ [(k, a)]).lookup key =
      (filled.lookup key).or (if key = k then some a else none) := by
  rw [List.lookup_append]
  by_cases h : key = k
  · simp [h]
  · have hb : (key == k) = false := by simpa using h
    simp [h, hb, List.lookup_cons]

/-! ## All members -/

/-- What members make of a field: they leave it as it is if none of them is its own; one that is
fills it, if it has not been filled before. -/
def Settles (ms : List (String × Json)) (shape : FieldShape α) (before after : Option α) : Prop :=
  (Json.valuesOf shape.name ms = [] ∧ after = before) ∨
    ∃ w a, Json.valuesOf shape.name ms = [w] ∧ shape.read w.draft = .ok a ∧
      before = none ∧ after = some a

/-- In an object that is read every field is settled. -/
theorem settles_of_members (hn : Distinct shapes) {filled filled' : Filled α}
    (h : Reader.members (visit shapes) (draftMembers ms) none filled = .ok filled')
    {shape : FieldShape α} (hs : shape ∈ shapes) :
    Settles ms shape (filled.lookup shape.name) (filled'.lookup shape.name) := by
  induction ms generalizing filled with
  | nil =>
    cases h
    exact Or.inl ⟨rfl, rfl⟩
  | cons kv ms ih =>
    obtain ⟨k, v⟩ := kv
    obtain ⟨t, ht, hrest⟩ := Reader.members_cons_ok h
    have ih := ih hrest
    rcases visit_cases ht with ⟨hk, rfl⟩ | ⟨s, hmem, rfl, hnone, a, ha, rfl⟩
    · have hne : k ≠ shape.name := fun heq => hk (heq ▸ List.mem_map_of_mem hs)
      unfold Settles at ih ⊢
      rwa [Json.valuesOf_cons_of_ne hne]
    · rw [lookup_filled] at ih
      by_cases hname : s.name = shape.name
      · -- a field that is filled now has no further member
        have hsame : s = shape := by
          have hfind := find?_name hn hmem
          rw [hname, find?_name hn hs] at hfind
          exact (Option.some.inj hfind).symm
        subst hsame
        rw [hnone, if_pos rfl] at ih
        rcases ih with ⟨hvalues, hafter⟩ | ⟨-, -, -, -, hbefore, -⟩
        · exact Or.inr ⟨v, a, by rw [Json.valuesOf_cons_self, hvalues], ha, hnone, hafter⟩
        · cases hbefore
      · rw [if_neg (Ne.symm hname), Option.or_none] at ih
        unfold Settles at ih ⊢
        rwa [Json.valuesOf_cons_of_ne hname]

/-- An object is read if every field can be settled. -/
theorem members_of_settles (hn : Distinct shapes) {filled : Filled α}
    (h : ∀ shape ∈ shapes, ∃ after, Settles ms shape (filled.lookup shape.name) after) :
    ∃ filled', Reader.members (visit shapes) (draftMembers ms) none filled = .ok filled' := by
  induction ms generalizing filled with
  | nil => exact ⟨filled, rfl⟩
  | cons kv ms ih =>
    obtain ⟨k, v⟩ := kv
    rw [Reader.members_cons]
    by_cases hk : k ∈ shapes.map (·.name)
    · obtain ⟨shape, hs, rfl⟩ := List.mem_map.1 hk
      obtain ⟨-, ⟨hvalues, -⟩ | ⟨w, a, hvalues, ha, hnone, -⟩⟩ := h shape hs
      · rw [Json.valuesOf_cons_self] at hvalues
        cases hvalues
      rw [Json.valuesOf_cons_self] at hvalues
      obtain ⟨rfl, hlast⟩ := List.cons.inj hvalues
      rw [visit_declared hn hs hnone, ha]
      refine ih fun s hmem => ?_
      rw [lookup_filled]
      by_cases hname : s.name = shape.name
      · rw [hname, if_pos rfl, hnone]
        exact ⟨some a, Or.inl ⟨hname ▸ hlast, rfl⟩⟩
      · obtain ⟨after, hafter⟩ := h s hmem
        unfold Settles at hafter
        rw [Json.valuesOf_cons_of_ne (Ne.symm hname)] at hafter
        rw [if_neg hname, Option.or_none]
        exact ⟨after, hafter⟩
    · rw [visit_undeclared hk]
      refine ih fun shape hs => ?_
      have hne : k ≠ shape.name := fun heq => hk (heq ▸ List.mem_map_of_mem hs)
      obtain ⟨after, hafter⟩ := h shape hs
      unfold Settles at hafter
      rw [Json.valuesOf_cons_of_ne hne] at hafter
      exact ⟨after, hafter⟩

/-! ## Objects -/

/-- What an object gives to a field: the value of its only member, or the default without one. -/
def GivenBy (ms : List (String × Json)) (shape : FieldShape α) (a : α) : Prop :=
  (∃ w, Json.valuesOf shape.name ms = [w] ∧ shape.read w.draft = .ok a) ∨
    (Json.valuesOf shape.name ms = [] ∧ shape.absent = some a)

theorem gather_iff {filled : Filled α} {as : List α} :
    gather filled shapes = .ok as ↔
      List.Forall₂ (fun shape a => (filled.lookup shape.name).or shape.absent = some a)
        shapes as := by
  induction shapes generalizing as with
  | nil =>
    rw [gather, List.forall₂_nil_left_iff]
    exact ⟨fun h => (Except.ok.inj h).symm, fun h => by rw [h]⟩
  | cons shape shapes ih =>
    have hstep : ∀ a, ((gather filled shapes).map (a :: ·) = .ok as ↔
        ∃ as', gather filled shapes = .ok as' ∧ as = a :: as') := by
      intro a
      constructor
      · intro h
        obtain ⟨as', h', rfl⟩ := Except.map_eq_ok h
        exact ⟨as', h', rfl⟩
      · rintro ⟨as', h', rfl⟩
        rw [h']
        rfl
    rw [List.forall₂_cons_left_iff, gather]
    cases filled.lookup shape.name with
    | some a => simp only [hstep, ih, Option.some_or, Option.some.injEq]; grind
    | none =>
      cases shape.absent with
      | some a => simp only [hstep, ih, Option.none_or, Option.some.injEq]; grind
      | none => simp

theorem forall₂_congr {β γ : Type} {R S : β → γ → Prop} {l : List β} {u : List γ}
    (h : ∀ b ∈ l, ∀ c, R b c ↔ S b c) : List.Forall₂ R l u ↔ List.Forall₂ S l u := by
  constructor
  · intro hr
    exact ((List.forall₂_and_left _ _).2 ⟨h, hr⟩).imp fun b c ⟨hb, hc⟩ => (hb c).1 hc
  · intro hs
    exact ((List.forall₂_and_left _ _).2 ⟨h, hs⟩).imp fun b c ⟨hb, hc⟩ => (hb c).2 hc

/-- A field that has been settled holds what the object gives to it. -/
theorem givenBy_iff {shape : FieldShape α} {after : Option α} (h : Settles ms shape none after)
    (a : α) : after.or shape.absent = some a ↔ GivenBy ms shape a := by
  unfold GivenBy
  rcases h with ⟨hvalues, rfl⟩ | ⟨w, b, hvalues, hb, -, rfl⟩
  · simp [hvalues]
  · simp [hvalues, hb]

/-- An object is read as the fields that it gives. -/
theorem readAll_object_iff (hn : Distinct shapes) {title : String} {as : List α} :
    readAll title shapes (Json.object ms).draft = .ok as ↔
      List.Forall₂ (GivenBy ms) shapes as := by
  show (Reader.members (visit shapes) (draftMembers ms) none [] >>= fun filled =>
    gather filled shapes) = .ok as ↔ _
  have hgather : ∀ filled, Reader.members (visit shapes) (draftMembers ms) none [] = .ok filled →
      (gather filled shapes = .ok as ↔ List.Forall₂ (GivenBy ms) shapes as) := fun filled h =>
    gather_iff.trans
      (forall₂_congr fun shape hs a => givenBy_iff (settles_of_members hn h hs) a)
  constructor
  · intro h
    obtain ⟨filled, hfilled, h⟩ := Except.bind_eq_ok h
    exact (hgather filled hfilled).1 h
  · intro h
    obtain ⟨filled, hfilled⟩ : ∃ filled, Reader.members (visit shapes) (draftMembers ms) none [] =
        .ok filled := by
      refine members_of_settles hn fun shape hs => ?_
      obtain ⟨a, ⟨w, hvalues, ha⟩ | ⟨hvalues, -⟩⟩ : ∃ a, GivenBy ms shape a := by
        obtain ⟨i, hi, rfl⟩ := List.getElem_of_mem hs
        exact ⟨_, h.get hi (h.length_eq ▸ hi)⟩
      · exact ⟨some a, Or.inr ⟨w, a, hvalues, ha, rfl, rfl⟩⟩
      · exact ⟨none, Or.inl ⟨hvalues, rfl⟩⟩
    rw [hfilled]
    exact (hgather filled hfilled).2 h

/-! ## Arrays -/

/-- The items of an array give the fields in order. Fields that may be missing may be left out at
the end. -/
inductive GivenInOrder : List (FieldShape α) → List Json → List α → Prop
  | nil : GivenInOrder [] [] []
  | item {shape : FieldShape α} {shapes : List (FieldShape α)} {w : Json} {ws : List Json} {a : α}
      {as : List α} (read : shape.read w.draft = .ok a) (rest : GivenInOrder shapes ws as) :
      GivenInOrder (shape :: shapes) (w :: ws) (a :: as)
  | absent {shape : FieldShape α} {shapes : List (FieldShape α)} {a : α} {as : List α}
      (default : shape.absent = some a) (rest : GivenInOrder shapes [] as) :
      GivenInOrder (shape :: shapes) [] (a :: as)

theorem surplus_draftItems (w : Json) (ws : List Json) :
    surplus (draftItems (w :: ws)) none = some .trailingCharacters := by
  cases w <;> rfl

theorem inOrder_iff {wanted : String} {n : Nat} {ws : List Json} {as : List α} :
    inOrder wanted none n shapes (draftItems ws) = .ok as ↔ GivenInOrder shapes ws as := by
  induction shapes generalizing n ws as with
  | nil =>
    cases ws with
    | nil =>
      constructor
      · intro h
        cases h
        exact .nil
      · rintro ⟨⟩
        rfl
    | cons w ws =>
      constructor
      · intro h
        rw [inOrder, surplus_draftItems] at h
        cases h
      · rintro ⟨⟩
  | cons shape shapes ih =>
    cases ws with
    | nil =>
      cases ha : shape.absent with
      | none =>
        simp only [draftItems, inOrder, ha]
        constructor
        · rintro ⟨⟩
        · rintro (_ | _ | ⟨hsome, -⟩)
          rw [ha] at hsome
          cases hsome
      | some a =>
        simp only [draftItems, inOrder, ha]
        constructor
        · intro h
          obtain ⟨as', h', rfl⟩ := Except.map_eq_ok h
          exact .absent ha (ih.1 h')
        · rintro (_ | _ | ⟨hsome, hrest⟩)
          rw [ha] at hsome
          cases hsome
          rw [← draftItems, ih.2 hrest]
          rfl
    | cons w ws =>
      rw [draftItems, inOrder]
      constructor
      · intro h
        obtain ⟨a, ha, h⟩ := Except.bind_eq_ok h
        obtain ⟨as', h', h⟩ := Except.bind_eq_ok h
        cases h
        exact .item ha (ih.1 h')
      · rintro (_ | ⟨ha, hrest⟩)
        rw [ha, show (Except.ok _ >>= _) = _ from rfl, ih.2 hrest]
        rfl

/-- An array is read as the fields that it gives in order. -/
theorem readAll_array_iff {title : String} {ws : List Json} {as : List α} :
    readAll title shapes (Json.array ws).draft = .ok as ↔ GivenInOrder shapes ws as :=
  inOrder_iff

/-- The object with the items of an array under the names of the fields gives the same fields. -/
theorem object_zip_iff (hn : Distinct shapes) {ws : List Json} (hlen : ws.length ≤ shapes.length)
    {as : List α} :
    List.Forall₂ (GivenBy ((shapes.map (·.name)).zip ws)) shapes as ↔
      GivenInOrder shapes ws as := by
  induction shapes generalizing ws as with
  | nil =>
    obtain rfl := List.length_eq_zero_iff.1 (Nat.le_zero.1 hlen)
    rw [List.forall₂_nil_left_iff]
    constructor
    · rintro rfl
      exact .nil
    · rintro ⟨⟩
      rfl
  | cons shape shapes ih =>
    rw [Distinct, List.map_cons, List.nodup_cons] at hn
    rw [List.forall₂_cons_left_iff]
    cases ws with
    | nil =>
      have hrest : ∀ as', (List.Forall₂ (GivenBy []) shapes as' ↔ GivenInOrder shapes [] as') :=
        fun as' => by simpa using @ih hn.2 [] (Nat.zero_le _) as'
      constructor
      · rintro ⟨a, as', ⟨w, hw, -⟩ | ⟨-, ha⟩, has, rfl⟩
        · cases hw
        · exact .absent ha ((hrest as').1 (by simpa using has))
      · rintro (_ | _ | ⟨ha, has⟩)
        exact ⟨_, _, Or.inr ⟨rfl, ha⟩, by simpa using (hrest _).2 has, rfl⟩
    | cons w ws =>
      -- the first name does not come again, and the others do not care about the first item
      have hfirst : Json.valuesOf shape.name ((shapes.map (·.name)).zip ws) = [] := by
        rw [Json.valuesOf_eq_nil_iff]
        intro hmem
        obtain ⟨⟨k, v⟩, hkv, rfl⟩ := List.mem_map.1 hmem
        exact hn.1 (List.of_mem_zip hkv).1
      have hothers : ∀ as', (List.Forall₂
          (GivenBy ((shape.name, w) :: (shapes.map (·.name)).zip ws)) shapes as' ↔
          GivenInOrder shapes ws as') := by
        intro as'
        rw [← ih hn.2 (Nat.le_of_succ_le_succ hlen)]
        refine forall₂_congr fun s hs a => ?_
        have hne : shape.name ≠ s.name := fun heq => hn.1 (heq ▸ List.mem_map_of_mem hs)
        unfold GivenBy
        rw [Json.valuesOf_cons_of_ne hne]
      rw [List.map_cons, List.zip_cons_cons]
      constructor
      · rintro ⟨a, as', hgiven, has, rfl⟩
        rw [GivenBy, Json.valuesOf_cons_self, hfirst] at hgiven
        rcases hgiven with ⟨w', hw, ha⟩ | ⟨hnil, -⟩
        · cases hw
          exact .item ha ((hothers as').1 has)
        · cases hnil
      · rintro (_ | ⟨ha, has⟩)
        refine ⟨_, _, Or.inl ⟨w, ?_, ha⟩, (hothers _).2 has, rfl⟩
        rw [Json.valuesOf_cons_self, hfirst]

/-! ## Values that are read alike -/

/-- Two values from which the same fields are read, or none from either. -/
def Same (shapes : List (FieldShape α)) (v v' : Json) : Prop :=
  ∀ title as, readAll title shapes v.draft = .ok as ↔ readAll title shapes v'.draft = .ok as

/-- Objects are read alike if each field finds the same there. -/
theorem same_objects (hn : Distinct shapes) {ms ms' : List (String × Json)}
    (h : ∀ shape ∈ shapes, ∀ a, GivenBy ms shape a ↔ GivenBy ms' shape a) :
    Same shapes (.object ms) (.object ms') := by
  intro title as
  rw [readAll_object_iff hn, readAll_object_iff hn]
  exact forall₂_congr h

theorem same_reordered (hn : Distinct shapes) {ms ms' : List (String × Json)}
    (h : ms.Perm ms') : Same shapes (.object ms) (.object ms') := by
  refine same_objects hn fun shape _ a => ?_
  have hperm : (Json.valuesOf shape.name ms).Perm (Json.valuesOf shape.name ms') :=
    Json.valuesOf_perm h
  have hone : ∀ w, Json.valuesOf shape.name ms = [w] ↔ Json.valuesOf shape.name ms' = [w] :=
    fun w => ⟨fun hw => List.perm_singleton.1 (hw ▸ hperm.symm),
      fun hw => List.perm_singleton.1 (hw ▸ hperm)⟩
  have hnil : Json.valuesOf shape.name ms = [] ↔ Json.valuesOf shape.name ms' = [] :=
    ⟨fun hw => List.perm_nil.1 (hw ▸ hperm.symm), fun hw => List.perm_nil.1 (hw ▸ hperm)⟩
  simp only [GivenBy, hone, hnil]

theorem same_positional (hn : Distinct shapes) {ws : List Json}
    (hlen : ws.length ≤ shapes.length) :
    Same shapes (.array ws) (.object ((shapes.map (·.name)).zip ws)) := by
  intro title as
  rw [readAll_array_iff, readAll_object_iff hn, object_zip_iff hn hlen]

/-- What stands under a name may be exchanged for what its field reads alike. -/
theorem same_within (hn : Distinct shapes) {key : String} {w w' : Json}
    (h : ∀ shape ∈ shapes, shape.name = key → ∀ a,
      shape.read w.draft = .ok a ↔ shape.read w'.draft = .ok a)
    (ms₁ ms₂ : List (String × Json)) :
    Same shapes (.object (ms₁ ++ (key, w) :: ms₂)) (.object (ms₁ ++ (key, w') :: ms₂)) := by
  refine same_objects hn fun shape hs a => ?_
  simp only [GivenBy, Json.valuesOf_append]
  by_cases hk : key = shape.name
  · subst hk
    simp only [Json.valuesOf_cons_self, List.append_eq_singleton_iff, List.append_eq_nil_iff]
    have := h shape hs rfl a
    grind
  · rw [Json.valuesOf_cons_of_ne hk, Json.valuesOf_cons_of_ne hk]

/-! ## The first problem -/

theorem readAll_append_congr {title : String} {ms₁ t t' : List (String × Json)}
    (h : ∀ filled, Reader.members (visit shapes) (draftMembers t) none filled =
      Reader.members (visit shapes) (draftMembers t') none filled) :
    readAll title shapes (Json.object (ms₁ ++ t)).draft =
      readAll title shapes (Json.object (ms₁ ++ t')).draft := by
  have hmembers : Reader.members (visit shapes) (draftMembers (ms₁ ++ t)) none [] =
      Reader.members (visit shapes) (draftMembers (ms₁ ++ t')) none [] := by
    rw [Reader.members_append, Reader.members_append, funext h]
  exact congrArg (· >>= fun filled => gather filled shapes) hmembers

/-- A member that is not declared does not even change which problem is reported. -/
theorem readAll_inserted {title key : String} (h : key ∉ shapes.map (·.name)) (w : Json)
    (ms₁ ms₂ : List (String × Json)) :
    readAll title shapes (Json.object (ms₁ ++ (key, w) :: ms₂)).draft =
      readAll title shapes (Json.object (ms₁ ++ ms₂)).draft := by
  refine readAll_append_congr fun filled => ?_
  rw [Reader.members_cons, visit_undeclared h]
  rfl

/-- Nor does what stands under a name, as long as its field makes the same of it. -/
theorem readAll_within {title key : String} {w w' : Json}
    (h : ∀ shape ∈ shapes, shape.name = key → shape.read w.draft = shape.read w'.draft)
    (ms₁ ms₂ : List (String × Json)) :
    readAll title shapes (Json.object (ms₁ ++ (key, w) :: ms₂)).draft =
      readAll title shapes (Json.object (ms₁ ++ (key, w') :: ms₂)).draft := by
  refine readAll_append_congr fun filled => ?_
  have hvisit : visit shapes filled key w.draft = visit shapes filled key w'.draft := by
    unfold visit
    cases hfind : shapes.find? (·.name == key) with
    | none => rw [skip_draft, skip_draft]
    | some shape =>
      have hname : shape.name = key := by simpa using List.find?_some hfind
      simp only [h shape (List.mem_of_find?_eq_some hfind) hname]
  rw [Reader.members_cons, Reader.members_cons, hvisit]

theorem inOrder_item {wanted : String} {n : Nat} {w w' : Json} {ws₁ ws₂ : List Json}
    (h : ∀ shape, shapes[ws₁.length]? = some shape → shape.read w.draft = shape.read w'.draft) :
    inOrder wanted none n shapes (draftItems (ws₁ ++ w :: ws₂)) =
      inOrder wanted none n shapes (draftItems (ws₁ ++ w' :: ws₂)) := by
  induction ws₁ generalizing shapes n with
  | nil =>
    cases shapes with
    | nil => rw [List.nil_append, List.nil_append, inOrder, inOrder, surplus_draftItems,
        surplus_draftItems]
    | cons shape shapes =>
      rw [List.nil_append, List.nil_append, draftItems, draftItems, inOrder, inOrder,
        h shape rfl]
  | cons w₁ ws₁ ih =>
    cases shapes with
    | nil => rw [List.cons_append, List.cons_append, inOrder, inOrder, surplus_draftItems,
        surplus_draftItems]
    | cons shape shapes =>
      rw [List.cons_append, List.cons_append, draftItems, draftItems, inOrder, inOrder,
        ih fun s hs => h s (by simpa using hs)]

/-- The names of the fields that may not be missing. -/
def required (shapes : List (FieldShape α)) : List String :=
  (shapes.filter (·.absent.isNone)).map (·.name)

theorem gather_lacking {filled : Filled α} {p : String → Bool} {name : String}
    (hp : ∀ shape ∈ shapes, p shape.name = (filled.lookup shape.name).isNone)
    (h : (required shapes).find? p = some name) :
    gather filled shapes = .error (.mismatch (.missingField name)) := by
  induction shapes with
  | nil => cases h
  | cons shape shapes ih =>
    have ih := ih fun s hs => hp s (List.mem_cons_of_mem _ hs)
    have hshape := hp shape List.mem_cons_self
    rw [gather]
    cases habsent : shape.absent with
    | some a =>
      rw [required, List.filter_cons_of_neg (by simp [habsent]), ← required] at h
      cases filled.lookup shape.name <;> simp only [ih h] <;> rfl
    | none =>
      rw [required, List.filter_cons_of_pos (by simp [habsent]), List.map_cons, ← required] at h
      cases hlookup : filled.lookup shape.name with
      | some a =>
        rw [List.find?_cons_of_neg (by simp [hshape, hlookup])] at h
        simp only [ih h]
        rfl
      | none =>
        rw [List.find?_cons_of_pos (by simp [hshape, hlookup])] at h
        cases h
        rfl

/-- Of an object that is read once further members are added to it, the first field that it lacks
is reported. -/
theorem readAll_lacking (hn : Distinct shapes) {title name : String}
    {extra : List (String × Json)} {as : List α}
    (hok : readAll title shapes (Json.object (ms ++ extra)).draft = .ok as)
    (hfirst : (required shapes).find? (fun n => n ∉ ms.map (·.1)) = some name) :
    readAll title shapes (Json.object ms).draft = .error (.mismatch (.missingField name)) := by
  obtain ⟨filled', hall, -⟩ := Except.bind_eq_ok hok
  rw [Reader.members_append] at hall
  obtain ⟨filled, hfilled, -⟩ := Except.bind_eq_ok hall
  have hlookup : ∀ shape ∈ shapes,
      decide (shape.name ∉ ms.map (·.1)) = (filled.lookup shape.name).isNone := by
    intro shape hs
    rcases settles_of_members hn hfilled hs with ⟨hvalues, hafter⟩ | ⟨w, a, hvalues, -, -, hafter⟩
    · rw [hafter, decide_eq_true (Json.valuesOf_eq_nil_iff.1 hvalues)]
      rfl
    · have hmem : ¬ shape.name ∉ ms.map (·.1) := by
        rw [← Json.valuesOf_eq_nil_iff, hvalues]
        exact List.cons_ne_nil _ _
      rw [hafter, decide_eq_false hmem]
      rfl
  show (Reader.members (visit shapes) (draftMembers ms) none [] >>= _) = _
  rw [hfilled]
  exact gather_lacking hlookup hfirst

/-- Of an object that is read once the value of a field is exchanged, the problem of that value is
reported. -/
theorem readAll_unreadable (hn : Distinct shapes) {title : String} {shape : FieldShape α}
    (hs : shape ∈ shapes) {w w' : Json} {ms₁ ms₂ : List (String × Json)} {as : List α}
    {e : ReadError}
    (hok : readAll title shapes (Json.object (ms₁ ++ (shape.name, w') :: ms₂)).draft = .ok as)
    (he : shape.read w.draft = .error e) :
    readAll title shapes (Json.object (ms₁ ++ (shape.name, w) :: ms₂)).draft = .error e := by
  obtain ⟨filled', hall, -⟩ := Except.bind_eq_ok hok
  rw [Reader.members_append] at hall
  obtain ⟨filled, hfilled, hrest⟩ := Except.bind_eq_ok hall
  obtain ⟨t, ht, -⟩ := Reader.members_cons_ok hrest
  have hlookup : filled.lookup shape.name = none := by
    rcases visit_cases ht with ⟨hk, -⟩ | ⟨-, -, -, hnone, -⟩
    · exact absurd (List.mem_map_of_mem hs) hk
    · exact hnone
  show (Reader.members (visit shapes) (draftMembers _) none [] >>= _) = _
  rw [Reader.members_append, hfilled]
  show (Reader.members (visit shapes) (draftMembers ((shape.name, w) :: ms₂)) none filled >>= _) = _
  rw [Reader.members_cons, visit_declared hn hs hlookup, he]
  rfl

/-- The same of an array. -/
theorem inOrder_unreadable {wanted : String} {n : Nat} {shape : FieldShape α} {w w' : Json}
    {ws₁ ws₂ : List Json} {as : List α} {e : ReadError}
    (hs : shapes[ws₁.length]? = some shape) (hok : GivenInOrder shapes (ws₁ ++ w' :: ws₂) as)
    (he : shape.read w.draft = .error e) :
    inOrder wanted none n shapes (draftItems (ws₁ ++ w :: ws₂)) = .error e := by
  induction ws₁ generalizing shapes n as with
  | nil =>
    cases hok with
    | item hread hrest =>
      cases hs
      rw [List.nil_append, draftItems, inOrder, he]
      rfl
  | cons w₁ ws₁ ih =>
    cases hok with
    | item hread hrest =>
      rw [List.cons_append, draftItems, inOrder, hread]
      show (inOrder wanted none (n + 1) _ (draftItems (ws₁ ++ w :: ws₂)) >>= _) = _
      rw [ih (by simpa using hs) hrest]
      rfl

end FieldShape

end ClusterLock
