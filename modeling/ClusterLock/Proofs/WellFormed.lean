import ClusterLock.Proofs.Reading
import ClusterLock.Proofs.Spelling

/-
  Well-formed JSON texts: those that `Json.read` takes for a value. A draft that is read as a whole
  is the draft of its value (`draft_of_whole`), and nothing is left of a text only where a fault
  stands in for a part of it (`cutShort`). `json_read_iff` puts both together: the well-formed texts
  are those that spell a value within the limits of the format, so that a reader gets from them what
  it gets from the value.
-/
namespace ClusterLock

/-! ## Whole drafts -/

theorem Except.bind_eq_ok {ε α β : Type} {x : Except ε α} {f : α → Except ε β} {b : β}
    (h : (x >>= f) = .ok b) : ∃ a, x = .ok a ∧ f a = .ok b := by
  cases x with
  | error e => cases h
  | ok a => exact ⟨a, rfl, h⟩

mutual

/-- A draft that is read as a whole is the draft of its value. -/
theorem draft_of_whole {d : Draft} {depth : Nat} {v : Json} (h : d.whole depth = .ok v) :
    d = v.draft ∧ v.Fits depth := by
  cases d with
  | null =>
    cases h
    exact ⟨rfl, trivial⟩
  | bool b =>
    cases h
    exact ⟨rfl, trivial⟩
  | number n =>
    rw [Draft.whole] at h
    split at h
    · rename_i hr
      cases h
      exact ⟨rfl, hr⟩
    · cases h
  | text s =>
    obtain ⟨t, rfl, rfl⟩ := Except.map_eq_ok h
    exact ⟨rfl, trivial⟩
  | array items stop =>
    rw [Draft.whole] at h
    split at h
    · cases h
    · obtain ⟨vs, hvs, rfl⟩ := Except.map_eq_ok h
      obtain ⟨hitems, hstop, hfit⟩ := draftItems_of_whole hvs
      exact ⟨by rw [hitems, hstop]; rfl, by omega, hfit⟩
  | object members stop =>
    rw [Draft.whole] at h
    split at h
    · cases h
    · obtain ⟨ms, hms, rfl⟩ := Except.map_eq_ok h
      obtain ⟨hmembers, hstop, hfit⟩ := draftMembers_of_whole hms
      exact ⟨by rw [hmembers, hstop]; rfl, by omega, hfit⟩
  | broken flaw => cases h

theorem draftItems_of_whole {items : List Draft} {stop : Option Flaw} {depth : Nat}
    {vs : List Json} (h : wholeItems depth items stop = .ok vs) :
    items = draftItems vs ∧ stop = none ∧ ItemsFit depth vs := by
  match items with
  | [] =>
    cases stop with
    | none =>
      cases h
      exact ⟨rfl, rfl, trivial⟩
    | some flaw => cases h
  | d :: items =>
    rw [wholeItems] at h
    obtain ⟨v, hv, h⟩ := Except.bind_eq_ok h
    obtain ⟨vs', hvs, h⟩ := Except.bind_eq_ok h
    cases h
    obtain ⟨rfl, hfit⟩ := draft_of_whole hv
    obtain ⟨rfl, hstop, hfits⟩ := draftItems_of_whole hvs
    exact ⟨rfl, hstop, hfit, hfits⟩

theorem draftMembers_of_whole {members : List (Written × Draft)} {stop : Option Flaw}
    {depth : Nat} {ms : List (String × Json)} (h : wholeMembers depth members stop = .ok ms) :
    members = draftMembers ms ∧ stop = none ∧ MembersFit depth ms := by
  match members with
  | [] =>
    cases stop with
    | none =>
      cases h
      exact ⟨rfl, rfl, trivial⟩
    | some flaw => cases h
  | (key, d) :: members =>
    rw [wholeMembers] at h
    obtain ⟨k, hk, h⟩ := Except.bind_eq_ok h
    obtain ⟨v, hv, h⟩ := Except.bind_eq_ok h
    obtain ⟨ms', hms, h⟩ := Except.bind_eq_ok h
    cases h
    cases hk
    obtain ⟨rfl, hfit⟩ := draft_of_whole hv
    obtain ⟨rfl, hstop, hfits⟩ := draftMembers_of_whole hms
    exact ⟨rfl, hstop, hfit, hfits⟩

end

/-! ## Texts that are cut short -/

theorem draft_ne_broken (v : Json) (flaw : Flaw) : v.draft ≠ .broken flaw := by
  cases v <;> nofun

theorem draftItems_eq_cons {vs : List Json} {d : Draft} {items : List Draft}
    (h : d :: items = draftItems vs) : ∃ v vs', d = Json.draft v ∧ items = draftItems vs' := by
  cases vs with
  | nil => cases h
  | cons v vs' =>
    cases h
    exact ⟨v, vs', rfl, rfl⟩

theorem draftMembers_eq_cons {ms : List (String × Json)} {m : Written × Draft}
    {members : List (Written × Draft)} (h : m :: members = draftMembers ms) :
    ∃ v ms', m.2 = Json.draft v ∧ members = draftMembers ms' := by
  cases ms with
  | nil => cases h
  | cons kv ms' =>
    obtain ⟨k, v⟩ := kv
    cases h
    exact ⟨v, ms', rfl, rfl⟩

theorem scanWord_rest {d d' : Draft} {word cs : List Char} (h : scanWord d word cs = (d', none)) :
    ∃ flaw, d' = .broken flaw := by
  fun_induction scanWord d word cs with
  | case1 rest => cases h
  | case2 w word =>
    cases h
    exact ⟨_, rfl⟩
  | case3 w word rest ih => exact ih h
  | case4 w word c rest hne =>
    cases h
    exact ⟨_, rfl⟩

theorem numberFlaw_broken (cs : List Char) : ∃ flaw, numberFlaw cs = .broken flaw := by
  cases cs with
  | nil => exact ⟨_, rfl⟩
  | cons c cs => exact ⟨_, rfl⟩

theorem scanNumber_rest {negative : Bool} {d : Draft} {cs : List Char}
    (h : scanNumber negative cs = (d, none)) : ∃ flaw, d = .broken flaw := by
  unfold scanNumber at h
  dsimp only at h
  split at h
  · cases h
    exact numberFlaw_broken _
  · split at h
    · split at h
      · cases h
        exact numberFlaw_broken _
      · split at h
        · split at h
          · split at h
            · cases h
            · cases h
              exact numberFlaw_broken _
          · cases h
        · cases h
    · split at h
      · split at h
        · split at h
          · cases h
          · cases h
            exact numberFlaw_broken _
        · cases h
      · cases h

/-- With this fuel, nothing is left only if what has been read is no whole value. -/
structure CutShort (fuel : Nat) : Prop where
  value : ∀ cs v, scanValue fuel cs ≠ (Json.draft v, none)
  items : ∀ first cs vs, scanItems fuel first cs ≠ ((draftItems vs, none), none)
  members : ∀ first cs ms, scanMembers fuel first cs ≠ ((draftMembers ms, none), none)

namespace CutShort

variable {fuel : Nat} (ih : CutShort fuel)

include ih

theorem value_succ (cs : List Char) (v : Json) : scanValue (fuel + 1) cs ≠ (v.draft, none) := by
  intro h
  have hbroken : ∀ flaw, v.draft ≠ .broken flaw := draft_ne_broken v
  rw [scanValue] at h
  split at h
  · exact hbroken _ (congrArg Prod.fst h).symm
  · obtain ⟨flaw, hflaw⟩ := scanWord_rest h
    exact hbroken _ hflaw
  · obtain ⟨flaw, hflaw⟩ := scanWord_rest h
    exact hbroken _ hflaw
  · obtain ⟨flaw, hflaw⟩ := scanWord_rest h
    exact hbroken _ hflaw
  · split at h
    · cases congrArg (·.2) h
    · exact hbroken _ (congrArg Prod.fst h).symm
  · rename_i r _
    generalize hscan : scanItems fuel true r = read at h
    obtain ⟨⟨items, stop⟩, rest⟩ := read
    simp only [Prod.mk.injEq] at h
    obtain ⟨harray, rfl⟩ := h
    cases v with
    | array vs =>
      cases harray
      exact ih.items true r vs hscan
    | _ => cases harray
  · rename_i r _
    generalize hscan : scanMembers fuel true r = read at h
    obtain ⟨⟨members, stop⟩, rest⟩ := read
    simp only [Prod.mk.injEq] at h
    obtain ⟨hobject, rfl⟩ := h
    cases v with
    | object ms =>
      cases hobject
      exact ih.members true r ms hscan
    | _ => cases hobject
  · obtain ⟨flaw, hflaw⟩ := scanNumber_rest h
    exact hbroken _ hflaw
  · split at h
    · obtain ⟨flaw, hflaw⟩ := scanNumber_rest h
      exact hbroken _ hflaw
    · exact hbroken _ (congrArg Prod.fst h).symm

theorem items_succ (first : Bool) (cs : List Char) (vs : List Json) :
    scanItems (fuel + 1) first cs ≠ ((draftItems vs, none), none) := by
  intro h
  unfold scanItems at h
  extract_lets next at h
  have hnext : ∀ cs, next cs ≠ ((draftItems vs, none), none) := by
    intro cs h
    dsimp only [next] at h
    split at h
    · rename_i d hscan
      obtain ⟨v, -, rfl, -⟩ := draftItems_eq_cons (congrArg (·.1.1) h)
      exact ih.value cs v hscan
    · rename_i d rest hscan
      generalize hread : scanItems fuel false rest = read at h
      obtain ⟨⟨items, stop⟩, rest'⟩ := read
      simp only [Prod.mk.injEq] at h
      obtain ⟨⟨hvs, rfl⟩, rfl⟩ := h
      obtain ⟨-, vs', -, rfl⟩ := draftItems_eq_cons hvs
      exact ih.items false rest vs' hread
  split at h
  · cases congrArg (·.1.2) h
  · cases congrArg (·.2) h
  · split at h
    · exact hnext _ h
    · split at h
      · split at h
        · obtain ⟨v, -, hv, -⟩ := draftItems_eq_cons (congrArg (·.1.1) h)
          exact draft_ne_broken v _ hv.symm
        · exact hnext _ h
      · cases congrArg (·.1.2) h

theorem members_succ (first : Bool) (cs : List Char) (ms : List (String × Json)) :
    scanMembers (fuel + 1) first cs ≠ ((draftMembers ms, none), none) := by
  intro h
  unfold scanMembers at h
  extract_lets member at h
  have hmember : ∀ cs, member cs ≠ ((draftMembers ms, none), none) := by
    intro cs h
    dsimp only [member] at h
    split at h
    · cases congrArg (·.1.2) h
    · split at h
      · obtain ⟨v, -, hv, -⟩ := draftMembers_eq_cons (congrArg (·.1.1) h)
        exact draft_ne_broken v _ hv.symm
      · rename_i rest _
        split at h
        · rename_i d hscan
          obtain ⟨v, -, rfl, -⟩ := draftMembers_eq_cons (congrArg (·.1.1) h)
          exact ih.value rest v hscan
        · rename_i d rest' hscan
          generalize hread : scanMembers fuel false rest' = read at h
          obtain ⟨⟨members, stop⟩, rest''⟩ := read
          simp only [Prod.mk.injEq] at h
          obtain ⟨⟨hms, rfl⟩, rfl⟩ := h
          obtain ⟨-, ms', -, rfl⟩ := draftMembers_eq_cons hms
          exact ih.members false rest' ms' hread
      · obtain ⟨v, -, hv, -⟩ := draftMembers_eq_cons (congrArg (·.1.1) h)
        exact draft_ne_broken v _ hv.symm
  split at h
  · cases congrArg (·.1.2) h
  · cases congrArg (·.2) h
  · split at h
    · split at h
      · exact hmember _ h
      · cases congrArg (·.1.2) h
    · split at h
      · split at h
        · cases congrArg (·.1.2) h
        · exact hmember _ h
        · cases congrArg (·.1.2) h
        · cases congrArg (·.1.2) h
      · cases congrArg (·.1.2) h

end CutShort

/-- Nothing is left of a text only if what has been read of it is no whole value. -/
theorem cutShort (fuel : Nat) : CutShort fuel := by
  induction fuel with
  | zero =>
    refine ⟨fun cs v h => ?_, fun first cs vs h => ?_, fun first cs ms h => ?_⟩
    · exact draft_ne_broken v _ (congrArg Prod.fst h).symm
    · cases congrArg (·.1.2) h
    · cases congrArg (·.1.2) h
  | succ fuel ih => exact ⟨ih.value_succ, ih.items_succ, ih.members_succ⟩

/-! ## Well-formed texts -/

/-- A text that is read holds a draft that is read, and no more than blanks after it. -/
theorem Reader.run_eq_ok {α : Type} {read : Reader α} {cs : List Char} {a : α}
    (h : read.run cs = .ok a) :
    ∃ d rest, Draft.ofText cs = (d, rest) ∧ read d = .ok a ∧
      ∀ r, rest = some r → skipBlanks r = [] := by
  unfold Reader.run at h
  generalize Draft.ofText cs = step at h ⊢
  obtain ⟨d, rest⟩ := step
  obtain ⟨a', ha, h⟩ := Except.bind_eq_ok h
  cases rest with
  | none =>
    cases h
    exact ⟨d, none, rfl, ha, nofun⟩
  | some rest =>
    dsimp only at h
    split at h
    · rename_i hblank
      cases h
      exact ⟨d, some rest, rfl, ha, fun r hr => by cases hr; exact List.isEmpty_iff.1 hblank⟩
    · cases h

/-- The well-formed texts of a value are those that spell it, within the limits of the format. -/
theorem json_read_iff {cs : List Char} {v : Json} :
    Json.read cs = .ok v ↔ Spells cs v ∧ v.Fits nestingLimit := by
  constructor
  · intro h
    obtain ⟨d, rest, hscan, hwhole, hblank⟩ := Reader.run_eq_ok h
    obtain ⟨rfl, hfit⟩ := draft_of_whole (Except.mapError_eq_ok hwhole)
    cases rest with
    | none => exact absurd hscan ((cutShort _).value cs v)
    | some rest => exact ⟨⟨rest, hscan, hblank rest rfl⟩, hfit⟩
  · rintro ⟨hspells, hfit⟩
    rw [Json.read, run_of_spells hspells, whole_draft hfit]
    rfl

/-- Blanks between the parts of a text leave it well formed. -/
theorem json_read_of_spaced {cs : List Char} {v : Json} (hplain : v.Plain)
    (hfit : v.Fits nestingLimit) (h : Spaced v.tokens cs) : Json.read cs = .ok v :=
  json_read_iff.2 ⟨spells_of_spaced hplain h, hfit⟩

theorem json_read_of_render {cs : List Char} {v : Json} (hplain : v.Plain)
    (hfit : v.Fits nestingLimit) (h : v.render = cs) : Json.read cs = .ok v :=
  json_read_iff.2 ⟨spells_of_render hplain h, hfit⟩

/-- A reader gets from a well-formed text what it gets from its value. -/
theorem run_of_read {α : Type} {cs : List Char} {v : Json} (h : Json.read cs = .ok v)
    (read : Reader α) : read.run cs = read v.draft :=
  run_of_spells (json_read_iff.1 h).1 read

end ClusterLock
