import Mathlib.Data.List.Basic
import Mathlib.Logic.Basic
import ClusterLock.Logging.Output

/-
  What one output shows of the others. The words for a span's fields are made once and shared, so
  an output among these outputs and among those writes the same where both make the words alike
  (`LogOutput.Agree`). Where they do not, the texts part for good: `Tells` says that two texts are
  the same in one case and part in the other, and goes through from the fields of a span to all
  that an output writes (`LogOutput.tells_lines`).
-/
namespace ClusterLock

/-! ## Texts that part -/

/-- The texts part before either ends, so that nothing behind them makes them the same. -/
def Apart (x y : String) : Prop := ∀ a b : String, x ++ a ≠ y ++ b

/-- The texts are the same in this case, and part in the other. -/
def Tells (P : Prop) (x y : String) : Prop := (P ∧ x = y) ∨ (¬ P ∧ Apart x y)

namespace Tells

variable {P Q : Prop} {x y u v : String}

theorem refl (x : String) : Tells True x x := Or.inl ⟨trivial, rfl⟩

theorem congr (h : Tells P x y) (hp : P ↔ Q) : Tells Q x y := by
  rwa [Tells, ← hp]

theorem append (h : Tells P x y) (h' : Tells Q u v) : Tells (P ∧ Q) (x ++ u) (y ++ v) := by
  rcases h with ⟨hp, rfl⟩ | ⟨hp, hxy⟩
  · rcases h' with ⟨hq, rfl⟩ | ⟨hq, huv⟩
    · exact Or.inl ⟨⟨hp, hq⟩, rfl⟩
    · refine Or.inr ⟨fun h => hq h.2, fun a b hab => huv a b ?_⟩
      rw [String.append_assoc, String.append_assoc] at hab
      exact String.append_right_inj _ |>.1 hab
  · refine Or.inr ⟨fun h => hp h.1, fun a b hab => hxy (u ++ a) (v ++ b) ?_⟩
    rwa [String.append_assoc, String.append_assoc] at hab

/-- What stands around it changes nothing. -/
theorem between (h : Tells P x y) (front back : String) :
    Tells P (front ++ x ++ back) (front ++ y ++ back) :=
  (((refl front).append h).append (refl back)).congr (by simp)

theorem eq_iff (h : Tells P x y) : x = y ↔ P := by
  rcases h with ⟨hp, hxy⟩ | ⟨hp, hxy⟩
  · exact iff_of_true hxy hp
  · exact iff_of_false (fun h => hxy "" "" (by rw [h])) hp

end Tells

/-- A text with something in front of it is not the text with another character behind it. -/
theorem append_append_ne {α : Type} {p : List α} {c : α} (hp : p ≠ []) (hc : c ∉ p)
    (n a b : List α) : p ++ (n ++ a) ≠ n ++ c :: b := by
  -- each copy of what is in front that the text begins with makes the question a shorter one
  induction hlen : n.length using Nat.strongRecOn generalizing n with
  | ind len ih =>
    intro h
    rcases List.append_eq_append_iff.1 h with ⟨m, rfl, hm⟩ | ⟨m, rfl, hm⟩
    · -- the text begins with what is in front, and goes on as it began
      rw [List.append_assoc] at hm
      refine ih m.length ?_ m rfl hm
      rw [← hlen, List.length_append]
      have hpos := List.length_pos_iff.2 hp
      omega
    · -- what is in front is longer, and its characters do not go on as the other text does
      rw [← List.append_assoc] at hm
      cases hmn : m ++ n with
      | nil =>
        obtain ⟨rfl, rfl⟩ := List.append_eq_nil_iff.1 hmn
        exact hp rfl
      | cons d ds =>
        rw [hmn] at hm
        cases hm
        have hmem : c ∈ m ++ n := hmn ▸ List.mem_cons_self ..
        exact hc (List.mem_append.2 (List.mem_append.1 hmem).symm)

/-! ## Words -/

/-- The mark in front of a colored name tells it from a plain one, which has the sign of equality
behind it. -/
theorem apart_fieldLine (f : Field) : Apart (f.line true) (f.line false) := by
  intro a b h
  let mark : String := "\x1b[" ++ toString Accent.italic.code ++ "m"
  have hmark : mark.toList ≠ [] ∧ '=' ∉ mark.toList := by decide
  let value : String := if f.quoted then quoted f.value else f.value
  have hcolored : f.line true =
      mark ++ (f.name ++ ("\x1b[0m" ++ (Accent.dimmed.paint true "=" ++ value))) := by
    simp only [Field.line, Accent.paint, if_true, String.append_assoc, mark, value]
  have hplain : f.line false = f.name ++ ("=" ++ value) := by
    simp only [Field.line, Accent.paint_false, String.append_assoc, value]
  rw [hcolored, hplain] at h
  have hlist := congrArg String.toList h
  simp only [String.toList_append, List.append_assoc] at hlist
  exact append_append_ne hmark.1 hmark.2 _ _ _ hlist

/-- The words for fields tell whether they are in color. -/
theorem tells_words {s : Span} (hs : s.fields ≠ []) (color color' : Bool) :
    Tells (color = color') (s.words color) (s.words color') := by
  obtain ⟨f, fs, hfields⟩ := List.exists_cons_of_ne_nil hs
  have hwords : ∀ color, ∃ rest, s.words color = f.line color ++ rest := by
    intro color
    rw [Span.words, hfields, List.map_cons]
    cases fs with
    | nil => exact ⟨"", by simp⟩
    | cons g gs =>
      refine ⟨" " ++ " ".intercalate ((g :: gs).map (Field.line color)), ?_⟩
      rw [String.intercalate_cons_of_ne_nil (by simp), String.append_assoc]
  have hapart : Apart (s.words true) (s.words false) := by
    obtain ⟨rest, hrest⟩ := hwords true
    obtain ⟨rest', hrest'⟩ := hwords false
    intro a b h
    rw [hrest, hrest', String.append_assoc, String.append_assoc] at h
    exact apart_fieldLine f _ _ h
  cases color with
  | true =>
    cases color' with
    | true => exact Or.inl ⟨rfl, rfl⟩
    | false => exact Or.inr ⟨by decide, hapart⟩
  | false =>
    cases color' with
    | true => exact Or.inr ⟨by decide, fun a b h => hapart b a h.symm⟩
    | false => exact Or.inl ⟨rfl, rfl⟩

/-! ## Lines -/

namespace LogOutput

variable (outputs outputs' : List LogOutput) (o : LogOutput)

/-- The words that the output shows for the spans of a scope, which stands inside of `outer`, are
in color among the one outputs where they are among the other. -/
def Agree (outer scope : Scope) : Prop :=
  ∀ between s inner, scope = between ++ s :: inner →
    o.shows outputs (outer ++ between) s = true → s.fields ≠ [] →
      isColored outputs (outer ++ between) s = isColored outputs' (outer ++ between) s

variable {outputs outputs' o}

theorem agree_cons {outer inner : Scope} {s : Span} :
    Agree outputs outputs' o outer (s :: inner) ↔
      (o.shows outputs outer s = true → s.fields ≠ [] →
        isColored outputs outer s = isColored outputs' outer s) ∧
      Agree outputs outputs' o (outer ++ [s]) inner := by
  constructor
  · intro h
    refine ⟨fun hs hfields => ?_, fun between s' inner' heq hs hfields => ?_⟩
    · have hfirst := h [] s inner rfl
      rw [List.append_nil] at hfirst
      exact hfirst hs hfields
    · have hlater := h (s :: between) s' inner' (by rw [heq]; rfl)
      rw [List.append_assoc] at hs ⊢
      exact hlater hs hfields
  · rintro ⟨hfirst, hrest⟩ between s' inner' heq hs hfields
    cases between with
    | nil =>
      cases heq
      rw [List.append_nil] at hs ⊢
      exact hfirst hs hfields
    | cons t between =>
      cases heq
      have hlater := hrest between s' inner' rfl
      rw [List.append_assoc] at hlater
      exact hlater hs hfields

theorem intercalate_empty (pieces : List String) : "".intercalate pieces = String.join pieces := by
  induction pieces with
  | nil => simp
  | cons p ps ih => cases ps <;> simp_all

/-- A span with fields shows how their words were made. -/
theorem tells_spanPiece (s : Span) (color color' : Bool) (front back : String) :
    Tells (s.fields ≠ [] → color = color')
      (front ++ (if s.fields.isEmpty then "" else
        Accent.bold.paint o.color "\x7b" ++ s.words color ++ Accent.bold.paint o.color "\x7d") ++
        back)
      (front ++ (if s.fields.isEmpty then "" else
        Accent.bold.paint o.color "\x7b" ++ s.words color' ++ Accent.bold.paint o.color "\x7d") ++
        back) := by
  refine Tells.between ?_ front back
  by_cases hs : s.fields = []
  · simp only [hs, List.isEmpty_nil, if_true]
    exact (Tells.refl "").congr (by simp)
  · have hempty : ¬ s.fields.isEmpty = true := mt List.isEmpty_iff.1 hs
    rw [if_neg hempty, if_neg hempty]
    exact ((tells_words hs color color').between _ _).congr (by simp [hs])

section

-- which spans the output shows does not depend on the outputs beside it
variable (hshows : o.shows outputs = o.shows outputs')
include hshows

theorem tells_spanPieces (outer scope : Scope) :
    Tells (Agree outputs outputs' o outer scope) (String.join (spanPieces outputs o outer scope))
      (String.join (spanPieces outputs' o outer scope)) := by
  induction scope generalizing outer with
  | nil =>
    refine (Tells.refl "").congr (iff_of_true trivial ?_)
    rintro between s inner heq
    cases between <;> cases heq
  | cons s inner ih =>
    simp only [spanPieces, ← hshows]
    by_cases hs : o.shows outputs outer s = true
    · rw [if_pos hs, if_pos hs, String.join_cons, String.join_cons]
      have hpiece := tells_spanPiece s (isColored outputs outer s) (isColored outputs' outer s)
        (Accent.bold.paint o.color s.name) (Accent.dimmed.paint o.color ":") (o := o)
      refine (hpiece.append (ih (outer ++ [s]))).congr ?_
      rw [agree_cons]
      simp only [hs, true_imp_iff]
    · rw [if_neg hs, if_neg hs]
      refine (ih (outer ++ [s])).congr ?_
      rw [agree_cons]
      simp only [hs, false_imp_iff, true_and, Bool.false_eq_true]

/-- Whether there is anything to show does not depend on the words. -/
theorem isEmpty_spanPieces (outer scope : Scope) :
    (spanPieces outputs o outer scope).isEmpty = (spanPieces outputs' o outer scope).isEmpty := by
  induction scope generalizing outer with
  | nil => rfl
  | cons s inner ih =>
    simp only [spanPieces, ← hshows]
    by_cases hs : o.shows outputs outer s = true
    · rw [if_pos hs, if_pos hs, List.isEmpty_cons, List.isEmpty_cons]
    · rw [if_neg hs, if_neg hs]
      exact ih (outer ++ [s])

end

variable (outputs o) in
/-- What an output writes for an event that it lets through. -/
def lineOf (stamp : String) (e : Event) : String :=
  let spans := spanPieces outputs o [] e.scope
  Accent.dimmed.paint o.color stamp ++ " " ++
    (Accent.level e.note.level).paint o.color e.note.level.column ++ " " ++
    (if o.threadName then "main " else "") ++
    (if spans.isEmpty then "" else "".intercalate spans ++ " ") ++
    Accent.dimmed.paint o.color e.note.target ++ Accent.dimmed.paint o.color ":" ++ " " ++
    " ".intercalate (shownMessage e.note.message :: e.note.fields.map (Field.line o.color))

theorem lines_eq (stamp : String) (events : List Event) :
    o.lines outputs stamp events =
      (events.filter (o.admits outputs)).map (lineOf outputs o stamp) := by
  rw [lines, ← List.filterMap_eq_map, List.filterMap_filter]
  rfl

section

variable (hshows : o.shows outputs = o.shows outputs')
include hshows

/-- A line tells what its spans tell. -/
theorem tells_lineOf (stamp : String) (e : Event) :
    Tells (Agree outputs outputs' o [] e.scope) (lineOf outputs o stamp e)
      (lineOf outputs' o stamp e) := by
  have hpieces : Tells (Agree outputs outputs' o [] e.scope)
      (String.join (spanPieces outputs o [] e.scope))
      (String.join (spanPieces outputs' o [] e.scope)) :=
    tells_spanPieces hshows [] e.scope
  have hempty : (spanPieces outputs' o [] e.scope).isEmpty =
      (spanPieces outputs o [] e.scope).isEmpty :=
    (isEmpty_spanPieces hshows [] e.scope).symm
  simp only [lineOf, hempty, intercalate_empty]
  have hspans : Tells (Agree outputs outputs' o [] e.scope)
      (if (spanPieces outputs o [] e.scope).isEmpty = true then ""
        else String.join (spanPieces outputs o [] e.scope) ++ " ")
      (if (spanPieces outputs o [] e.scope).isEmpty = true then ""
        else String.join (spanPieces outputs' o [] e.scope) ++ " ") := by
    by_cases hnone : (spanPieces outputs o [] e.scope).isEmpty = true
    · rw [if_pos hnone, if_pos hnone]
      rw [List.isEmpty_iff.1 hnone, List.isEmpty_iff.1 (hempty.trans hnone)] at hpieces
      exact (Tells.refl "").congr (iff_of_true trivial (hpieces.eq_iff.1 rfl))
    · rw [if_neg hnone, if_neg hnone]
      exact (hpieces.append (.refl " ")).congr (iff_of_eq (and_true _))
  exact ((((((Tells.refl _).append hspans).append (.refl _)).append (.refl _)).append
    (.refl _)).append (.refl _)).congr (by simp only [true_and, and_true])

/-- **What an output writes** tells whether the words that it shows are made alike. -/
theorem tells_lines (hadmits : o.admits outputs = o.admits outputs') (stamp : String)
    (events : List Event) :
    Tells (∀ e ∈ events, o.admits outputs e = true → Agree outputs outputs' o [] e.scope)
      (String.join ((o.lines outputs stamp events).map (· ++ "\n")))
      (String.join ((o.lines outputs' stamp events).map (· ++ "\n"))) := by
  rw [lines_eq, lines_eq, ← hadmits]
  induction events with
  | nil => exact (Tells.refl "").congr (by simp)
  | cons e events ih =>
    by_cases he : o.admits outputs e = true
    · rw [List.filter_cons_of_pos he]
      simp only [List.map_cons, String.join_cons]
      refine (((tells_lineOf hshows stamp e).append (.refl "\n")).append ih).congr ?_
      simp only [and_true, List.forall_mem_cons, he, true_imp_iff]
    · rw [List.filter_cons_of_neg he]
      refine ih.congr ?_
      simp only [List.forall_mem_cons, he, false_imp_iff, true_and, Bool.false_eq_true]

end

end LogOutput

end ClusterLock
