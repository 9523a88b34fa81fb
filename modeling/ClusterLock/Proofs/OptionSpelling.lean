import Mathlib.Data.List.TakeDrop
import Mathlib.Data.List.TakeWhile
import ClusterLock.CommandLine.Options

/-
  How options are spelled. `OptionSpec.Spells` says which words name an option and what value they
  bring along; a word is taken apart by its hyphens, its first sign of equality and its letter
  (`WordForm.of_cases`), and if the names of the options are `Unambiguous` it names the one option
  that it spells and no other (`namedBy_eq_some_iff`).
-/
namespace ClusterLock

variable {ι : Type}

/-! ## Spelling -/

/-- The word names the option; what stands in the same word after the name is its value. -/
inductive OptionSpec.Spells (spec : OptionSpec ι) : String → Option String → Prop
  | long : Spells spec ("--" ++ spec.long) none
  | longWith (v : String) : Spells spec ("--" ++ spec.long ++ "=" ++ v) (some v)
  | letter (c : Char) (h : spec.letter = some c) : Spells spec ("-" ++ String.singleton c) none
  | letterWith (c : Char) (h : spec.letter = some c) (v : String) (hv : v ≠ "")
      (he : v.toList.head? ≠ some '=') : Spells spec ("-" ++ String.singleton c ++ v) (some v)
  | letterEquals (c : Char) (h : spec.letter = some c) (v : String) :
    Spells spec ("-" ++ String.singleton c ++ "=" ++ v) (some v)

/-- A word that can be the value of an option: it has no hyphen in front, or is one. -/
def IsPlain (word : String) : Prop := word.toList.head? ≠ some '-' ∨ word = "-"

instance (word : String) : Decidable (IsPlain word) := by unfold IsPlain; infer_instance

/-- The names of the options can be told apart, and where each of them ends. -/
structure Unambiguous (specs : List (OptionSpec ι)) : Prop where
  long : ∀ spec ∈ specs, specs.find? (·.long == spec.long) = some spec
  letter : ∀ spec ∈ specs, ∀ c, spec.letter = some c →
    specs.find? (·.letter == some c) = some spec
  longText : ∀ spec ∈ specs, spec.long ≠ "" ∧ '=' ∉ spec.long.toList
  letterText : ∀ spec ∈ specs, spec.letter ≠ some '-'
  /-- Options without a value have no letter that others could stand behind. -/
  flags : ∀ spec ∈ specs, spec.kind = .flag → spec.letter = none

/-! ## Forms of words -/

theorem cutAtEquals_of_notMem {cs : List Char} (h : '=' ∉ cs) : cutAtEquals cs = (cs, none) := by
  have hall : ∀ c ∈ cs, (decide (c ≠ '=')) = true := by
    intro c hc
    simpa using ne_of_mem_of_not_mem hc h
  rw [cutAtEquals, List.span_eq_takeWhile_dropWhile, List.dropWhile_eq_nil_iff.2 hall,
    List.takeWhile_eq_self_iff.2 hall]

theorem cutAtEquals_append {cs : List Char} (h : '=' ∉ cs) (v : List Char) :
    cutAtEquals (cs ++ '=' :: v) = (cs, some v) := by
  have hall : ∀ c ∈ cs, (decide (c ≠ '=')) = true := by
    intro c hc
    simpa using ne_of_mem_of_not_mem hc h
  rw [cutAtEquals, List.span_eq_takeWhile_dropWhile, List.takeWhile_append_of_pos hall,
    List.dropWhile_append_of_pos hall]
  simp

/-- What is cut at an equals sign is put together again by one. -/
theorem cutAtEquals_join (cs : List Char) :
    (cutAtEquals cs).1 ++ (cutAtEquals cs).2.elim [] ('=' :: ·) = cs := by
  by_cases hcs : '=' ∈ cs
  · obtain ⟨before, after, rfl, hbefore⟩ := List.eq_append_cons_of_mem hcs
    rw [cutAtEquals_append hbefore]
    rfl
  · rw [cutAtEquals_of_notMem hcs]
    exact List.append_nil cs

namespace WordForm

theorem of_hyphens {word : String} {c : Char} {cs : List Char}
    (h : word.toList = '-' :: '-' :: c :: cs) :
    of word = .long (String.ofList (cutAtEquals (c :: cs)).1)
      ((cutAtEquals (c :: cs)).2.map String.ofList) := by
  rw [of, h]
  rfl

theorem of_hyphen {word : String} {c : Char} {cs : List Char} (h : word.toList = '-' :: c :: cs)
    (hc : c ≠ '-') : of word = .letters (c :: cs) := by
  rw [of, h]
  split
  · rename_i h'
    cases h'
    exact (hc rfl).elim
  · rename_i h'
    cases h'
    exact (hc rfl).elim
  · rename_i h'
    cases h'
    rfl
  · rename_i h'
    exact (h' c cs rfl).elim

theorem of_escape : of "--" = .escape := rfl

/-- A word is plain, or it is two hyphens, or it names an option in one of the two ways. -/
theorem of_cases (word : String) :
    (IsPlain word ∧ of word = .plain) ∨ word = "--" ∨
      (∃ c cs, word.toList = '-' :: '-' :: c :: cs) ∨
      ∃ c cs, word.toList = '-' :: c :: cs ∧ c ≠ '-' := by
  have heq : ∀ text : String, word.toList = text.toList → word = text := fun _ =>
    String.toList_inj.1
  cases h : word.toList with
  | nil =>
    refine Or.inl ⟨Or.inl (by simp [h]), ?_⟩
    rw [of, h]
  | cons c cs =>
    by_cases hc : c = '-'
    · subst hc
      cases cs with
      | nil =>
        rw [heq "-" h]
        exact Or.inl ⟨Or.inr rfl, rfl⟩
      | cons c cs =>
        by_cases hc : c = '-'
        · subst hc
          cases cs with
          | nil => exact Or.inr (Or.inl (heq "--" h))
          | cons c cs => exact Or.inr (Or.inr (Or.inl ⟨c, cs, rfl⟩))
        · exact Or.inr (Or.inr (Or.inr ⟨c, cs, rfl, hc⟩))
    · refine Or.inl ⟨Or.inl (by simpa [h] using hc), ?_⟩
      rw [of, h]
      split
      · rename_i h'
        cases h'
        exact (hc rfl).elim
      · rename_i h'
        cases h'
        exact (hc rfl).elim
      · rename_i h'
        cases h'
        exact (hc rfl).elim
      · rfl

theorem not_isPlain {word : String} {c : Char} {cs : List Char}
    (h : word.toList = '-' :: c :: cs) : ¬ IsPlain word := by
  rintro (hhead | rfl)
  · exact hhead (by rw [h]; rfl)
  · cases h

theorem not_isPlain_escape : ¬ IsPlain "--" := by
  have hword : "--".toList = '-' :: '-' :: [] := rfl
  exact not_isPlain hword

theorem of_isPlain {word : String} (h : IsPlain word) : of word = .plain := by
  rcases of_cases word with ⟨-, hform⟩ | rfl | ⟨c, cs, hword⟩ | ⟨c, cs, hword, -⟩
  · exact hform
  · exact (not_isPlain_escape h).elim
  · exact (not_isPlain hword h).elim
  · exact (not_isPlain hword h).elim

end WordForm

/-- The value that stands in one word with a letter. -/
def attached : List Char → Option String
  | [] => none
  | '=' :: v => some (String.ofList v)
  | v => some (String.ofList v)

/-- The option that a word names, and the value that stands in the same word. -/
def namedBy (specs : List (OptionSpec ι)) (word : String) :
    Option (OptionSpec ι × Option String) :=
  match WordForm.of word with
  | .long name v => (specs.find? (·.long == name)).map (·, v)
  | .letters (c :: cs) => (specs.find? (·.letter == some c)).map (·, attached cs)
  | _ => none

section

variable {specs : List (OptionSpec ι)} (hs : Unambiguous specs) {spec : OptionSpec ι}
  (hspec : spec ∈ specs)

include hs hspec

theorem namedBy_long {word : String} {v : Option (List Char)}
    (h : word.toList = '-' :: '-' :: (spec.long.toList ++ v.elim [] ('=' :: ·))) :
    namedBy specs word = some (spec, v.map String.ofList) := by
  obtain ⟨hne, hequals⟩ := hs.longText spec hspec
  obtain ⟨c, cs, hcs⟩ := List.exists_cons_of_ne_nil (mt String.toList_eq_nil_iff.1 hne)
  have hcut : cutAtEquals (spec.long.toList ++ v.elim [] ('=' :: ·)) = (spec.long.toList, v) := by
    cases v with
    | none => simpa using cutAtEquals_of_notMem hequals
    | some v => exact cutAtEquals_append hequals v
  have hword : word.toList = '-' :: '-' :: c :: (cs ++ v.elim [] ('=' :: ·)) := by
    rw [h, hcs]
    rfl
  have hform := WordForm.of_hyphens hword
  rw [← List.cons_append, ← hcs, hcut, String.ofList_toList] at hform
  simp only [namedBy, hform, hs.long spec hspec, Option.map_some]

theorem namedBy_letter {word : String} {c : Char} (hc : spec.letter = some c)
    (cs : List Char) (h : word.toList = '-' :: c :: cs) :
    namedBy specs word = some (spec, attached cs) := by
  have hhyphen : c ≠ '-' := by
    rintro rfl
    exact hs.letterText spec hspec hc
  rw [namedBy, WordForm.of_hyphen h hhyphen]
  simp only [hs.letter spec hspec c hc, Option.map_some]

end

theorem attached_eq_some {c : Char} (hc : c ≠ '=') (cs : List Char) :
    attached (c :: cs) = some (String.ofList (c :: cs)) := by
  unfold attached
  split
  · rename_i h
    cases h
  · rename_i h
    cases h
    exact (hc rfl).elim
  · rfl

theorem spells_long {spec : OptionSpec ι} {word : String} {v : Option (List Char)}
    (h : word.toList = '-' :: '-' :: (spec.long.toList ++ v.elim [] ('=' :: ·))) :
    spec.Spells word (v.map String.ofList) := by
  cases v with
  | none =>
    have hword : word = "--" ++ spec.long := String.toList_inj.1 (h.trans (by simp))
    exact hword ▸ .long
  | some v =>
    have hword : word = "--" ++ spec.long ++ "=" ++ String.ofList v :=
      String.toList_inj.1 (h.trans (by simp))
    exact hword ▸ .longWith (String.ofList v)

theorem spells_letter {spec : OptionSpec ι} {word : String} {c : Char} (hc : spec.letter = some c)
    {cs : List Char} (h : word.toList = '-' :: c :: cs) : spec.Spells word (attached cs) := by
  cases cs with
  | nil =>
    have hword : word = "-" ++ String.singleton c := String.toList_inj.1 (h.trans (by simp))
    exact hword ▸ .letter c hc
  | cons d ds =>
    by_cases hd : d = '='
    · have hword : word = "-" ++ String.singleton c ++ "=" ++ String.ofList ds :=
        String.toList_inj.1 (h.trans (by simp [hd]))
      rw [hd]
      exact hword ▸ .letterEquals c hc (String.ofList ds)
    · have hword : word = "-" ++ String.singleton c ++ String.ofList (d :: ds) :=
        String.toList_inj.1 (h.trans (by simp))
      rw [attached_eq_some hd]
      exact hword ▸ .letterWith c hc _ (by simp) (by simpa using hd)

/-- A word names the option that it spells. -/
theorem namedBy_eq_some_iff {specs : List (OptionSpec ι)} (hs : Unambiguous specs) {word : String}
    {spec : OptionSpec ι} {v : Option String} :
    namedBy specs word = some (spec, v) ↔ spec ∈ specs ∧ spec.Spells word v := by
  constructor
  · intro h
    rcases WordForm.of_cases word with ⟨-, hform⟩ | rfl | ⟨c, cs, hword⟩ | ⟨c, cs, hword, hc⟩
    · simp [namedBy, hform] at h
    · simp [namedBy, WordForm.of_escape] at h
    · rw [namedBy, WordForm.of_hyphens hword] at h
      obtain ⟨spec', hfind, heq⟩ := Option.map_eq_some_iff.1 h
      cases heq
      have hname : spec.long = String.ofList (cutAtEquals (c :: cs)).1 := by
        simpa using List.find?_some hfind
      refine ⟨List.mem_of_find?_eq_some hfind, spells_long ?_⟩
      rw [hword, hname, String.toList_ofList, cutAtEquals_join]
    · rw [namedBy, WordForm.of_hyphen hword hc] at h
      obtain ⟨spec', hfind, heq⟩ := Option.map_eq_some_iff.1 h
      cases heq
      have hletter : spec.letter = some c := by simpa using List.find?_some hfind
      exact ⟨List.mem_of_find?_eq_some hfind, spells_letter hletter hword⟩
  · rintro ⟨hspec, hspells⟩
    cases hspells with
    | long => exact namedBy_long hs hspec (v := none) (by simp)
    | longWith v =>
      rw [namedBy_long hs hspec (v := some v.toList) (by simp), Option.map_some,
        String.ofList_toList]
    | letter c h => exact namedBy_letter hs hspec h [] (by simp)
    | letterWith c h v hv he =>
      rw [namedBy_letter hs hspec h v.toList (by simp)]
      obtain ⟨d, ds, hd⟩ := List.exists_cons_of_ne_nil (mt String.toList_eq_nil_iff.1 hv)
      rw [hd, attached_eq_some (by simpa [hd] using he), ← hd, String.ofList_toList]
    | letterEquals c h v =>
      rw [namedBy_letter hs hspec h ('=' :: v.toList) (by simp), attached,
        String.ofList_toList]

/-- A word names one option at most. -/
theorem OptionSpec.Spells.unique {specs : List (OptionSpec ι)} (hs : Unambiguous specs)
    {spec spec' : OptionSpec ι} {word : String} {a a' : Option String} (hspec : spec ∈ specs)
    (h : spec.Spells word a) (hspec' : spec' ∈ specs) (h' : spec'.Spells word a') :
    spec' = spec ∧ a' = a := by
  have hnamed := (namedBy_eq_some_iff hs).2 ⟨hspec, h⟩
  rw [(namedBy_eq_some_iff hs).2 ⟨hspec', h'⟩] at hnamed
  cases hnamed
  exact ⟨rfl, rfl⟩

end ClusterLock
