import Mathlib.Data.List.Forall2
import ClusterLock.Proofs.OptionSpelling

/-
  How options stand among the words of a command line. A `WrittenOption` is a word that names an
  option with its value, if that is a word of its own, and it `Gives` an option a value. The words
  are read one by one (`readsTo_option`, `readsTo_plain`, `readsTo_escape`), and so the written
  options are read one by one too: `readsTo_all` finds in the result what each of them gives, and
  `written_of_readsTo` that words which can be read are written options and nothing else.
-/
namespace ClusterLock

variable {ι : Type}

/-! ## Reading -/

namespace Given

variable [DecidableEq ι] {g r : Given ι} {id : ι} {v : String}

theorem has_iff : g.has id = true ↔ id ∈ g.settled.map (·.1) := by
  rw [has, value?, List.lookup_isSome_iff, List.mem_map]
  simp only [beq_iff_eq]
  exact exists_congr fun p => and_congr_right fun _ => eq_comm

theorem add_eq_ok_iff : g.add id v = .ok r ↔
    id ∉ g.settled.map (·.1) ∧ r = { g with settled := g.settled ++ [(id, v)] } := by
  rw [add, ← has_iff]
  split
  · rename_i h
    simp [h]
  · rename_i h
    simp [h, eq_comm]

theorem settle_of_awaits (h : g.awaits = some id) : g.settle ≠ .ok r := by
  obtain ⟨l, pending⟩ := g
  match pending with
  | none => cases h
  | some (id, none) => exact nofun
  | some (id, some v) => cases h

theorem settle_of_pending (l : List (ι × String)) (id : ι) (v : String) :
    (⟨l, some (id, some v)⟩ : Given ι).settle = (⟨l, none⟩ : Given ι).add id v := rfl

/-- What has been settled is not pending any more. -/
theorem pending_of_settle (h : g.settle = .ok r) : r.pending = none := by
  obtain ⟨l, pending⟩ := g
  match pending with
  | none =>
    cases h
    rfl
  | some (id, none) => cases h
  | some (id, some v) =>
    rw [settle_of_pending] at h
    rw [(add_eq_ok_iff.1 h).2]

/-- An option is met after the one before it has been settled. -/
theorem meet_eq_ok_iff {spec : OptionSpec ι} {a : Option String} :
    g.meet spec a = .ok r ↔ ∃ l, g.settle = .ok ⟨l, none⟩ ∧
      ((spec.kind = .value ∧ ∃ v, a = some v ∧ (⟨l, none⟩ : Given ι).add spec.id v = .ok r) ∨
        (spec.kind = .value ∧ a = none ∧ r = ⟨l, some (spec.id, none)⟩) ∨
        (spec.kind = .flag ∧ a = none ∧ (⟨l, none⟩ : Given ι).add spec.id "" = .ok r)) := by
  cases hsettle : g.settle with
  | error e =>
    refine iff_of_false (fun h => ?_) (by rintro ⟨l, ⟨⟩, -⟩)
    unfold meet at h
    rw [hsettle] at h
    cases hk : spec.kind <;> cases a <;> simp [hk, bind, Except.bind] at h
  | ok gs =>
    obtain ⟨l, pending⟩ := gs
    have hnone : pending = none := pending_of_settle hsettle
    subst hnone
    unfold meet
    rw [hsettle]
    cases hk : spec.kind <;> cases a <;>
      simp [bind, Except.bind, pure, Except.pure, eq_comm]

theorem meet_settled_iff {l : List (ι × String)} {spec : OptionSpec ι} {a : Option String} :
    (⟨l, none⟩ : Given ι).meet spec a = .ok r ↔
      (spec.kind = .value ∧ ∃ v, a = some v ∧ spec.id ∉ l.map (·.1) ∧
          r = ⟨l ++ [(spec.id, v)], none⟩) ∨
        (spec.kind = .value ∧ a = none ∧ r = ⟨l, some (spec.id, none)⟩) ∨
        (spec.kind = .flag ∧ a = none ∧ spec.id ∉ l.map (·.1) ∧
          r = ⟨l ++ [(spec.id, "")], none⟩) := by
  rw [meet_eq_ok_iff]
  constructor
  · rintro ⟨l, ⟨⟩, h⟩
    simpa only [add_eq_ok_iff] using h
  · intro h
    exact ⟨l, rfl, by simpa only [add_eq_ok_iff] using h⟩

end Given

/-- Reading the words as options, and settling what they leave pending, comes to this result. -/
def ReadsTo [DecidableEq ι] (specs : List (OptionSpec ι)) (g : Given ι) (words : List String)
    (r : Given ι) : Prop :=
  ∃ g' stop, readOptions specs [] words false g = .ok (g', stop) ∧ g'.settle = .ok r

section

variable [DecidableEq ι] {specs : List (OptionSpec ι)} {g r : Given ι} {words : List String}

theorem readsTo_nil : ReadsTo specs g [] r ↔ g.settle = .ok r := by
  simp [ReadsTo, readOptions]

/-- After two hyphens there can be nothing more. -/
theorem readsTo_escape : ReadsTo specs g ("--" :: words) r ↔ words = [] ∧ g.settle = .ok r := by
  have hread : readOptions specs [] ("--" :: words) false g =
      readOptions specs [] words true g := by
    rw [readOptions, WordForm.of_escape]
    simp
  rw [ReadsTo, hread]
  cases words with
  | nil => simp [readOptions]
  | cons word words => simp [readOptions]

/-- A plain word is the value that is waited for. -/
theorem readsTo_plain {word : String} (h : IsPlain word) :
    ReadsTo specs g (word :: words) r ↔
      ∃ id, g.awaits = some id ∧
        ReadsTo specs { g with pending := some (id, some word) } words r := by
  simp only [ReadsTo, readOptions, WordForm.of_isPlain h]
  cases g.awaits with
  | none => simp
  | some id => simp

/-- Only an option with a value can be met by its letter. -/
theorem meetLetters_eq_ok_iff (hs : Unambiguous specs) {c : Char} {cs : List Char} :
    g.meetLetters specs (c :: cs) = .ok r ↔
      ∃ spec, specs.find? (·.letter == some c) = some spec ∧ g.meet spec (attached cs) = .ok r := by
  rw [Given.meetLetters]
  cases hfind : specs.find? (·.letter == some c) with
  | none => simp
  | some spec =>
    have hletter : spec.letter = some c := by simpa using List.find?_some hfind
    have hflag : spec.kind ≠ .flag := by
      intro hk
      rw [hs.flags spec (List.mem_of_find?_eq_some hfind) hk] at hletter
      cases hletter
    simp only [Option.some.injEq, exists_eq_left']
    by_cases hk : spec.kind = .value
    · rw [if_pos hk]
      split
      · rfl
      · rfl
      · rename_i hnil hequals
        obtain ⟨d, ds, rfl⟩ := List.exists_cons_of_ne_nil hnil
        rw [attached_eq_some fun hd => hequals ds (hd ▸ rfl)]
    · rw [if_neg hk]
      -- asking for help or for the version ends the reading
      have hmeet : ∀ (a : Option String) (r : Given ι), g.meet spec a ≠ .ok r := by
        intro a r hr
        obtain ⟨l, -, ⟨h, -⟩ | ⟨h, -⟩ | ⟨h, -⟩⟩ := Given.meet_eq_ok_iff.1 hr
        · exact hk h
        · exact hk h
        · exact hflag h
      refine iff_of_false (fun h => ?_) (hmeet _ r)
      cases hnone : g.meet spec none with
      | ok g' => exact hmeet none g' hnone
      | error e =>
        rw [hnone] at h
        cases h

/-- A word that names an option is met with the value that stands in it. -/
theorem readsTo_option {word : String} (hs : Unambiguous specs) (h : ¬ IsPlain word)
    (he : word ≠ "--") :
    ReadsTo specs g (word :: words) r ↔
      ∃ spec a g', spec ∈ specs ∧ spec.Spells word a ∧ g.meet spec a = .ok g' ∧
        ReadsTo specs g' words r := by
  have hbind : ∀ (x : Except UsageError (Given ι)),
      (∃ g' stop, (x >>= readOptions specs [] words false) = .ok (g', stop) ∧
        g'.settle = .ok r) ↔ ∃ g', x = .ok g' ∧ ReadsTo specs g' words r := by
    intro x
    cases x <;> simp [ReadsTo, bind, Except.bind]
  have hnamed : ReadsTo specs g (word :: words) r ↔
      ∃ spec a g', namedBy specs word = some (spec, a) ∧ g.meet spec a = .ok g' ∧
        ReadsTo specs g' words r := by
    rcases WordForm.of_cases word with ⟨hplain, -⟩ | rfl | ⟨c, cs, hword⟩ | ⟨c, cs, hword, hc⟩
    · exact (h hplain).elim
    · exact (he rfl).elim
    · have hform := WordForm.of_hyphens hword
      show (∃ g' stop, readOptions specs [] (word :: words) false g = _ ∧ _) ↔ _
      simp only [readOptions, namedBy, hform, List.not_mem_nil, and_false, if_false,
        Bool.false_eq_true]
      cases hfind : specs.find? (·.long == String.ofList (cutAtEquals (c :: cs)).1) with
      | none => simp
      | some spec =>
        simp only [Option.map_some, Option.some.injEq, Prod.mk.injEq]
        rw [hbind]
        simp
    · have hform := WordForm.of_hyphen hword hc
      show (∃ g' stop, readOptions specs [] (word :: words) false g = _ ∧ _) ↔ _
      simp only [readOptions, namedBy, hform, List.not_mem_nil, and_false, if_false,
        Bool.false_eq_true]
      rw [hbind]
      simp only [meetLetters_eq_ok_iff hs]
      constructor
      · rintro ⟨g', ⟨spec, hfind, hmeet⟩, hread⟩
        exact ⟨spec, _, g', by rw [hfind]; rfl, hmeet, hread⟩
      · rintro ⟨spec, a, g', hfind, hmeet, hread⟩
        obtain ⟨spec', hfind', heq⟩ := Option.map_eq_some_iff.1 hfind
        cases heq
        exact ⟨g', ⟨spec, hfind', hmeet⟩, hread⟩
  simp only [hnamed, namedBy_eq_some_iff hs, and_assoc]

/-- An option that waits for its value has to get it at once. -/
theorem readsTo_of_awaits (hs : Unambiguous specs) {id : ι} (hg : g.awaits = some id)
    (h : ReadsTo specs g words r) :
    ∃ v words', words = v :: words' ∧ IsPlain v ∧
      ReadsTo specs { g with pending := some (id, some v) } words' r := by
  cases words with
  | nil => exact (Given.settle_of_awaits hg (readsTo_nil.1 h)).elim
  | cons word words =>
    by_cases hplain : IsPlain word
    · obtain ⟨id', hid', h⟩ := (readsTo_plain hplain).1 h
      rw [hg] at hid'
      cases hid'
      exact ⟨word, words, rfl, hplain, h⟩
    by_cases hescape : word = "--"
    · subst hescape
      exact (Given.settle_of_awaits hg (readsTo_escape.1 h).2).elim
    · obtain ⟨spec, a, g', -, -, hmeet, -⟩ := (readsTo_option hs hplain hescape).1 h
      obtain ⟨l, hl, -⟩ := Given.meet_eq_ok_iff.1 hmeet
      exact (Given.settle_of_awaits hg hl).elim

/-- An option that has its value may as well be settled at once. -/
theorem readsTo_settle (hs : Unambiguous specs) (hg : g.awaits = none) :
    ReadsTo specs g words r ↔
      ∃ l, g.settle = .ok ⟨l, none⟩ ∧ ReadsTo specs ⟨l, none⟩ words r := by
  have hsettled : g.settle = .ok r ↔
      ∃ l, g.settle = .ok ⟨l, none⟩ ∧ (⟨l, none⟩ : Given ι).settle = .ok r := by
    constructor
    · intro h
      obtain ⟨l, pending⟩ := r
      cases Given.pending_of_settle h
      exact ⟨l, h, rfl⟩
    · rintro ⟨l, h, ⟨⟩⟩
      exact h
  cases words with
  | nil => simpa only [readsTo_nil] using hsettled
  | cons word words =>
    by_cases hplain : IsPlain word
    · simp only [readsTo_plain hplain, hg]
      refine iff_of_false (by rintro ⟨id, ⟨⟩, -⟩) (by rintro ⟨l, -, id, ⟨⟩, -⟩)
    by_cases hescape : word = "--"
    · subst hescape
      simp only [readsTo_escape, hsettled]
      exact ⟨fun ⟨h, l, hl, hr⟩ => ⟨l, hl, h, hr⟩, fun ⟨l, hl, h, hr⟩ => ⟨h, l, hl, hr⟩⟩
    · simp only [readsTo_option hs hplain hescape, Given.meet_eq_ok_iff]
      constructor
      · rintro ⟨spec, a, g', hspec, hspells, ⟨l, hl, hmeet⟩, hread⟩
        exact ⟨l, hl, spec, a, g', hspec, hspells, ⟨l, rfl, hmeet⟩, hread⟩
      · rintro ⟨l, hl, spec, a, g', hspec, hspells, ⟨_, ⟨⟩, hmeet⟩, hread⟩
        exact ⟨spec, a, g', hspec, hspells, ⟨l, hl, hmeet⟩, hread⟩

end

/-! ## Written options -/

/-- An option as it is written: the word that names it, whether or not there is such an option, and
its value, if that is a word of its own. -/
structure WrittenOption (specs : List (OptionSpec ι)) where
  word : String
  value : Option String := none
  names : ¬ IsPlain word ∧ word ≠ "--"
  waits : ∀ v ∈ value, IsPlain v ∧ ∃ spec ∈ specs, spec.kind = .value ∧ spec.Spells word none

namespace WrittenOption

variable {specs : List (OptionSpec ι)}

def words (o : WrittenOption specs) : List String := o.word :: o.value.toList

/-- The option that is written, and its value; a flag's value is the empty text. -/
inductive Gives (o : WrittenOption specs) : ι → String → Prop
  | joined {spec : OptionSpec ι} {v : String} (hspec : spec ∈ specs) (hk : spec.kind = .value)
      (hword : spec.Spells o.word (some v)) (hvalue : o.value = none) : Gives o spec.id v
  | apart {spec : OptionSpec ι} {v : String} (hspec : spec ∈ specs) (hk : spec.kind = .value)
      (hword : spec.Spells o.word none) (hvalue : o.value = some v) : Gives o spec.id v
  | flag {spec : OptionSpec ι} (hspec : spec ∈ specs) (hk : spec.kind = .flag)
      (hword : spec.Spells o.word none) (hvalue : o.value = none) : Gives o spec.id ""

end WrittenOption

/-- What may stand after the options: nothing, or two hyphens and anything after them. -/
def IsTail (tail : List String) : Prop := tail = [] ∨ ∃ words, tail = "--" :: words

/-- No written option begins with a plain word, and no tail does. -/
theorem WrittenOption.head_words {specs : List (OptionSpec ι)} (os : List (WrittenOption specs))
    {tail : List String} (ht : IsTail tail) :
    ∀ word ∈ (os.flatMap WrittenOption.words ++ tail).head?, ¬ IsPlain word := by
  intro word hword
  cases os with
  | nil =>
    rcases ht with rfl | ⟨words, rfl⟩
    · cases hword
    · cases hword
      exact WordForm.not_isPlain_escape
  | cons o os =>
    cases hword
    exact o.names.1

section

variable [DecidableEq ι] {specs : List (OptionSpec ι)} (hs : Unambiguous specs)
  {l : List (ι × String)} {r : Given ι}

include hs

/-- **One option** is read as what it gives, if that was not given before. -/
theorem readsTo_written (o : WrittenOption specs) {rest : List String}
    (hrest : ∀ word ∈ rest.head?, ¬ IsPlain word) :
    ReadsTo specs ⟨l, none⟩ (o.words ++ rest) r ↔
      ∃ id v, o.Gives id v ∧ id ∉ l.map (·.1) ∧ ReadsTo specs ⟨l ++ [(id, v)], none⟩ rest r := by
  obtain ⟨word, value, ⟨hplain, hescape⟩, hwaits⟩ := o
  have hread : ReadsTo specs ⟨l, none⟩ (word :: (value.toList ++ rest)) r ↔ _ :=
    readsTo_option hs hplain hescape
  rw [WrittenOption.words, List.cons_append, hread]
  simp only [Given.meet_settled_iff]
  cases value with
  | none =>
    constructor
    · rintro ⟨spec, a, g', hspec, hspells, ⟨hk, v, rfl, hnew, rfl⟩ | ⟨-, -, rfl⟩ |
        ⟨hk, rfl, hnew, rfl⟩, h⟩
      · exact ⟨spec.id, v, .joined hspec hk hspells rfl, hnew, h⟩
      · -- the value would have to come first of what follows
        obtain ⟨v, words', hcons, hv, -⟩ := readsTo_of_awaits hs
          (rfl : Given.awaits _ = some spec.id) h
        exact (hrest v (by rw [show rest = v :: words' from hcons]; rfl) hv).elim
      · exact ⟨spec.id, "", .flag hspec hk hspells rfl, hnew, h⟩
    · rintro ⟨id, v, hgives, hnew, h⟩
      cases hgives with
      | joined hspec hk hword hvalue =>
        exact ⟨_, _, _, hspec, hword, Or.inl ⟨hk, v, rfl, hnew, rfl⟩, h⟩
      | apart hspec hk hword hvalue => cases hvalue
      | flag hspec hk hword hvalue =>
        exact ⟨_, _, _, hspec, hword, Or.inr (Or.inr ⟨hk, rfl, hnew, rfl⟩), h⟩
  | some v =>
    obtain ⟨hv, spec, hspec, hk, hspells⟩ := hwaits v rfl
    have hvalue : ReadsTo specs ⟨l, some (spec.id, none)⟩ (v :: rest) r ↔
        spec.id ∉ l.map (·.1) ∧ ReadsTo specs ⟨l ++ [(spec.id, v)], none⟩ rest r := by
      rw [readsTo_plain hv]
      constructor
      · rintro ⟨id, ⟨⟩, h⟩
        obtain ⟨l', hl', h⟩ := (readsTo_settle hs rfl).1 h
        rw [Given.settle_of_pending, Given.add_eq_ok_iff] at hl'
        obtain ⟨hnew, ⟨⟩⟩ := hl'
        exact ⟨hnew, h⟩
      · rintro ⟨hnew, h⟩
        refine ⟨spec.id, rfl, (readsTo_settle hs rfl).2 ⟨_, ?_, h⟩⟩
        rw [Given.settle_of_pending, Given.add_eq_ok_iff]
        exact ⟨hnew, rfl⟩
    constructor
    · rintro ⟨spec', a, g', hspec', hspells', hmeet, h⟩
      obtain ⟨rfl, rfl⟩ := OptionSpec.Spells.unique hs hspec hspells hspec' hspells'
      rcases hmeet with ⟨-, v', ⟨⟩, -⟩ | ⟨-, -, rfl⟩ | ⟨hflag, -⟩
      · obtain ⟨hnew, h⟩ := hvalue.1 h
        exact ⟨spec'.id, v, .apart hspec hk hspells rfl, hnew, h⟩
      · rw [hk] at hflag
        cases hflag
    · rintro ⟨id, v', hgives, hnew, h⟩
      cases hgives with
      | joined hspec' hk' hword' hvalue' => cases hvalue'
      | apart hspec' hk' hword' hvalue' =>
        cases hvalue'
        obtain ⟨rfl, -⟩ := OptionSpec.Spells.unique hs hspec hspells hspec' hword'
        exact ⟨_, none, _, hspec, hspells, Or.inr (Or.inl ⟨hk, rfl, rfl⟩), hvalue.2 ⟨hnew, h⟩⟩
      | flag hspec' hk' hword' hvalue' => cases hvalue'

omit hs in
theorem readsTo_tail {tail : List String} (ht : IsTail tail) :
    ReadsTo specs ⟨l, none⟩ tail r ↔ (tail = [] ∨ tail = ["--"]) ∧ r = ⟨l, none⟩ := by
  have hsettle : (⟨l, none⟩ : Given ι).settle = .ok r ↔ r = ⟨l, none⟩ := by
    simp [Given.settle, eq_comm]
  rcases ht with rfl | ⟨words, rfl⟩
  · simp [readsTo_nil, hsettle]
  · simp [readsTo_escape, hsettle]

/-- **All options** are read as what they give, if nothing is given twice. -/
theorem readsTo_all (os : List (WrittenOption specs)) {tail : List String} (ht : IsTail tail) :
    ReadsTo specs ⟨l, none⟩ (os.flatMap WrittenOption.words ++ tail) r ↔
      ∃ given, List.Forall₂ (fun o e => o.Gives e.1 e.2) os given ∧ (given.map (·.1)).Nodup ∧
        (∀ id ∈ given.map (·.1), id ∉ l.map (·.1)) ∧ (tail = [] ∨ tail = ["--"]) ∧
        r = ⟨l ++ given, none⟩ := by
  induction os generalizing l with
  | nil => simp [readsTo_tail ht]
  | cons o os ih =>
    rw [List.flatMap_cons, List.append_assoc, readsTo_written hs o (WrittenOption.head_words os ht)]
    simp only [ih, List.forall₂_cons_left_iff]
    constructor
    · rintro ⟨id, v, hgives, hnew, given, hall, hnodup, hother, htail, rfl⟩
      refine ⟨(id, v) :: given, ⟨_, _, hgives, hall, rfl⟩, ?_, ?_, htail, ?_⟩
      · refine List.nodup_cons.2 ⟨fun hid => ?_, hnodup⟩
        simpa using hother id hid
      · rintro id' hid'
        rcases List.mem_cons.1 hid' with rfl | hid'
        · exact hnew
        · have := hother id' hid'
          rw [List.map_append, List.mem_append, not_or] at this
          exact this.1
      · rw [List.append_assoc]
        rfl
    · rintro ⟨_, ⟨⟨id, v⟩, given, hgives, hall, rfl⟩, hnodup, hother, htail, rfl⟩
      rw [List.map_cons, List.nodup_cons] at hnodup
      refine ⟨id, v, hgives, hother id (List.mem_cons_self ..), given, hall, hnodup.2,
        fun id' hid' => ?_, htail, ?_⟩
      · rw [List.map_append, List.mem_append, not_or]
        refine ⟨hother id' (List.mem_cons_of_mem _ hid'), fun h => ?_⟩
        rw [List.mem_singleton.1 h] at hid'
        exact hnodup.1 hid'
      · rw [List.append_assoc]
        rfl

/-- Words that can be read are written options, and perhaps two hyphens at the end. -/
theorem written_of_readsTo {words : List String} (h : ReadsTo specs ⟨l, none⟩ words r) :
    ∃ (os : List (WrittenOption specs)) (tail : List String),
      words = os.flatMap WrittenOption.words ++ tail ∧ (tail = [] ∨ tail = ["--"]) := by
  induction hn : words.length using Nat.strongRecOn generalizing words l with
  | ind n ih =>
    -- one more option in front of those that the rest of the words is made of
    have hcons : ∀ (o : WrittenOption specs) {rest : List String} {l : List (ι × String)},
        words = o.words ++ rest → ReadsTo specs ⟨l, none⟩ rest r →
          ∃ (os : List (WrittenOption specs)) (tail : List String),
            words = os.flatMap WrittenOption.words ++ tail ∧ (tail = [] ∨ tail = ["--"]) := by
      intro o rest l hwords hread
      have hlt : rest.length < n := by
        rw [← hn, hwords, WrittenOption.words, List.length_append, List.length_cons]
        omega
      obtain ⟨os, tail, hrest, htail⟩ := ih rest.length hlt hread rfl
      exact ⟨o :: os, tail, by rw [hwords, hrest, List.flatMap_cons, List.append_assoc], htail⟩
    cases words with
    | nil => exact ⟨[], [], rfl, Or.inl rfl⟩
    | cons word rest =>
      by_cases hplain : IsPlain word
      · obtain ⟨id, ⟨⟩, -⟩ := (readsTo_plain hplain).1 h
      by_cases hescape : word = "--"
      · subst hescape
        obtain ⟨rfl, -⟩ := readsTo_escape.1 h
        exact ⟨[], ["--"], rfl, Or.inr rfl⟩
      · obtain ⟨spec, a, g', hspec, hspells, hmeet, hread⟩ :=
          (readsTo_option hs hplain hescape).1 h
        let alone : WrittenOption specs := ⟨word, none, ⟨hplain, hescape⟩, nofun⟩
        rcases Given.meet_settled_iff.1 hmeet with ⟨-, v, -, -, rfl⟩ | ⟨hk, rfl, rfl⟩ |
          ⟨-, -, -, rfl⟩
        · exact hcons alone rfl hread
        · obtain ⟨v, rest', rfl, hv, hread⟩ := readsTo_of_awaits hs
            (rfl : Given.awaits _ = some spec.id) hread
          obtain ⟨l', -, hread⟩ := (readsTo_settle hs rfl).1 hread
          refine hcons ⟨word, some v, ⟨hplain, hescape⟩, ?_⟩ rfl hread
          rintro v' ⟨⟩
          exact ⟨hv, spec, hspec, hk, hspells⟩
        · exact hcons alone rfl hread

end

/-! ## Values -/

/-- An option that is given once has the value that it is given. -/
theorem Given.value?_eq_some_iff [DecidableEq ι] {l : List (ι × String)} (hn : (l.map (·.1)).Nodup)
    (p : Option (ι × Option String)) {id : ι} {v : String} :
    (⟨l, p⟩ : Given ι).value? id = some v ↔ (id, v) ∈ l := by
  induction l with
  | nil => simp [value?]
  | cons e l ih =>
    obtain ⟨k, u⟩ := e
    rw [List.map_cons, List.nodup_cons] at hn
    have ih := ih hn.2
    unfold value? at ih ⊢
    rw [List.lookup_cons, List.mem_cons]
    by_cases hk : id = k
    · subst hk
      have hnot : (id, v) ∉ l := fun hm => hn.1 (List.mem_map_of_mem (f := (·.1)) hm)
      simp [hnot, eq_comm]
    · have hb : (id == k) = false := beq_eq_false_iff_ne.2 hk
      simp [hb, hk, ih]

end ClusterLock
