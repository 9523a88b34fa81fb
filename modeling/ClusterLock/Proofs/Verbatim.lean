import ClusterLock.Config.Environment
import ClusterLock.Proofs.Spelling
import Mathlib.Data.List.Induction

/-
  Which values of variables are texts again. The value of a variable is given what it stands for
  (`Setting.ofVariable`), a truth value or a number if it looks like one, and that is printed when
  a text is asked for. `Verbatim` says of which values this is the value again
  (`text?_ofVariable`): of whole numbers just in their usual digits (`verbatim_iff_usualInt`), and
  of all values without digits but for a few words (`verbatim_of_letters`).
-/
namespace ClusterLock

/-! ## Digits -/

/-- Digits with no zero in front, but for zero itself. -/
def Usual (ds : List Char) : Prop := ds.head? = some '0' → ds = ['0']

/-- A digit is the one that is printed for its value. -/
theorem digit?_of_isDigit {c : Char} (h : c.isDigit = true) :
    ∃ d, digit? c = some d ∧ d < 10 ∧ d.digitChar = c := by
  refine ⟨c.toNat - '0'.toNat, if_pos h, ?_⟩
  simp only [Char.isDigit, Bool.and_eq_true, decide_eq_true_eq] at h
  have hlow : 48 ≤ c.toNat := h.1
  have hhigh : c.toNat ≤ 57 := h.2
  have hchar : ∀ n < 10, n.digitChar = Char.ofNat (48 + n) := by decide
  have hlt : c.toNat - '0'.toNat < 10 := by
    show c.toNat - 48 < 10
    omega
  refine ⟨hlt, ?_⟩
  rw [hchar _ hlt, show 48 + (c.toNat - '0'.toNat) = c.toNat from Nat.add_sub_cancel' hlow,
    Char.ofNat_toNat]

theorem natOfDigits_snoc (ds : List Char) (c : Char) :
    natOfDigits (ds ++ [c]) = 10 * natOfDigits ds + (digit? c).getD 0 := by
  rw [natOfDigits, List.foldl_append]
  rfl

/-- Usual digits are printed again for the number that they spell. -/
theorem digitsOfNat_natOfDigits {ds : List Char} (hne : ds ≠ [])
    (hdigits : ∀ c ∈ ds, c.isDigit = true) (husual : Usual ds) :
    digitsOfNat (natOfDigits ds) = ds := by
  induction ds using List.reverseRecOn with
  | nil => exact absurd rfl hne
  | append_singleton ds c ih =>
    obtain ⟨d, hd, hlt, hchar⟩ := digit?_of_isDigit (hdigits c (by simp))
    rw [natOfDigits_snoc, hd, Option.getD_some]
    by_cases hds : ds = []
    · subst hds
      rw [digitsOfNat, Nat.toDigits_of_lt_base (by simpa [natOfDigits] using hlt)]
      simpa [natOfDigits] using hchar
    · have hhead : ds.head? ≠ some '0' := by
        intro h
        have hall := husual (by rw [List.head?_append, h]; rfl)
        have hlength := congrArg List.length hall
        have hpos := List.length_pos_iff.2 hds
        simp only [List.length_append, List.length_singleton] at hlength
        omega
      have hds' := ih hds (fun c hc => hdigits c (List.mem_append_left _ hc))
        fun h => absurd h hhead
      have hpos : natOfDigits ds ≠ 0 := by
        intro hzero
        rw [hzero] at hds'
        exact hhead (by rw [← hds']; rfl)
      rw [digitsOfNat, Nat.toDigits_of_base_le (by decide) (by omega)]
      rw [show (10 * natOfDigits ds + d) / 10 = natOfDigits ds by omega,
        show (10 * natOfDigits ds + d) % 10 = d by omega, hchar]
      exact congrArg (· ++ [c]) hds'

/-- Digits are printed again just when they are the usual ones. -/
theorem eq_digitsOfNat_iff {ds : List Char} (hne : ds ≠ [])
    (hdigits : ∀ c ∈ ds, c.isDigit = true) : ds = digitsOfNat (natOfDigits ds) ↔ Usual ds := by
  refine ⟨fun h => ?_, fun h => (digitsOfNat_natOfDigits hne hdigits h).symm⟩
  rw [h]
  exact head_digitsOfNat

/-! ## Whole numbers -/

theorem splitSign_cases (cs : List Char) :
    (∃ ds, cs = '-' :: ds ∧ Decimal.splitSign cs = (true, ds)) ∨
      (∃ ds, cs = '+' :: ds ∧ Decimal.splitSign cs = (false, ds)) ∨
        (cs.head? ≠ some '-' ∧ cs.head? ≠ some '+' ∧ Decimal.splitSign cs = (false, cs)) := by
  unfold Decimal.splitSign
  split
  · exact Or.inl ⟨_, rfl, rfl⟩
  · exact Or.inr (Or.inl ⟨_, rfl, rfl⟩)
  · rename_i hminus hplus
    refine Or.inr (Or.inr ⟨fun h => ?_, fun h => ?_, rfl⟩)
    · obtain ⟨ds, rfl⟩ := List.head?_eq_some_iff.1 h
      exact hminus ds rfl
    · obtain ⟨ds, rfl⟩ := List.head?_eq_some_iff.1 h
      exact hplus ds rfl

/-- What is read as a whole number is digits behind an optional sign. -/
theorem readInt?_eq_some {cs : List Char} {n : Int} (h : Decimal.readInt? cs = some n) :
    (Decimal.splitSign cs).2 ≠ [] ∧ (∀ c ∈ (Decimal.splitSign cs).2, c.isDigit = true) ∧
      n = if (Decimal.splitSign cs).1 then -(natOfDigits (Decimal.splitSign cs).2 : Int)
        else natOfDigits (Decimal.splitSign cs).2 := by
  unfold Decimal.readInt? at h
  generalize Decimal.splitSign cs = signed at h ⊢
  obtain ⟨negative, ds⟩ := signed
  dsimp only at h ⊢
  split at h
  · cases h
  · rename_i hdigits
    simp only [Bool.or_eq_true, List.isEmpty_iff, Bool.not_eq_true', not_or,
      Bool.not_eq_false] at hdigits
    refine ⟨hdigits.1, List.all_eq_true.1 hdigits.2, ?_⟩
    split at h <;> cases h <;> rename_i hsign <;> simp [hsign]

theorem toList_toString_nat (n : Nat) : (toString n).toList = digitsOfNat n := by
  rw [show toString n = n.repr from rfl, Nat.repr, String.toList_ofList]
  rfl

theorem toList_toString_ofNat (m : Nat) : (toString (Int.ofNat m)).toList = digitsOfNat m :=
  toList_toString_nat m

theorem toList_toString_negSucc (m : Nat) :
    (toString (Int.negSucc m)).toList = '-' :: digitsOfNat (m + 1) := by
  rw [show toString (Int.negSucc m) = "-" ++ toString (m + 1) from rfl, String.toList_append,
    toList_toString_nat]
  rfl

/-- Only numbers other than zero have a minus. -/
theorem minus_toString_iff (ds : List Char) (m : Nat) :
    '-' :: ds = (toString (-(m : Int))).toList ↔ m ≠ 0 ∧ ds = digitsOfNat m := by
  cases m with
  | zero =>
    have hprint : (toString (-((0 : Nat) : Int))).toList = ['0'] := rfl
    rw [hprint]
    exact ⟨fun h => (by cases h), fun h => absurd rfl h.1⟩
  | succ k =>
    have hprint : (toString (-((k + 1 : Nat) : Int))).toList = '-' :: digitsOfNat (k + 1) :=
      toList_toString_negSucc k
    rw [hprint, List.cons.injEq]
    exact ⟨fun h => ⟨Nat.succ_ne_zero k, h.2⟩, fun h => ⟨rfl, h.2⟩⟩

/-- A whole number in its usual digits: with no plus, with no zeros in front, and zero with no
minus. -/
structure UsualInt (v : String) : Prop where
  plus : v.toList.head? ≠ some '+'
  zeros : Usual (Decimal.splitSign v.toList).2
  zero : v ≠ "-0"

/-- A whole number is printed again just in its usual digits. -/
theorem usualInt_iff {v : String} {n : Int} (h : Decimal.readInt? v.toList = some n) :
    UsualInt v ↔ v = toString n := by
  obtain ⟨hne, hdigits, hn⟩ := readInt?_eq_some h
  rw [← String.toList_inj]
  rcases splitSign_cases v.toList with
    ⟨ds, hds, hsplit⟩ | ⟨ds, hds, hsplit⟩ | ⟨hminus, hplus, hsplit⟩
  · -- behind a minus
    rw [hsplit] at hne hdigits hn
    dsimp only at hne hdigits hn
    have husual := eq_digitsOfNat_iff hne hdigits
    rw [hn, hds, if_pos rfl, minus_toString_iff]
    constructor
    · intro hv
      have hzeros := hv.zeros
      rw [hsplit] at hzeros
      have hself := husual.2 hzeros
      refine ⟨fun h0 => hv.zero ?_, hself⟩
      rw [← String.toList_inj, hds, hself, h0]
      rfl
    · rintro ⟨hpos, hself⟩
      refine ⟨by simp [hds], hsplit ▸ husual.1 hself, ?_⟩
      rintro rfl
      cases hds
      exact hpos rfl
  · -- behind a plus
    refine ⟨fun hv => absurd (by rw [hds]; rfl) hv.plus, fun hself => ?_⟩
    have hsign := hself.symm.trans hds
    rw [hn, hsplit] at hsign
    have hplus : '+' ∈ digitsOfNat (natOfDigits ds) := by
      rw [← toList_toString_ofNat]
      exact hsign ▸ List.mem_cons_self
    exact absurd (isDigit_of_mem_digitsOfNat hplus) (by decide)
  · -- with no sign
    rw [hsplit] at hne hdigits hn
    have hprint : (toString n).toList = digitsOfNat (natOfDigits v.toList) := by
      rw [hn]
      exact toList_toString_ofNat _
    rw [hprint, eq_digitsOfNat_iff hne hdigits]
    refine ⟨fun hv => hsplit ▸ hv.zeros, fun husual => ⟨hplus, hsplit.symm ▸ husual, fun h0 => ?_⟩⟩
    exact hminus (by rw [h0]; rfl)

/-! ## What a value stands for -/

/-- A text that is printed again as it is: a truth value in lower case, a whole number in its usual
digits, another number in the fewest digits that read back, or no such thing at all. -/
structure Verbatim (v : String) : Prop where
  truth : lowerAscii v ∈ ["true", "false"] → v ∈ ["true", "false"]
  int : (readInt64? v.toList).isSome = true → UsualInt v
  real : ∀ x, readInt64? v.toList = none → Real64.read? v.toList = some x → v = x.toText

/-- What is no number is verbatim unless it is a truth value with capitals. -/
theorem Verbatim.of_no_number {v : String} (hint : readInt64? v.toList = none)
    (hreal : Real64.read? v.toList = none)
    (htruth : lowerAscii v ∈ ["true", "false"] → v ∈ ["true", "false"]) : Verbatim v where
  truth := htruth
  int h := by
    rw [hint] at h
    cases h
  real x _ h := by
    rw [hreal] at h
    cases h

theorem verbatim_true : Verbatim "true" :=
  .of_no_number (by decide +kernel) (by decide +kernel) fun _ => by decide

theorem verbatim_false : Verbatim "false" :=
  .of_no_number (by decide +kernel) (by decide +kernel) fun _ => by decide

/-- A variable's value is printed as some text, and as itself just if it is verbatim. -/
theorem text?_ofVariable (v : String) :
    ∃ s, (Setting.ofVariable v).text? = some s ∧ (s = v ↔ Verbatim v) := by
  unfold Setting.ofVariable
  dsimp only
  by_cases htrue : lowerAscii v = "true"
  · rw [if_pos htrue]
    refine ⟨"true", rfl, fun h => h ▸ verbatim_true, fun h => ?_⟩
    have hv := h.truth (by simp [htrue])
    simp only [List.mem_cons, List.not_mem_nil, or_false] at hv
    rcases hv with rfl | rfl
    · rfl
    · exact absurd htrue (by decide +kernel)
  rw [if_neg htrue]
  by_cases hfalse : lowerAscii v = "false"
  · rw [if_pos hfalse]
    refine ⟨"false", rfl, fun h => h ▸ verbatim_false, fun h => ?_⟩
    have hv := h.truth (by simp [hfalse])
    simp only [List.mem_cons, List.not_mem_nil, or_false] at hv
    rcases hv with rfl | rfl
    · exact absurd hfalse (by decide +kernel)
    · rfl
  rw [if_neg hfalse]
  have htruth : lowerAscii v ∈ ["true", "false"] → v ∈ ["true", "false"] := by
    simp [htrue, hfalse]
  cases hint : readInt64? v.toList with
  | some n =>
    have husual := usualInt_iff (Option.filter_eq_some_iff.1 hint).1
    refine ⟨toString n, rfl, fun h => ⟨htruth, fun _ => husual.2 h.symm, fun x hnone => ?_⟩,
      fun h => (husual.1 (h.int (by rw [hint]; rfl))).symm⟩
    rw [hint] at hnone
    cases hnone
  | none =>
    cases hreal : Real64.read? v.toList with
    | some x =>
      refine ⟨x.toText, rfl, fun h => ⟨htruth, fun hsome => ?_, fun y _ hy => ?_⟩,
        fun h => (h.real x hint hreal).symm⟩
      · rw [hint] at hsome
        cases hsome
      · rw [hreal] at hy
        cases hy
        exact h.symm
    | none => exact ⟨v, rfl, fun _ => .of_no_number hint hreal htruth, fun _ => rfl⟩

/-! ## What is verbatim -/

/-- A word that is a truth value, or a number without digits. -/
def IsWord (v : String) : Prop :=
  lowerAscii v ∈ ["true", "false"] ∨
    (Decimal.splitSign v.toList).2.map Char.toLower ∈
      ["nan".toList, "inf".toList, "infinity".toList]

theorem span_of_none {p : Char → Bool} {cs : List Char} (h : ∀ c ∈ cs, p c = false) :
    cs.span p = ([], cs) := by
  cases cs with
  | nil => rfl
  | cons c cs =>
    rw [List.span_eq_takeWhile_dropWhile, List.takeWhile_cons_of_neg, List.dropWhile_cons_of_neg]
    · simp [h c List.mem_cons_self]
    · simp [h c List.mem_cons_self]

theorem mem_of_mem_splitSign {cs : List Char} {c : Char} (h : c ∈ (Decimal.splitSign cs).2) :
    c ∈ cs := by
  unfold Decimal.splitSign at h
  split at h
  · exact List.mem_cons_of_mem _ h
  · exact List.mem_cons_of_mem _ h
  · exact h

/-- **Only what looks like a truth value or a number is changed**: a text without digits is
verbatim, but for a few words. -/
theorem verbatim_of_letters {v : String} (hdigits : ∀ c ∈ v.toList, c.isDigit = false)
    (hword : ¬ IsWord v) : Verbatim v := by
  rw [IsWord, not_or] at hword
  obtain ⟨htruth, hname⟩ := hword
  have hbody : ∀ c ∈ (Decimal.splitSign v.toList).2, c.isDigit = false := fun c hc =>
    hdigits c (mem_of_mem_splitSign hc)
  have hint : readInt64? v.toList = none := by
    have hnone : Decimal.readInt? v.toList = none := by
      unfold Decimal.readInt?
      generalize Decimal.splitSign v.toList = signed at hbody ⊢
      obtain ⟨negative, ds⟩ := signed
      cases ds with
      | nil => rfl
      | cons d ds => exact if_pos (by simp [hbody d List.mem_cons_self])
    rw [readInt64?, hnone]
    rfl
  have hreal : Real64.read? v.toList = none := by
    have hdecimal : Decimal.read? v.toList = none := by
      unfold Decimal.read?
      generalize Decimal.splitSign v.toList = signed at hbody ⊢
      obtain ⟨negative, ds⟩ := signed
      dsimp only at hbody ⊢
      rw [span_of_none hbody]
      dsimp only
      split
      · rename_i r
        rw [span_of_none fun c hc => hbody c (List.mem_cons_of_mem _ hc)]
        rfl
      · rfl
    unfold Real64.read? Real64.ofName?
    simp only [List.mem_cons, List.not_mem_nil, or_false, not_or] at hname
    generalize Decimal.splitSign v.toList = signed at hname ⊢
    obtain ⟨negative, body⟩ := signed
    dsimp only at hname ⊢
    rw [if_neg hname.1, if_neg (by simpa using hname.2), hdecimal]
    rfl
  exact .of_no_number hint hreal fun h => absurd h htruth

theorem toLower_of_isDigit {c : Char} (h : c.isDigit = true) : c.toLower = c := by
  unfold Char.toLower
  rw [dif_neg]
  simp only [Char.isDigit, Bool.and_eq_true, decide_eq_true_eq] at h
  intro hupper
  have h1 : c.val.toNat ≤ 57 := h.2
  have h2 : 65 ≤ c.val.toNat := hupper.1
  omega

/-- No word for a truth value has a digit. -/
theorem not_truth_of_digit {v : String} {c : Char} (hc : c ∈ v.toList) (h : c.isDigit = true) :
    lowerAscii v ∉ ["true", "false"] := by
  have hmem : c ∈ (lowerAscii v).toList := by
    rw [lowerAscii, String.toList_ofList]
    exact List.mem_map.2 ⟨c, hc, toLower_of_isDigit h⟩
  intro hv
  have hletters : (lowerAscii v).toList.all (fun d => !d.isDigit) = true := by
    simp only [List.mem_cons, List.not_mem_nil, or_false] at hv
    rcases hv with hv | hv
    · rw [hv]
      decide +kernel
    · rw [hv]
      decide +kernel
  have hc := List.all_eq_true.1 hletters c hmem
  rw [h] at hc
  cases hc

/-- **Whole numbers of 64 bits are verbatim just in their usual digits.** -/
theorem verbatim_iff_usualInt {v : String} {n : Int} (h : readInt64? v.toList = some n) :
    Verbatim v ↔ UsualInt v := by
  refine ⟨fun hv => hv.int (by rw [h]; rfl), fun husual => ⟨fun htruth => ?_, fun _ => husual, ?_⟩⟩
  · obtain ⟨hne, hdigits, -⟩ := readInt?_eq_some (Option.filter_eq_some_iff.1 h).1
    have hhead := List.head_mem hne
    exact absurd htruth (not_truth_of_digit (mem_of_mem_splitSign hhead) (hdigits _ hhead))
  · intro x hnone
    rw [h] at hnone
    cases hnone

end ClusterLock
