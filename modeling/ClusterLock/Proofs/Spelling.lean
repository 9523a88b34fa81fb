import ClusterLock.Json.Printer
import ClusterLock.Json.Shape
import Mathlib.Data.List.TakeDrop
import Mathlib.Data.List.TakeWhile

/-
  JSON values and their texts. `Json.tokens` are the parts of a value's text, and `Spaced` texts
  are those that have blanks between the parts. `scanValue_spaced` reads a spaced text from the
  left: it gives the value's draft and leaves what follows. `Spells` says that a text holds one
  value and nothing else; `spells_of_spaced` and `spells_render` say that the texts of a value do,
  `run_of_spells` that a reader gets from such a text what it gets from the value itself.
-/
namespace ClusterLock

/-! ## Digits -/

theorem isDigit_of_mem_digitsOfNat {n : Nat} {c : Char} (h : c ∈ digitsOfNat n) :
    c.isDigit = true :=
  Nat.isDigit_of_mem_toDigits (by decide) (by decide) h

theorem digitsOfNat_ne_nil (n : Nat) : digitsOfNat n ≠ [] := Nat.toDigits_ne_nil

theorem foldl_digits {ds : List Char} (h : ∀ c ∈ ds, c.isDigit = true) (n : Nat) :
    ds.foldl (fun n c => 10 * n + (digit? c).getD 0) n = Nat.ofDigitChars 10 ds n := by
  induction ds generalizing n with
  | nil => rfl
  | cons c ds ih =>
    have hc : digit? c = some (c.toNat - '0'.toNat) := if_pos (h c List.mem_cons_self)
    rw [List.foldl_cons, Nat.ofDigitChars_cons, hc]
    exact ih (fun c' h' => h c' (List.mem_cons_of_mem _ h')) _

theorem natOfDigits_digitsOfNat (n : Nat) : natOfDigits (digitsOfNat n) = n := by
  rw [natOfDigits, foldl_digits fun c h => isDigit_of_mem_digitsOfNat h]
  exact Nat.ofDigitChars_ten_toDigits

/-- Only the digits of zero begin with a zero. -/
theorem head_digitsOfNat {n : Nat} (h : (digitsOfNat n).head? = some '0') :
    digitsOfNat n = ['0'] := by
  induction n using Nat.strongRecOn with
  | ind n ih =>
    unfold digitsOfNat at *
    by_cases hn : n < 10
    · rw [Nat.toDigits_of_lt_base hn] at h ⊢
      exact congrArg (fun c => [c]) (Option.some.inj h)
    · rw [Nat.toDigits_of_base_le (by decide) (Nat.le_of_not_lt hn)] at h ⊢
      exfalso
      have hhead : (Nat.toDigits 10 (n / 10)).head? = some '0' := by
        cases hd : Nat.toDigits 10 (n / 10) with
        | nil => exact absurd hd Nat.toDigits_ne_nil
        | cons d ds =>
          rw [hd] at h
          exact h
      have hz := ih (n / 10) (Nat.div_lt_self (by omega) (by decide)) hhead
      have hd := natOfDigits_digitsOfNat (n / 10)
      unfold digitsOfNat at hd
      rw [hz] at hd
      have h0 : natOfDigits ['0'] = 0 := by decide
      omega

/-! ## Numbers -/

/-- The text that follows does not go on with a number. -/
def NumberEnd (cs : List Char) : Prop :=
  ∀ c, cs.head? = some c → c.isDigit = false ∧ c ≠ '.' ∧ c ≠ 'e' ∧ c ≠ 'E'

/-- Characters of a class are taken as far as the first that is not of it. -/
theorem span_of_class {p : Char → Bool} {cs rest : List Char} (h : ∀ c ∈ cs, p c = true)
    (hr : ∀ c, rest.head? = some c → p c = false) : (cs ++ rest).span p = (cs, rest) := by
  rw [List.span_eq_takeWhile_dropWhile, List.takeWhile_append_of_pos h,
    List.dropWhile_append_of_pos h]
  cases rest with
  | nil => simp
  | cons c rest =>
    have hc := hr c rfl
    rw [List.takeWhile_cons_of_neg (by simp [hc]), List.dropWhile_cons_of_neg (by simp [hc]),
      List.append_nil]

theorem span_digitsOfNat (n : Nat) (rest : List Char)
    (hr : ∀ c, rest.head? = some c → c.isDigit = false) :
    (digitsOfNat n ++ rest).span Char.isDigit = (digitsOfNat n, rest) :=
  span_of_class (fun _ h => isDigit_of_mem_digitsOfNat h) hr

/-- A numeral that is written as a plain integer has no scale. -/
def Numeral.Plain (n : Numeral) : Prop := n.integral = true → n.decimal.scale = 0

theorem scanExponent_digits (e : Int) {rest : List Char} (hr : NumberEnd rest) :
    scanExponent ((if e < 0 then '-' :: digitsOfNat e.natAbs else digitsOfNat e.natAbs) ++ rest) =
      .ok (e, rest) := by
  have hspan := span_digitsOfNat e.natAbs rest fun c hc => (hr c hc).1
  have hne : (digitsOfNat e.natAbs).isEmpty = false := by
    rw [List.isEmpty_eq_false_iff]
    exact digitsOfNat_ne_nil _
  by_cases he : e < 0
  · rw [if_pos he, List.cons_append]
    simp only [scanExponent, Decimal.splitSign, hspan, hne, natOfDigits_digitsOfNat]
    have hneg : -(e.natAbs : Int) = e := by omega
    simp only [Bool.false_eq_true, if_true, if_false, hneg]
  · rw [if_neg he]
    have hsign : Decimal.splitSign (digitsOfNat e.natAbs ++ rest) =
        (false, digitsOfNat e.natAbs ++ rest) := by
      cases hd : digitsOfNat e.natAbs with
      | nil => exact absurd hd (digitsOfNat_ne_nil _)
      | cons d ds =>
        have hdig : d.isDigit = true := isDigit_of_mem_digitsOfNat (by rw [hd]; simp)
        have h1 : d ≠ '-' := by rintro rfl; revert hdig; decide
        have h2 : d ≠ '+' := by rintro rfl; revert hdig; decide
        rw [List.cons_append]
        unfold Decimal.splitSign
        split
        · rename_i heq
          exact absurd (List.cons.inj heq).1 h1
        · rename_i heq
          exact absurd (List.cons.inj heq).1 h2
        · rfl
    simp only [scanExponent, hsign, hspan, hne, natOfDigits_digitsOfNat]
    have : (e.natAbs : Int) = e := by omega
    simp [this]

/-- The text of a numeral less its sign. -/
def Numeral.unsigned (n : Numeral) : List Char :=
  if n.integral then digitsOfNat n.decimal.digits
  else digitsOfNat n.decimal.digits ++ 'e' :: (if n.decimal.scale < 0
    then '-' :: digitsOfNat n.decimal.scale.natAbs else digitsOfNat n.decimal.scale.natAbs)

theorem Numeral.render_eq (n : Numeral) :
    n.render = if n.decimal.negative then '-' :: n.unsigned else n.unsigned := rfl

theorem Numeral.unsigned_head (n : Numeral) : ∃ c t, n.unsigned = c :: t ∧ c.isDigit = true := by
  cases hd : digitsOfNat n.decimal.digits with
  | nil => exact absurd hd (digitsOfNat_ne_nil _)
  | cons d ds =>
    have hdig : d.isDigit = true := isDigit_of_mem_digitsOfNat (by rw [hd]; simp)
    unfold Numeral.unsigned
    rw [hd]
    split
    · exact ⟨d, ds, rfl, hdig⟩
    · exact ⟨d, _, rfl, hdig⟩

theorem ne_of_isDigit {c d : Char} (hc : c.isDigit = true) (hd : d.isDigit = false) : c ≠ d := by
  rintro rfl
  rw [hc] at hd
  cases hd

/-- A run of digits that a number may begin with. -/
theorem mayBegin_digitsOfNat (n : Nat) :
    ((digitsOfNat n).isEmpty ||
      ((digitsOfNat n).head? == some '0' && decide (1 < (digitsOfNat n).length))) = false := by
  have hne : (digitsOfNat n).isEmpty = false := by
    rw [List.isEmpty_eq_false_iff]
    exact digitsOfNat_ne_nil _
  rw [hne, Bool.false_or]
  by_cases h : (digitsOfNat n).head? = some '0'
  · rw [head_digitsOfNat h]
    rfl
  · simp [h]

theorem scanNumber_unsigned {n : Numeral} (hp : n.Plain) {rest : List Char}
    (hr : NumberEnd rest) :
    scanNumber n.decimal.negative (n.unsigned ++ rest) = (.number n, some rest) := by
  obtain ⟨⟨negative, digits, scale⟩, integral⟩ := n
  cases integral with
  | true =>
    have hs : scale = 0 := hp rfl
    subst hs
    have hspan := span_digitsOfNat digits rest fun c hc => (hr c hc).1
    simp only [Numeral.unsigned, if_true, scanNumber, hspan, mayBegin_digitsOfNat,
      Bool.false_eq_true, if_false]
    have hnumber : Decimal.ofParts negative (digitsOfNat digits) [] 0 = ⟨negative, digits, 0⟩ := by
      simp [Decimal.ofParts, natOfDigits_digitsOfNat]
    cases rest with
    | nil => simp [hnumber]
    | cons c rest =>
      obtain ⟨-, h1, h2, h3⟩ := hr c rfl
      split
      · rename_i heq
        exact absurd (List.cons.inj heq).1 h1
      · simp [h2, h3, hnumber]
  | false =>
    have hspan := span_digitsOfNat digits ('e' :: ((if scale < 0
      then '-' :: digitsOfNat scale.natAbs else digitsOfNat scale.natAbs) ++ rest))
      fun c hc => by cases hc; rfl
    simp only [Numeral.unsigned, Bool.false_eq_true, if_false, List.append_assoc,
      List.cons_append, scanNumber, hspan, mayBegin_digitsOfNat]
    simp [Decimal.ofParts, natOfDigits_digitsOfNat, scanExponent_digits scale hr]

/-! ## Quoted texts -/

theorem hexValue?_hexDigit : ∀ n, n < 16 → hexValue? (hexDigit n) = some n := by decide

theorem hex4?_escape {n : Nat} (h : n < 0x20) :
    hex4? '0' '0' (hexDigit (n / 16)) (hexDigit (n % 16)) = some n := by
  have h1 := hexValue?_hexDigit (n / 16) (by omega)
  have h2 := hexValue?_hexDigit (n % 16) (by omega)
  have h0 : hexValue? '0' = some 0 := rfl
  simp only [hex4?, h0, h1, h2]
  show some _ = _
  congr 1
  omega

/-- An escaped character is read as the character. -/
theorem scanQuoted_escape (c : Char) (cs : List Char) :
    scanQuoted (Json.escape c ++ cs) = (scanQuoted cs).cons c := by
  unfold Json.escape
  split
  · rename_i h
    subst h
    rfl
  split
  · rename_i h
    subst h
    rfl
  split
  · rename_i h
    subst h
    rfl
  split
  · rename_i h
    subst h
    rfl
  split
  · rename_i h
    subst h
    rfl
  split
  · rename_i h
    subst h
    rfl
  split
  · rename_i h
    subst h
    rfl
  split
  · rename_i h
    have hhex := hex4?_escape h
    have hlow : isLowSurrogate c.toNat = false := by
      simp only [isLowSurrogate, Bool.and_eq_false_iff, decide_eq_false_iff_not]
      omega
    have hhigh : isHighSurrogate c.toNat = false := by
      simp only [isHighSurrogate, Bool.and_eq_false_iff, decide_eq_false_iff_not]
      omega
    simp only [List.cons_append, List.nil_append]
    rw [scanQuoted]
    simp [hhex, hlow, hhigh, Char.ofNat_toNat]
  · rename_i h1 h2 _ _ _ _ _ h3
    rw [List.singleton_append]
    rw [scanQuoted.eq_def]
    split
    · rename_i heq
      cases heq
    · rename_i heq
      exact absurd (List.cons.inj heq).1 h1
    all_goals first
      | exact absurd (List.cons.inj (by assumption)).1 h2
      | skip
    rename_i heq
    cases heq
    rw [if_neg h3]

theorem scanQuoted_escapes (cs rest : List Char) :
    scanQuoted (cs.flatMap Json.escape ++ '"' :: rest) = .whole (.ok cs) rest := by
  induction cs with
  | nil => rfl
  | cons c cs ih =>
    rw [List.flatMap_cons, List.append_assoc, scanQuoted_escape, ih]
    rfl

/-! ## The parts of a text -/

mutual

/-- The parts of the text of a value: between any two of them there may be blanks. -/
def Json.tokens : Json → List (List Char)
  | .array items => ['['] :: (itemTokens true items ++ [[']']])
  | .object members => ['\x7b'] :: (memberTokens true members ++ [['\x7d']])
  | v => [v.render]

/-- The items of an array from one of them on. -/
def itemTokens (first : Bool) : List Json → List (List Char)
  | [] => []
  | v :: items => (if first then [] else [[',']]) ++ (v.tokens ++ itemTokens false items)

/-- The members of an object from one of them on. -/
def memberTokens (first : Bool) : List (String × Json) → List (List Char)
  | [] => []
  | (k, v) :: members => (if first then [] else [[',']]) ++
      (Json.quote k :: [':'] :: (v.tokens ++ memberTokens false members))

end

mutual

/-- The parts without blanks are the compact text. -/
theorem flatten_tokens (v : Json) : v.tokens.flatten = v.render := by
  cases v with
  | array items => simp [Json.tokens, Json.render, flatten_itemTokens items]
  | object members => simp [Json.tokens, Json.render, flatten_memberTokens members]
  | null => simp [Json.tokens]
  | bool b => simp [Json.tokens]
  | number n => simp [Json.tokens]
  | text s => simp [Json.tokens]

theorem flatten_itemTokens (items : List Json) :
    (itemTokens true items).flatten = Json.renderItems items := by
  match items with
  | [] => rfl
  | [v] => simp [itemTokens, Json.renderItems, flatten_tokens v]
  | v :: w :: items =>
    have h := flatten_itemTokens (w :: items)
    simp only [itemTokens, if_true, List.nil_append] at h
    simp only [itemTokens, if_true, List.nil_append, List.flatten_append, flatten_tokens v,
      Json.renderItems]
    rw [← h]
    simp

theorem flatten_memberTokens (members : List (String × Json)) :
    (memberTokens true members).flatten = Json.renderMembers members := by
  match members with
  | [] => rfl
  | [(k, v)] => simp [memberTokens, Json.renderMembers, flatten_tokens v]
  | (k, v) :: (k', w) :: members =>
    have h := flatten_memberTokens ((k', w) :: members)
    simp only [memberTokens, if_true, List.nil_append] at h
    simp only [memberTokens, if_true, List.nil_append, List.flatten_cons, List.flatten_append,
      flatten_tokens v, Json.renderMembers]
    rw [← h]
    simp

end

/-- The text consists of these parts with blanks before, between and after them. -/
def Spaced : List (List Char) → List Char → Prop
  | [], cs => cs.all isBlank = true
  | t :: ts, cs => ∃ blanks rest, blanks.all isBlank = true ∧ cs = blanks ++ (t ++ rest) ∧
      Spaced ts rest

theorem spaced_flatten (ts : List (List Char)) : Spaced ts ts.flatten := by
  induction ts with
  | nil => rfl
  | cons t ts ih => exact ⟨[], ts.flatten, rfl, rfl, ih⟩

theorem skipBlanks_append {blanks : List Char} (h : blanks.all isBlank = true) {c : Char}
    (hc : isBlank c = false) (cs : List Char) : skipBlanks (blanks ++ c :: cs) = c :: cs := by
  rw [List.all_eq_true] at h
  rw [skipBlanks, List.dropWhile_append_of_pos h, List.dropWhile_cons_of_neg (by simp [hc])]

/-- Behind the blanks stands the first part. -/
theorem Spaced.first {c : Char} {t : List Char} {ts : List (List Char)} {cs : List Char}
    (h : Spaced ((c :: t) :: ts) cs) (hc : isBlank c = false) :
    ∃ rest, skipBlanks cs = c :: (t ++ rest) ∧ Spaced ts rest ∧
      t.length + rest.length < cs.length := by
  obtain ⟨blanks, rest, hb, rfl, hr⟩ := h
  refine ⟨rest, skipBlanks_append hb hc _, hr, ?_⟩
  simp only [List.cons_append, List.length_append, List.length_cons]
  omega

/-- What follows a value: nothing, a comma or a closing bracket. -/
def Follows (ts : List (List Char)) : Prop :=
  ∀ t, ts.head? = some t → t = [','] ∨ t = [']'] ∨ t = ['\x7d']

theorem Follows.numberEnd {ts : List (List Char)} (hts : Follows ts) {cs : List Char}
    (h : Spaced ts cs) : NumberEnd cs := by
  have hblank : ∀ c, isBlank c = true → c.isDigit = false ∧ c ≠ '.' ∧ c ≠ 'e' ∧ c ≠ 'E' := by
    intro c hc
    simp only [isBlank, Bool.or_eq_true, decide_eq_true_eq] at hc
    rcases hc with ((rfl | rfl) | rfl) | rfl <;> decide
  intro c hc
  cases ts with
  | nil =>
    have hall : cs.all isBlank = true := h
    rw [List.all_eq_true] at hall
    exact hblank c (hall c (List.mem_of_head? hc))
  | cons t ts =>
    obtain ⟨blanks, rest, hb, rfl, -⟩ := h
    cases blanks with
    | cons b blanks =>
      cases hc
      rw [List.all_cons, Bool.and_eq_true] at hb
      exact hblank _ hb.1
    | nil =>
      rcases hts t rfl with rfl | rfl | rfl
      all_goals
        cases hc
        decide

/-! ## Reading a spaced text -/

mutual

/-- Every numeral in the value is plain. -/
def Json.Plain : Json → Prop
  | .number n => n.Plain
  | .array items => PlainItems items
  | .object members => PlainMembers members
  | _ => True

def PlainItems : List Json → Prop
  | [] => True
  | v :: items => v.Plain ∧ PlainItems items

def PlainMembers : List (String × Json) → Prop
  | [] => True
  | (_, v) :: members => v.Plain ∧ PlainMembers members

end

theorem scanWord_self (d : Draft) (word rest : List Char) :
    scanWord d word (word ++ rest) = (d, some rest) := by
  induction word with
  | nil => rfl
  | cons c word ih => rw [List.cons_append, scanWord, if_pos rfl, ih]

/-- A value's first part begins with a character that is no blank, comma or closing bracket. -/
theorem Json.tokens_head (v : Json) :
    ∃ c t ts, v.tokens = (c :: t) :: ts ∧ isBlank c = false ∧ c ≠ ']' ∧ c ≠ '\x7d' ∧ c ≠ ',' := by
  cases v with
  | null => exact ⟨'n', "ull".toList, [], rfl, rfl, by decide, by decide, by decide⟩
  | bool b =>
    cases b with
    | false => exact ⟨'f', "alse".toList, [], rfl, rfl, by decide, by decide, by decide⟩
    | true => exact ⟨'t', "rue".toList, [], rfl, rfl, by decide, by decide, by decide⟩
  | text s => exact ⟨'"', _, [], rfl, rfl, by decide, by decide, by decide⟩
  | array items => exact ⟨'[', [], _, rfl, rfl, by decide, by decide, by decide⟩
  | object members => exact ⟨'\x7b', [], _, rfl, rfl, by decide, by decide, by decide⟩
  | number n =>
    obtain ⟨c, t, hc, hdig⟩ := n.unsigned_head
    cases hneg : n.decimal.negative with
    | true =>
      refine ⟨'-', n.unsigned, [], ?_, rfl, by decide, by decide, by decide⟩
      simp [Json.tokens, Json.render, n.render_eq, hneg]
    | false =>
      have hne : ∀ d : Char, d.isDigit = false → c ≠ d := fun d => ne_of_isDigit hdig
      refine ⟨c, t, [], ?_, ?_, hne _ rfl, hne _ rfl, hne _ rfl⟩
      · simp [Json.tokens, Json.render, n.render_eq, hneg, hc]
      · simp [isBlank, hne ' ' rfl, hne '\n' rfl, hne '\t' rfl, hne '\r' rfl]

theorem follows_itemTokens (items : List Json) (ts : List (List Char)) :
    Follows (itemTokens false items ++ [']'] :: ts) := by
  intro t ht
  cases items with
  | nil => exact Or.inr (Or.inl (Option.some.inj ht).symm)
  | cons v items => exact Or.inl (Option.some.inj ht).symm

theorem follows_memberTokens (members : List (String × Json)) (ts : List (List Char)) :
    Follows (memberTokens false members ++ ['\x7d'] :: ts) := by
  intro t ht
  cases members with
  | nil => exact Or.inr (Or.inr (Option.some.inj ht).symm)
  | cons kv members => exact Or.inl (Option.some.inj ht).symm

/-- A number's text, read from its first character. -/
theorem scanValue_number {n : Numeral} (hp : n.Plain) {cs rest : List Char}
    (hcs : skipBlanks cs = n.render ++ rest) (hr : NumberEnd rest) (fuel : Nat) :
    scanValue (fuel + 1) cs = (.number n, some rest) := by
  have hscan := scanNumber_unsigned hp hr
  rw [n.render_eq] at hcs
  rw [scanValue, hcs]
  cases hneg : n.decimal.negative with
  | true =>
    rw [hneg] at hscan
    exact hscan
  | false =>
    rw [hneg] at hscan
    simp only [Bool.false_eq_true, if_false]
    obtain ⟨c, t, hc, hdig⟩ := n.unsigned_head
    rw [hc, List.cons_append] at hscan ⊢
    split
    all_goals first
      | exact absurd (List.cons.inj (by assumption)).1 (ne_of_isDigit hdig rfl)
      | skip
    · rename_i h
      cases h
    · rename_i heq
      cases heq
      rw [if_pos hdig]
      exact hscan

/-- The first item of an array. -/
theorem scanItems_first {fuel : Nat} {cs r rest : List Char} {c : Char} {d : Draft}
    (hcs : skipBlanks cs = c :: r) (hc : c ≠ ']')
    (hv : scanValue fuel (c :: r) = (d, some rest)) :
    scanItems (fuel + 1) true cs =
      ((d :: (scanItems fuel false rest).1.1, (scanItems fuel false rest).1.2),
        (scanItems fuel false rest).2) := by
  rw [scanItems, hcs]
  split
  · rename_i heq
    cases heq
  · rename_i heq
    exact absurd (List.cons.inj heq).1 hc
  · rename_i heq
    cases heq
    simp only [if_true, hv]

/-- A further item of an array, behind its comma. -/
theorem scanItems_next {fuel : Nat} {cs r r' rest : List Char} {c : Char} {d : Draft}
    (hcs : skipBlanks cs = ',' :: r) (hr : skipBlanks r = c :: r') (hc : c ≠ ']')
    (hv : scanValue fuel (c :: r') = (d, some rest)) :
    scanItems (fuel + 1) false cs =
      ((d :: (scanItems fuel false rest).1.1, (scanItems fuel false rest).1.2),
        (scanItems fuel false rest).2) := by
  rw [scanItems, hcs]
  simp [hr, hc, hv]

/-- The first member of an object. -/
theorem scanMembers_first {fuel : Nat} {cs r r' rest rest' : List Char} {key : List Char}
    {d : Draft} (hcs : skipBlanks cs = '"' :: r) (hk : scanQuoted r = .whole (.ok key) r')
    (hr : skipBlanks r' = ':' :: rest) (hv : scanValue fuel rest = (d, some rest')) :
    scanMembers (fuel + 1) true cs =
      (((.ok (String.ofList key), d) :: (scanMembers fuel false rest').1.1,
        (scanMembers fuel false rest').1.2), (scanMembers fuel false rest').2) := by
  rw [scanMembers, hcs]
  simp [hk, hr, hv, Except.map]

/-- A further member of an object, behind its comma. -/
theorem scanMembers_next {fuel : Nat} {cs cs' r r' rest rest' : List Char} {key : List Char}
    {d : Draft} (hcs : skipBlanks cs = ',' :: cs') (hcs' : skipBlanks cs' = '"' :: r)
    (hk : scanQuoted r = .whole (.ok key) r') (hr : skipBlanks r' = ':' :: rest)
    (hv : scanValue fuel rest = (d, some rest')) :
    scanMembers (fuel + 1) false cs =
      (((.ok (String.ofList key), d) :: (scanMembers fuel false rest').1.1,
        (scanMembers fuel false rest').1.2), (scanMembers fuel false rest').2) := by
  rw [scanMembers, hcs]
  simp [hcs', hk, hr, hv, Except.map]

/-- Blanks before a value do not matter. -/
theorem Spaced.value {v : Json} {ts : List (List Char)} {cs : List Char}
    (h : Spaced (v.tokens ++ ts) cs) :
    ∃ c r, skipBlanks cs = c :: r ∧ c ≠ ']' ∧ Spaced (v.tokens ++ ts) (c :: r) ∧
      (c :: r).length ≤ cs.length := by
  obtain ⟨c, t, ts', htok, hc, hne, -⟩ := v.tokens_head
  rw [htok, List.cons_append] at h ⊢
  obtain ⟨rest, hcs, hr, hlen⟩ := h.first hc
  refine ⟨c, t ++ rest, hcs, hne, ⟨[], rest, rfl, rfl, hr⟩, ?_⟩
  simp only [List.length_cons, List.length_append]
  omega

/-- The key of a member, its colon and its value. -/
theorem Spaced.member {k : String} {ts : List (List Char)} {cs : List Char}
    (h : Spaced (Json.quote k :: [':'] :: ts) cs) :
    ∃ r r' rest, skipBlanks cs = '"' :: r ∧ scanQuoted r = .whole (.ok k.toList) r' ∧
      skipBlanks r' = ':' :: rest ∧ Spaced ts rest ∧ rest.length < cs.length := by
  obtain ⟨r', hcs, hr, hlen⟩ :=
    Spaced.first (t := k.toList.flatMap Json.escape ++ ['"']) h rfl
  rw [List.append_assoc, List.singleton_append] at hcs
  obtain ⟨rest, hr', hrest, hlen'⟩ := Spaced.first (t := []) hr rfl
  exact ⟨_, r', rest, hcs, scanQuoted_escapes _ _, hr', hrest, by omega⟩

mutual

/-- A value is read from a spaced text, and what follows it is left. -/
theorem scanValue_spaced (v : Json) (hv : v.Plain) {ts : List (List Char)} (hts : Follows ts)
    {cs : List Char} (h : Spaced (v.tokens ++ ts) cs) (fuel : Nat)
    (hf : 2 * cs.length + 1 ≤ fuel) :
    ∃ rest, scanValue fuel cs = (v.draft, some rest) ∧ Spaced ts rest ∧
      rest.length < cs.length := by
  obtain ⟨fuel, rfl⟩ : ∃ n, fuel = n + 1 := ⟨fuel - 1, by omega⟩
  cases v with
  | null =>
    obtain ⟨rest, hcs, hr, hlen⟩ := Spaced.first (t := "ull".toList) h rfl
    refine ⟨rest, ?_, hr, by omega⟩
    rw [scanValue, hcs]
    exact scanWord_self _ _ _
  | bool b =>
    cases b with
    | false =>
      obtain ⟨rest, hcs, hr, hlen⟩ := Spaced.first (t := "alse".toList) h rfl
      refine ⟨rest, ?_, hr, by omega⟩
      rw [scanValue, hcs]
      exact scanWord_self _ _ _
    | true =>
      obtain ⟨rest, hcs, hr, hlen⟩ := Spaced.first (t := "rue".toList) h rfl
      refine ⟨rest, ?_, hr, by omega⟩
      rw [scanValue, hcs]
      exact scanWord_self _ _ _
  | number n =>
    obtain ⟨c, t, ts', htok, hc, -⟩ := (Json.number n).tokens_head
    have hn : n.render = c :: t := (List.cons.inj htok).1
    have h' : Spaced ((c :: t) :: ts) cs := by
      rw [← hn]
      exact h
    obtain ⟨rest, hcs, hr, hlen⟩ := h'.first hc
    refine ⟨rest, ?_, hr, by omega⟩
    refine scanValue_number hv ?_ (hts.numberEnd hr) fuel
    rw [hcs, hn]
    rfl
  | text s =>
    obtain ⟨rest, hcs, hr, hlen⟩ :=
      Spaced.first (t := s.toList.flatMap Json.escape ++ ['"']) h rfl
    refine ⟨rest, ?_, hr, by omega⟩
    rw [List.append_assoc, List.singleton_append] at hcs
    rw [scanValue, hcs]
    simp only [scanQuoted_escapes, Json.draft]
    show (Draft.text (.ok (String.ofList s.toList)), some rest) = _
    rw [String.ofList_toList]
  | array items =>
    have h' : Spaced (['['] :: (itemTokens true items ++ [']'] :: ts)) cs := by
      simpa [Json.tokens] using h
    obtain ⟨rest, hcs, hr, hlen⟩ := h'.first rfl
    obtain ⟨rest', hscan, hr', hlen'⟩ :=
      scanItems_spaced items hv true hr fuel (by simp at hlen; omega)
    refine ⟨rest', ?_, hr', by omega⟩
    rw [scanValue, hcs]
    simp only [List.nil_append, hscan, Json.draft]
  | object members =>
    have h' : Spaced (['\x7b'] :: (memberTokens true members ++ ['\x7d'] :: ts)) cs := by
      simpa [Json.tokens] using h
    obtain ⟨rest, hcs, hr, hlen⟩ := h'.first rfl
    obtain ⟨rest', hscan, hr', hlen'⟩ :=
      scanMembers_spaced members hv true hr fuel (by simp at hlen; omega)
    refine ⟨rest', ?_, hr', by omega⟩
    rw [scanValue, hcs]
    simp only [List.nil_append, hscan, Json.draft]

theorem scanItems_spaced (items : List Json) (hv : PlainItems items) (first : Bool)
    {ts : List (List Char)} {cs : List Char}
    (h : Spaced (itemTokens first items ++ [']'] :: ts) cs) (fuel : Nat)
    (hf : 2 * cs.length + 2 ≤ fuel) :
    ∃ rest, scanItems fuel first cs = ((draftItems items, none), some rest) ∧ Spaced ts rest ∧
      rest.length < cs.length := by
  obtain ⟨fuel, rfl⟩ : ∃ n, fuel = n + 1 := ⟨fuel - 1, by omega⟩
  cases items with
  | nil =>
    obtain ⟨rest, hcs, hr, hlen⟩ := Spaced.first (t := []) h rfl
    refine ⟨rest, ?_, hr, by omega⟩
    rw [scanItems, hcs]
    rfl
  | cons v items =>
    obtain ⟨hv, hitems⟩ := hv
    have hfollows := follows_itemTokens items ts
    cases first with
    | true =>
      have h' : Spaced (v.tokens ++ (itemTokens false items ++ [']'] :: ts)) cs := by
        simpa [itemTokens] using h
      obtain ⟨c, r, hcs, hc, h', hle⟩ := h'.value
      obtain ⟨rest, hscan, hr, hlen⟩ :=
        scanValue_spaced v hv hfollows h' fuel (by omega)
      obtain ⟨rest', hscan', hr', hlen'⟩ :=
        scanItems_spaced items hitems false hr fuel (by omega)
      refine ⟨rest', ?_, hr', by omega⟩
      rw [scanItems_first hcs hc hscan, hscan']
      rfl
    | false =>
      have h' : Spaced ([','] :: (v.tokens ++ (itemTokens false items ++ [']'] :: ts))) cs := by
        simpa [itemTokens] using h
      obtain ⟨r, hcs, h', hlt⟩ := h'.first rfl
      obtain ⟨c, r', hr', hc, h', hle⟩ := h'.value
      obtain ⟨rest, hscan, hr, hlen⟩ :=
        scanValue_spaced v hv hfollows h' fuel (by omega)
      obtain ⟨rest', hscan', hrest, hlen'⟩ :=
        scanItems_spaced items hitems false hr fuel (by omega)
      refine ⟨rest', ?_, hrest, by omega⟩
      rw [scanItems_next hcs hr' hc hscan, hscan']
      rfl

theorem scanMembers_spaced (members : List (String × Json)) (hv : PlainMembers members)
    (first : Bool) {ts : List (List Char)} {cs : List Char}
    (h : Spaced (memberTokens first members ++ ['\x7d'] :: ts) cs) (fuel : Nat)
    (hf : 2 * cs.length + 2 ≤ fuel) :
    ∃ rest, scanMembers fuel first cs = ((draftMembers members, none), some rest) ∧
      Spaced ts rest ∧ rest.length < cs.length := by
  obtain ⟨fuel, rfl⟩ : ∃ n, fuel = n + 1 := ⟨fuel - 1, by omega⟩
  cases members with
  | nil =>
    obtain ⟨rest, hcs, hr, hlen⟩ := Spaced.first (t := []) h rfl
    refine ⟨rest, ?_, hr, by omega⟩
    rw [scanMembers, hcs]
    rfl
  | cons kv members =>
    obtain ⟨k, v⟩ := kv
    obtain ⟨hv, hmembers⟩ := hv
    have hfollows := follows_memberTokens members ts
    cases first with
    | true =>
      have h' : Spaced (Json.quote k :: [':'] ::
          (v.tokens ++ (memberTokens false members ++ ['\x7d'] :: ts))) cs := by
        simpa [memberTokens] using h
      obtain ⟨r, r', rest, hcs, hk, hr', h', hlt⟩ := h'.member
      obtain ⟨rest', hscan, hr, hlen⟩ :=
        scanValue_spaced v hv hfollows h' fuel (by omega)
      obtain ⟨rest'', hscan', hrest, hlen'⟩ :=
        scanMembers_spaced members hmembers false hr fuel (by omega)
      refine ⟨rest'', ?_, hrest, by omega⟩
      rw [scanMembers_first hcs hk hr' hscan, hscan', String.ofList_toList]
      rfl
    | false =>
      have h' : Spaced ([','] :: Json.quote k :: [':'] ::
          (v.tokens ++ (memberTokens false members ++ ['\x7d'] :: ts))) cs := by
        simpa [memberTokens] using h
      obtain ⟨cs', hcs, h', hlt⟩ := h'.first rfl
      obtain ⟨r, r', rest, hcs', hk, hr', h', hlt'⟩ := h'.member
      obtain ⟨rest', hscan, hr, hlen⟩ :=
        scanValue_spaced v hv hfollows h' fuel (by omega)
      obtain ⟨rest'', hscan', hrest, hlen'⟩ :=
        scanMembers_spaced members hmembers false hr fuel (by omega)
      refine ⟨rest'', ?_, hrest, by omega⟩
      rw [scanMembers_next hcs hcs' hk hr' hscan, hscan', String.ofList_toList]
      rfl

end

/-! ## Texts that hold one value -/

/-- The text holds the value, blanks around it, and nothing else. -/
def Spells (cs : List Char) (v : Json) : Prop :=
  ∃ rest, Draft.ofText cs = (v.draft, some rest) ∧ skipBlanks rest = []

theorem spells_of_spaced {v : Json} (hv : v.Plain) {cs : List Char} (h : Spaced v.tokens cs) :
    Spells cs v := by
  have h' : Spaced (v.tokens ++ []) cs := by rwa [List.append_nil]
  have hnil : Follows [] := fun t ht => by cases ht
  obtain ⟨rest, hscan, hr, -⟩ :=
    scanValue_spaced v hv hnil h' (2 * cs.length + 2) (by omega)
  refine ⟨rest, hscan, ?_⟩
  have hall : ∀ c ∈ rest, isBlank c = true := List.all_eq_true.1 hr
  exact List.dropWhile_eq_nil_iff.2 hall

/-- The compact text of a value holds the value. -/
theorem spells_render {v : Json} (hv : v.Plain) : Spells v.render v := by
  refine spells_of_spaced hv ?_
  rw [← flatten_tokens v]
  exact spaced_flatten v.tokens

theorem spells_of_render {cs : List Char} {v : Json} (hv : v.Plain) (h : v.render = cs) :
    Spells cs v :=
  h ▸ spells_render hv

/-- A reader gets from a text what it gets from the value that the text holds. -/
theorem run_of_spells {α : Type} {cs : List Char} {v : Json} (h : Spells cs v)
    (read : Reader α) : read.run cs = read v.draft := by
  obtain ⟨rest, hscan, hr⟩ := h
  unfold Reader.run
  rw [hscan]
  show (do let a ← read v.draft; if (skipBlanks rest).isEmpty then pure a else _) = _
  rw [hr]
  cases read v.draft with
  | ok a => rfl
  | error e => rfl

end ClusterLock
