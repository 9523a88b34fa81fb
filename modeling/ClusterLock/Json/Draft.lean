import ClusterLock.Json.Fault
import ClusterLock.Json.Value

/-
  JSON texts as far as they can be read. Reading goes from left to right and stops at the first
  fault, which takes the place of what would have stood there; what came before it is kept, so
  that whoever looks at the draft finds its problems in the order of the text. Some faults
  depend on how closely a value is looked at, so a `Flaw` gives both readings: the one of a
  value that is wanted and the one of a value that is passed over.
-/
namespace ClusterLock

/-- A fault where the text is read for its value, and where it is only passed over. -/
structure Flaw where
  strict : Fault
  skimmed : Fault
deriving DecidableEq, Repr

/-- A fault however the text is read. -/
def Flaw.plain (f : Fault) : Flaw := ⟨f, f⟩

/-- A text as written between quotation marks: its value, unless an escape has none. -/
abbrev Written := Except Fault String

inductive Draft
  | null
  | bool (b : Bool)
  | number (n : Numeral)
  | text (s : Written)
  | array (items : List Draft) (stop : Option Flaw)
  | object (members : List (Written × Draft)) (stop : Option Flaw)
  | broken (flaw : Flaw)

instance : Inhabited Draft := ⟨.null⟩

/-- The characters that may stand between the parts of a text. -/
def isBlank (c : Char) : Bool := c = ' ' || c = '\n' || c = '\t' || c = '\r'

def skipBlanks (cs : List Char) : List Char := cs.dropWhile isBlank

/-- The value of a hexadecimal digit. -/
def hexValue? (c : Char) : Option Nat :=
  if c.isDigit then some (c.toNat - '0'.toNat)
  else if 'a' ≤ c ∧ c ≤ 'f' then some (c.toNat - 'a'.toNat + 10)
  else if 'A' ≤ c ∧ c ≤ 'F' then some (c.toNat - 'A'.toNat + 10)
  else none

/-- The value of four hexadecimal digits. -/
def hex4? (a b c d : Char) : Option Nat := do
  let a ← hexValue? a
  let b ← hexValue? b
  let c ← hexValue? c
  let d ← hexValue? d
  pure (((a * 16 + b) * 16 + c) * 16 + d)

def isHighSurrogate (n : Nat) : Bool := 0xD800 ≤ n && n < 0xDC00

def isLowSurrogate (n : Nat) : Bool := 0xDC00 ≤ n && n < 0xE000

/-- The character that two surrogates stand for. -/
def joinSurrogates (high low : Nat) : Char :=
  Char.ofNat (0x10000 + (high - 0xD800) * 0x400 + (low - 0xDC00))

/-- The character that a one-letter escape stands for. -/
def simpleEscape? (c : Char) : Option Char :=
  if c = '"' ∨ c = '\\' ∨ c = '/' then some c
  else if c = 'b' then some '\x08'
  else if c = 'f' then some '\x0c'
  else if c = 'n' then some '\n'
  else if c = 'r' then some '\r'
  else if c = 't' then some '\t'
  else none

/-- What stands after a text's opening mark: the text and the rest, or a fault. -/
inductive Quoted
  | whole (s : Except Fault (List Char)) (rest : List Char)
  | cut (flaw : Flaw)

/-- Adds a character in front, as far as there is a value. -/
def Quoted.cons (c : Char) : Quoted → Quoted
  | whole (.ok s) rest => whole (.ok (c :: s)) rest
  | q => q

/-- Says that there is no value, for the given reason: an earlier one wins over a later one. -/
def Quoted.spoil (f : Fault) : Quoted → Quoted
  | whole _ rest => whole (.error f) rest
  | cut flaw => cut ⟨f, flaw.skimmed⟩

/-- The fault of a `u` that is not followed by four hexadecimal digits: the text ends if fewer
than four bytes are left. -/
def shortHex (cs : List Char) : Quoted :=
  let bytes := cs.foldl (fun n c => n + c.utf8Size) 0
  .cut (.plain (if bytes < 4 then .endOfText else .invalidEscape))

/-- Whether a high surrogate is followed by something that can only be a fault of its own, by
no escape at all, or by an escape that is no low surrogate. -/
def unpaired (rest : List Char) : Option Fault :=
  match rest with
  | '\\' :: 'u' :: a :: b :: c :: d :: _ =>
    match hex4? a b c d with
    | some n => if isLowSurrogate n then none else some .loneSurrogate
    | none => none
  | '\\' :: 'u' :: _ => none
  | ['\\'] => none
  | [] => none
  | _ => some .unfinishedEscape

/-- Reads a text up to its closing mark. -/
def scanQuoted : List Char → Quoted
  | [] => .cut (.plain .endOfText)
  | '"' :: r => .whole (.ok []) r
  | '\\' :: 'u' :: a :: b :: c :: d :: r =>
    match hex4? a b c d with
    | none => shortHex (a :: b :: c :: d :: r)
    | some n =>
      if isLowSurrogate n then (scanQuoted r).spoil .loneSurrogate
      else if isHighSurrogate n then
        match r with
        | '\\' :: 'u' :: a' :: b' :: c' :: d' :: r' =>
          match hex4? a' b' c' d' with
          | some m =>
            if isLowSurrogate m then (scanQuoted r').cons (joinSurrogates n m)
            else (scanQuoted ('\\' :: 'u' :: a' :: b' :: c' :: d' :: r')).spoil .loneSurrogate
          | none => scanQuoted ('\\' :: 'u' :: a' :: b' :: c' :: d' :: r')
        | r =>
          match unpaired r with
          | some f => (scanQuoted r).spoil f
          | none => scanQuoted r
      else (scanQuoted r).cons (Char.ofNat n)
  | '\\' :: 'u' :: r => shortHex r
  | ['\\'] => .cut (.plain .endOfText)
  | '\\' :: c :: r =>
    match simpleEscape? c with
    | some e => (scanQuoted r).cons e
    | none => .cut (.plain .invalidEscape)
  | c :: r =>
    if c.toNat < 0x20 then .cut (.plain .controlCharacter)
    else (scanQuoted r).cons c

/-- A fault of a number that breaks off: the text ends, or something else stands there. -/
def numberFlaw : List Char → Draft
  | [] => .broken ⟨.endOfValue, .invalidNumber⟩
  | _ => .broken (.plain .invalidNumber)

/-- An exponent after its letter: its value and the rest, or the characters that are no digits. -/
def scanExponent (cs : List Char) : Except (List Char) (Int × List Char) :=
  let (negative, cs) := Decimal.splitSign cs
  let (ds, rest) := cs.span Char.isDigit
  if ds.isEmpty then .error rest
  else .ok (if negative then -(natOfDigits ds : Int) else natOfDigits ds, rest)

/-- What has been read and what is left; nothing is left after a fault. -/
abbrev Step (α : Type) := α × Option (List Char)

/-- A number after its sign. -/
def scanNumber (negative : Bool) (cs : List Char) : Step Draft :=
  let (whole, rest) := cs.span Char.isDigit
  if whole.isEmpty || (whole.head? == some '0' && 1 < whole.length) then
    (numberFlaw (if whole.isEmpty then rest else whole), none)
  else
    let exponent (fraction : List Char) (integral : Bool) : List Char → Step Draft
      | c :: r =>
        if c = 'e' ∨ c = 'E' then
          match scanExponent r with
          | .ok (e, rest) =>
            (.number ⟨.ofParts negative whole fraction e, false⟩, some rest)
          | .error rest => (numberFlaw rest, none)
        else (.number ⟨.ofParts negative whole fraction 0, integral⟩, some (c :: r))
      | [] => (.number ⟨.ofParts negative whole fraction 0, integral⟩, some [])
    match rest with
    | '.' :: r =>
      let (fraction, rest) := r.span Char.isDigit
      if fraction.isEmpty then (numberFlaw rest, none) else exponent fraction false rest
    | rest => exponent [] true rest

/-- One of the three words, whose first letter has been read. -/
def scanWord (d : Draft) : List Char → List Char → Step Draft
  | [], rest => (d, some rest)
  | _ :: _, [] => (.broken (.plain .endOfValue), none)
  | w :: word, c :: rest =>
    if w = c then scanWord d word rest else (.broken (.plain .expectedIdent), none)

mutual

/-- A value and what follows it. The fuel bounds the number of values and separators read. -/
def scanValue : Nat → List Char → Step Draft
  | 0, _ => (.broken (.plain .endOfValue), none)
  | fuel + 1, cs =>
    match skipBlanks cs with
    | [] => (.broken (.plain .endOfValue), none)
    | 'n' :: r => scanWord .null "ull".toList r
    | 't' :: r => scanWord (.bool true) "rue".toList r
    | 'f' :: r => scanWord (.bool false) "alse".toList r
    | '"' :: r =>
      match scanQuoted r with
      | .whole s rest => (.text (s.map String.ofList), some rest)
      | .cut flaw => (.broken flaw, none)
    | '[' :: r =>
      match scanItems fuel true r with
      | ((items, stop), rest) => (.array items stop, rest)
    | '{' :: r =>
      match scanMembers fuel true r with
      | ((members, stop), rest) => (.object members stop, rest)
    | '-' :: r => scanNumber true r
    | c :: r =>
      if c.isDigit then scanNumber false (c :: r)
      else (.broken (.plain .expectedValue), none)

/-- The items of an array from one of them on, and what follows the closing bracket. -/
def scanItems : Nat → Bool → List Char → Step (List Draft × Option Flaw)
  | 0, _, _ => (([], some (.plain .endOfList)), none)
  | fuel + 1, first, cs =>
    let next (cs : List Char) : Step (List Draft × Option Flaw) :=
      match scanValue fuel cs with
      | (d, none) => (([d], none), none)
      | (d, some rest) =>
        match scanItems fuel false rest with
        | ((items, stop), rest) => ((d :: items, stop), rest)
    match skipBlanks cs with
    | [] => (([], some (.plain .endOfList)), none)
    | ']' :: rest => (([], none), some rest)
    | c :: r =>
      if first then next (c :: r)
      else if c = ',' then
        match skipBlanks r with
        | ']' :: _ => (([.broken ⟨.trailingComma, .expectedValue⟩], none), none)
        | r => next r
      else (([], some (.plain .expectedListComma)), none)

/-- The members of an object from one of them on, and what follows the closing brace. -/
def scanMembers : Nat → Bool → List Char → Step (List (Written × Draft) × Option Flaw)
  | 0, _, _ => (([], some (.plain .endOfObject)), none)
  | fuel + 1, first, cs =>
    let member (cs : List Char) : Step (List (Written × Draft) × Option Flaw) :=
      match scanQuoted cs with
      | .cut flaw => (([], some flaw), none)
      | .whole key rest =>
        let key := key.map String.ofList
        match skipBlanks rest with
        | [] => (([(key, .broken (.plain .endOfObject))], none), none)
        | ':' :: rest =>
          match scanValue fuel rest with
          | (d, none) => (([(key, d)], none), none)
          | (d, some rest) =>
            match scanMembers fuel false rest with
            | ((members, stop), rest) => (((key, d) :: members, stop), rest)
        | _ => (([(key, .broken (.plain .expectedColon))], none), none)
    match skipBlanks cs with
    | [] => (([], some (.plain .endOfObject)), none)
    | '}' :: rest => (([], none), some rest)
    | c :: r =>
      if first then
        if c = '"' then member r else (([], some (.plain .keyNotText)), none)
      else if c = ',' then
        match skipBlanks r with
        | [] => (([], some ⟨.endOfValue, .endOfObject⟩), none)
        | '"' :: r => member r
        | '}' :: _ => (([], some ⟨.trailingComma, .keyNotText⟩), none)
        | _ => (([], some (.plain .keyNotText)), none)
      else (([], some (.plain .expectedObjectComma)), none)

end

/-- The draft of a text, and what follows the value. -/
def Draft.ofText (cs : List Char) : Step Draft := scanValue (2 * cs.length + 2) cs

mutual

/-- The first fault of a value that is passed over. -/
def Draft.skim : Draft → Option Fault
  | .null | .bool _ | .number _ | .text _ => none
  | .array items stop => skimItems items stop
  | .object members stop => skimMembers members stop
  | .broken flaw => some flaw.skimmed

def skimItems : List Draft → Option Flaw → Option Fault
  | [], stop => stop.map (·.skimmed)
  | d :: items, stop =>
    match d.skim with
    | some f => some f
    | none => skimItems items stop

def skimMembers : List (Written × Draft) → Option Flaw → Option Fault
  | [], stop => stop.map (·.skimmed)
  | (_, d) :: members, stop =>
    match d.skim with
    | some f => some f
    | none => skimMembers members stop

end

mutual

/-- The whole value, or its first fault. Arrays and objects nest at most `depth` deep. -/
def Draft.whole (depth : Nat) : Draft → Except Fault Json
  | .null => .ok .null
  | .bool b => .ok (.bool b)
  | .number n => if n.reading?.isSome then .ok (.number n) else .error .numberOutOfRange
  | .text s => s.map .text
  | .array items stop =>
    if depth = 0 then .error .tooDeep else (wholeItems (depth - 1) items stop).map .array
  | .object members stop =>
    if depth = 0 then .error .tooDeep else (wholeMembers (depth - 1) members stop).map .object
  | .broken flaw => .error flaw.strict

def wholeItems (depth : Nat) : List Draft → Option Flaw → Except Fault (List Json)
  | [], none => .ok []
  | [], some flaw => .error flaw.strict
  | d :: items, stop => do
    let v ← d.whole depth
    let vs ← wholeItems depth items stop
    pure (v :: vs)

def wholeMembers (depth : Nat) :
    List (Written × Draft) → Option Flaw → Except Fault (List (String × Json))
  | [], none => .ok []
  | [], some flaw => .error flaw.strict
  | (key, d) :: members, stop => do
    let k ← key
    let v ← d.whole depth
    let vs ← wholeMembers depth members stop
    pure ((k, v) :: vs)

end

mutual

/-- The draft of a whole value. -/
def Json.draft : Json → Draft
  | .null => .null
  | .bool b => .bool b
  | .number n => .number n
  | .text s => .text (.ok s)
  | .array items => .array (draftItems items) none
  | .object members => .object (draftMembers members) none

def draftItems : List Json → List Draft
  | [] => []
  | v :: items => v.draft :: draftItems items

def draftMembers : List (String × Json) → List (Written × Draft)
  | [] => []
  | (k, v) :: members => (.ok k, v.draft) :: draftMembers members

end

/-- How deep arrays and objects may nest in a value that is read as a whole. -/
def nestingLimit : Nat := 127

end ClusterLock
