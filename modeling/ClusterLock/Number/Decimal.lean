/-
  Decimal numbers as they are written: a sign, the digits read as one whole number, and the
  power of ten that the last digit stands for. `Decimal.read?` is the grammar of settings:
  digits with at most one point, at least one digit in all, and an optional exponent.
-/
namespace ClusterLock

/-- The value of a decimal digit. -/
def digit? (c : Char) : Option Nat :=
  if c.isDigit then some (c.toNat - '0'.toNat) else none

/-- The whole number that a run of digits spells; other characters count as zero. -/
def natOfDigits (cs : List Char) : Nat :=
  cs.foldl (fun n c => 10 * n + (digit? c).getD 0) 0

/-- The digits of a number, most significant first. -/
def digitsOfNat (n : Nat) : List Char := Nat.toDigits 10 n

/-- The number `± digits · 10 ^ scale`. -/
structure Decimal where
  negative : Bool
  digits : Nat
  scale : Int
deriving DecidableEq, Repr

namespace Decimal

/-- The number with the given digits before and after the point. -/
def ofParts (negative : Bool) (whole fraction : List Char) (exponent : Int) : Decimal :=
  ⟨negative, natOfDigits (whole ++ fraction), exponent - fraction.length⟩

/-- A sign and what follows it; no sign means plus. -/
def splitSign : List Char → Bool × List Char
  | '-' :: r => (true, r)
  | '+' :: r => (false, r)
  | cs => (false, cs)

/-- A whole number: an optional sign and digits only. -/
def readInt? (cs : List Char) : Option Int :=
  let (negative, ds) := splitSign cs
  if ds.isEmpty || !ds.all Char.isDigit then none
  else if negative then some (-(natOfDigits ds : Int)) else some (natOfDigits ds)

/-- The exponent part of a number; none written counts as zero. -/
def readExponent? : List Char → Option Int
  | [] => some 0
  | c :: r => if c = 'e' ∨ c = 'E' then readInt? r else none

/-- Digits, at most one point among or around them, and an exponent. -/
def read? (cs : List Char) : Option Decimal :=
  let (negative, cs) := splitSign cs
  let (whole, rest) := cs.span Char.isDigit
  let (fraction, rest) := match rest with
    | '.' :: r => r.span Char.isDigit
    | r => ([], r)
  if whole.isEmpty && fraction.isEmpty then none
  else (readExponent? rest).map (ofParts negative whole fraction)

/-- The digits written out with a point where it belongs and no exponent. -/
def positional (d : Decimal) : String :=
  let ds := digitsOfNat d.digits
  let body :=
    if 0 ≤ d.scale then ds ++ List.replicate d.scale.toNat '0'
    else
      let places := d.scale.natAbs
      let padded := List.replicate (places + 1 - ds.length) '0' ++ ds
      let cut := padded.length - places
      padded.take cut ++ '.' :: padded.drop cut
  String.ofList (if d.negative then '-' :: body else body)

end Decimal

end ClusterLock
