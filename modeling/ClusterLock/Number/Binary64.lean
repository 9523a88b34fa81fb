import ClusterLock.Number.Decimal

/-
  Magnitudes of the binary64 format, in exact arithmetic on whole numbers. `ofRatio` rounds a
  quotient to the nearest representable magnitude, a tie to the even mantissa; `shortest` is
  the decimal with the fewest digits that rounds to a magnitude, and of those the nearest.
-/
namespace ClusterLock

/-- A magnitude: `mantissa · 2 ^ power`, or infinity. -/
inductive Binary64
  | finite (mantissa : Nat) (power : Int)
  | infinite
deriving DecidableEq, Repr

/-- The quotient rounded to a whole number, a half to the even neighbour. -/
def roundHalfEven (num den : Nat) : Nat :=
  let q := num / den
  let twice := 2 * (num % den)
  if twice < den then q
  else if den < twice then q + 1
  else if q % 2 = 0 then q else q + 1

/-- The power `b ^ e` as a quotient of two whole numbers. -/
def powerRatio (b : Nat) (e : Int) : Nat × Nat :=
  if 0 ≤ e then (Nat.pow b e.toNat, 1) else (1, Nat.pow b e.natAbs)

namespace Binary64

def zero : Binary64 := .finite 0 0

/-- The mantissa has at most 53 bits. -/
def precision : Nat := 53

/-- The power of two of the smallest magnitude above zero. -/
def leastPower : Int := -1074

/-- The power of two of the largest finite magnitude. -/
def greatestPower : Int := 971

/-- The largest `e` with `2 ^ e ≤ num / den`. -/
def binaryExponent (num den : Nat) : Int :=
  let e : Int := (Nat.log2 num : Int) - Nat.log2 den
  let (pn, pd) := powerRatio 2 e
  if num * pd < den * pn then e - 1 else e

/-- The magnitude nearest to `num / den`. -/
def ofRatio (num den : Nat) : Binary64 :=
  if num = 0 then zero
  else
    let power := max (binaryExponent num den - (precision - 1)) leastPower
    let (pn, pd) := powerRatio 2 power
    let m := roundHalfEven (num * pd) (den * pn)
    let (m, power) := if m = Nat.pow 2 precision then (Nat.pow 2 (precision - 1), power + 1)
      else (m, power)
    if greatestPower < power then .infinite else .finite m power

/-- The magnitude nearest to `digits · 10 ^ scale`. The outer tests only keep the powers of
ten small: beyond them the answer does not depend on the digits. -/
def ofDecimal (digits : Nat) (scale : Int) : Binary64 :=
  if digits = 0 then zero
  else
    let size := scale + (digitsOfNat digits).length
    if 310 < size then .infinite
    else if size < -330 then zero
    else
      let (tn, td) := powerRatio 10 scale
      ofRatio (digits * tn) td

/-- A finite magnitude as a quotient. -/
def toRatio : Binary64 → Option (Nat × Nat)
  | .finite m p => let (pn, pd) := powerRatio 2 p; some (m * pn, pd)
  | .infinite => none

def mul (a b : Binary64) : Binary64 :=
  match a.toRatio, b.toRatio with
  | some (an, ad), some (bn, bd) => ofRatio (an * bn) (ad * bd)
  | _, _ => .infinite

/-- The quotient by a magnitude that is neither zero nor infinite. -/
def div (a b : Binary64) : Binary64 :=
  match a.toRatio, b.toRatio with
  | some (an, ad), some (bn, bd) => ofRatio (an * bd) (ad * bn)
  | _, _ => .infinite

def isZero : Binary64 → Bool
  | .finite m _ => m == 0
  | .infinite => false

/-- The number of digits before the point of `num / den`; zero or less below one tenth. -/
def decimalSize (num den : Nat) : Int :=
  let e : Int := ((digitsOfNat num).length : Int) - (digitsOfNat den).length
  let (tn, td) := powerRatio 10 e
  if num * td < den * tn then e else e + 1

/-- The decimals that round to a magnitude: from `low` to `high` quarters of its last binary
place, the ends included when the mantissa is even. -/
structure Cell where
  mantissa : Nat
  low : Nat
  high : Nat
  num : Nat
  den : Nat

def Cell.of (m : Nat) (p : Int) : Cell :=
  let (pn, pd) := powerRatio 2 (p - 2)
  let below := if m = Nat.pow 2 (precision - 1) ∧ leastPower < p then 1 else 2
  ⟨m, 4 * m - below, 4 * m + 2, pn, pd⟩

/-- Whether `c · 10 ^ k` rounds to the cell's magnitude. -/
def Cell.contains (cell : Cell) (c : Nat) (k : Int) : Bool :=
  let (tn, td) := powerRatio 10 k
  let at' := c * tn * cell.den
  let low := cell.low * cell.num * td
  let high := cell.high * cell.num * td
  if cell.mantissa % 2 = 0 then low ≤ at' && at' ≤ high else low < at' && at' < high

/-- The nearest decimal with `n` digits that rounds to the cell's magnitude. -/
def Cell.withDigits? (cell : Cell) (size : Int) (n : Nat) : Option Decimal :=
  let k := size - n
  let (tn, td) := powerRatio 10 k
  let num := 4 * cell.mantissa * cell.num * td
  let den := cell.den * tn
  let c := num / den
  let up := den < 2 * (num % den)
  let next : Decimal := if c + 1 = Nat.pow 10 n then ⟨false, 1, size⟩ else ⟨false, c + 1, k⟩
  match cell.contains c k, cell.contains (c + 1) k with
  | true, true => some (if up then next else ⟨false, c, k⟩)
  | true, false => some ⟨false, c, k⟩
  | false, true => some next
  | false, false => none

/-- The decimal with the fewest digits that rounds to the magnitude. Seventeen digits are
always enough. -/
def shortest (m : Nat) (p : Int) : Decimal :=
  if m = 0 then ⟨false, 0, 0⟩
  else
    let (pn, pd) := powerRatio 2 p
    let size := decimalSize (m * pn) pd
    ((List.range' 1 17).findSome? ((Cell.of m p).withDigits? size)).getD ⟨false, 0, 0⟩

end Binary64

/-- A number of the binary64 format. -/
inductive Real64
  | nan
  | signed (negative : Bool) (magnitude : Binary64)
deriving DecidableEq, Repr

namespace Real64

/-- The names of the two kinds of number that have no digits. -/
def ofName? (cs : List Char) : Option Binary64 :=
  if cs.map Char.toLower ∈ ["inf".toList, "infinity".toList] then some .infinite else none

/-- A decimal, or the name of infinity with an optional sign, or `nan`. -/
def read? (cs : List Char) : Option Real64 :=
  let (negative, body) := Decimal.splitSign cs
  if body.map Char.toLower = "nan".toList then some .nan
  else match ofName? body with
    | some magnitude => some (.signed negative magnitude)
    | none => (Decimal.read? cs).map fun d =>
        .signed d.negative (Binary64.ofDecimal d.digits d.scale)

def isZero : Real64 → Bool
  | .nan => false
  | .signed _ m => m.isZero

/-- The fewest digits that read back, without an exponent. -/
def toText : Real64 → String
  | .nan => "NaN"
  | .signed negative .infinite => if negative then "-inf" else "inf"
  | .signed negative (.finite m p) =>
    Decimal.positional { Binary64.shortest m p with negative }

end Real64

end ClusterLock
