import ClusterLock.Number.Binary64

/-
  JSON values. An object keeps its members in the order they are written, repeated ones
  included; a number keeps the decimal that is written and whether it is a plain integer.
-/
namespace ClusterLock

/-- A number as JSON writes it. -/
structure Numeral where
  decimal : Decimal
  /-- Written without a point and without an exponent. -/
  integral : Bool
deriving DecidableEq, Repr

/-- The integers of the format: those of 64 bits with or without a sign. -/
inductive Numeral.Reading
  | integer (n : Int)
  | float (negative : Bool) (magnitude : Binary64)
deriving DecidableEq, Repr

namespace Numeral

def ofNat (n : Nat) : Numeral := ⟨⟨false, n, 0⟩, true⟩

def ofInt (n : Int) : Numeral := ⟨⟨n < 0, n.natAbs, 0⟩, true⟩

/-- The digits that fit into 64 bits, and how many further ones there are. -/
def significand (n : Nat) : Nat × Nat :=
  let ds := digitsOfNat n
  let kept := (List.range' 1 ds.length).findSome? fun k =>
    if Nat.pow 2 64 ≤ natOfDigits (ds.take k) then some (k - 1) else none
  match kept with
  | some k => (natOfDigits (ds.take k), ds.length - k)
  | none => (n, 0)

/-- Divides by ten to the power of `places`, at most 308 places at a time. -/
def shiftDown : Nat → Binary64 → Nat → Binary64
  | 0, f, _ => f
  | fuel + 1, f, places =>
    if f.isZero then f
    else if places ≤ 308 then f.div (Binary64.ofRatio (Nat.pow 10 places) 1)
    else shiftDown fuel (f.div (Binary64.ofRatio (Nat.pow 10 308) 1)) (places - 308)

/-- The magnitude of a decimal: its first digits, rounded, times or over a power of ten,
rounded; no magnitude if that is beyond the largest. -/
def magnitude? (d : Decimal) : Option Binary64 :=
  let (digits, dropped) := significand d.digits
  let scale := d.scale + dropped
  let f := Binary64.ofRatio digits 1
  if f.isZero then some f
  else if 0 ≤ scale then
    if 308 < scale then none
    else match f.mul (Binary64.ofRatio (Nat.pow 10 scale.toNat) 1) with
      | .infinite => none
      | m => some m
  else some (shiftDown (scale.natAbs / 308 + 1) f (min scale.natAbs 2000))

/-- How a number is taken: an integer if it is written as one and fits, else a float. Zero
with a minus sign is a float. Numbers beyond the largest float have no reading. -/
def reading? (n : Numeral) : Option Reading :=
  let ⟨d, integral⟩ := n
  let small :=
    if d.negative then d.digits ≠ 0 ∧ d.digits ≤ Nat.pow 2 63 else d.digits < Nat.pow 2 64
  if integral ∧ small then
    some (.integer (if d.negative then -(d.digits : Int) else d.digits))
  else (magnitude? d).map (.float d.negative)

end Numeral

inductive Json
  | null
  | bool (b : Bool)
  | number (n : Numeral)
  | text (s : String)
  | array (items : List Json)
  | object (members : List (String × Json))
deriving Repr

namespace Json

instance : Inhabited Json := ⟨null⟩

def ofNat (n : Nat) : Json := .number (.ofNat n)

def ofTexts (l : List String) : Json := .array (l.map .text)

/-- The last member of that name. -/
def member? (key : String) : Json → Option Json
  | object members => (members.reverse.lookup key)
  | _ => none

def text? : Json → Option String
  | text s => some s
  | _ => none

end Json

end ClusterLock
