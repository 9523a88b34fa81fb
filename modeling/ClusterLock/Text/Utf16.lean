import ClusterLock.Text.Utf8

/-
  Texts in units of two bytes, and files whose first bytes say how their text is written.
-/
namespace ClusterLock

namespace Utf16

/-- The order of the bytes in a unit. -/
inductive ByteOrder
  | littleFirst | bigFirst
deriving DecidableEq, Repr

def ByteOrder.unit (o : ByteOrder) (a b : UInt8) : Nat :=
  match o with
  | littleFirst => 256 * b.toNat + a.toNat
  | bigFirst => 256 * a.toNat + b.toNat

/-- The units that an even number of bytes makes up. -/
def units? (o : ByteOrder) : List UInt8 → Option (List Nat)
  | [] => some []
  | [_] => none
  | a :: b :: bs => (units? o bs).map (o.unit a b :: ·)

def isHigh (u : Nat) : Bool := 0xD800 ≤ u && u < 0xDC00

def isLow (u : Nat) : Bool := 0xDC00 ≤ u && u < 0xE000

/-- The character of a pair of units. -/
def ofPair (high low : Nat) : Char :=
  Char.ofNat (0x10000 + 0x400 * (high - 0xD800) + (low - 0xDC00))

/-- The characters of units; halves of pairs must not stand alone. -/
def decode? : List Nat → Option (List Char)
  | [] => some []
  | u :: us =>
    if isHigh u then
      match us with
      | v :: rest => if isLow v then (decode? rest).map (ofPair u v :: ·) else none
      | [] => none
    else if isLow u then none
    else (decode? us).map (Char.ofNat u :: ·)

end Utf16

/-- The text of a file, whose first bytes may say how it is written; else it is in UTF-8. -/
def Content.readMarked? : Content → Option (List Char)
  | .bytes (0xFF :: 0xFE :: bs) => (Utf16.units? .littleFirst bs).bind Utf16.decode?
  | .bytes (0xFE :: 0xFF :: bs) => (Utf16.units? .bigFirst bs).bind Utf16.decode?
  | c =>
    match c.read with
    | .ok ('\ufeff' :: cs) => some cs
    | .ok cs => some cs
    | .error _ => none

end ClusterLock
