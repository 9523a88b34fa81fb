import ClusterLock.Number.Binary64
import ClusterLock.Yaml.Token

/-
  What YAML scalars stand for. A plain scalar without a tag is null, a boolean, a whole number,
  a real number or a text by its spelling; quoted and block scalars are texts.
-/
namespace ClusterLock.Yaml

inductive Value
  | null
  | bool (b : Bool)
  | int (n : Int)
  /-- A number that is not whole, as it is spelt. -/
  | real (spelling : String)
  | text (s : String)
  | list (items : List Value)
  | table (entries : List (Value × Value))
deriving Repr

instance : Inhabited Value := ⟨.null⟩

/-- The whole numbers of 64 bits with a sign. -/
def fitsInt64 (n : Int) : Bool := -(Int.pow 2 63) ≤ n && n < Int.pow 2 63

/-- A whole number of 64 bits in decimal digits. -/
def int64? (cs : List Char) : Option Int :=
  (Decimal.readInt? cs).filter fitsInt64

/-- Digits of a base with an optional sign, as a whole number of 64 bits. -/
def radix? (base : Nat) (value? : Char → Option Nat) (cs : List Char) : Option Int := do
  let (negative, ds) := Decimal.splitSign cs
  if ds.isEmpty then none
  let vs ← ds.mapM value?
  let n := vs.foldl (fun n v => base * n + v) 0
  let n := if negative then -(n : Int) else n
  if fitsInt64 n then some n else none

/-- The value of a digit in any base up to sixteen. -/
def anyDigit? (c : Char) : Option Nat :=
  if c.isDigit then some (c.toNat - '0'.toNat)
  else if 'a' ≤ c ∧ c ≤ 'f' then some (c.toNat - 'a'.toNat + 10)
  else if 'A' ≤ c ∧ c ≤ 'F' then some (c.toNat - 'A'.toNat + 10)
  else none

/-- The spellings of the numbers without digits. -/
def namedReals : List String :=
  [".inf", ".Inf", ".INF", "+.inf", "+.Inf", "+.INF", "-.inf", "-.Inf", "-.INF", ".nan", ".NaN",
    ".NAN"]

/-- Whether a text spells a real number. -/
def isReal (cs : List Char) : Bool :=
  String.ofList cs ∈ namedReals || (cs.any Char.isDigit && (Real64.read? cs).isSome)

/-- Whole numbers with the mark of their base, or with a plus sign. -/
def markedInt? : List Char → Option Int
  | '0' :: 'x' :: cs => radix? 16 anyDigit? cs
  | '0' :: 'o' :: cs => radix? 8 (fun c => (anyDigit? c).filter (· < 8)) cs
  | '+' :: cs => int64? cs
  | _ => none

/-- What a plain scalar stands for. -/
def ofPlain (s : String) : Value :=
  let cs := s.toList
  match markedInt? cs with
  | some n => .int n
  | none =>
    if s = "" ∨ s = "~" ∨ s = "null" then .null
    else if s ∈ ["true", "True", "TRUE"] then .bool true
    else if s ∈ ["false", "False", "FALSE"] then .bool false
    else match int64? cs with
      | some n => .int n
      | none => if isReal cs then .real s else .text s

/-- The handle of the tags for standard kinds. -/
def standardHandle : String := "!!"

/-- What a plain scalar with a standard tag stands for; a text that is none of the kind counts
as null. -/
def ofTagged (kind s : String) : Value :=
  match kind with
  | "bool" => if s = "true" then .bool true else if s = "false" then .bool false else .null
  | "int" => ((int64? s.toList).map Value.int).getD .null
  | "float" => if isReal s.toList ∨ (Real64.read? s.toList).isSome then .real s else .null
  | "null" => .null
  | _ => .text s

/-- What a scalar stands for. -/
def ofScalar (style : Style) (tag : Option Tag) (s : String) : Value :=
  if style ≠ .plain then .text s
  else match tag with
    | none => ofPlain s
    | some t => if t.handle = standardHandle then ofTagged t.rest s else .text s

mutual

/-- Whether two values are the same key. -/
def Value.same : Value → Value → Bool
  | .null, .null => true
  | .bool a, .bool b => a == b
  | .int a, .int b => a == b
  | .real a, .real b => a == b
  | .text a, .text b => a == b
  | .list as, .list bs => sameItems as bs
  | .table as, .table bs => sameEntries as bs
  | _, _ => false

def sameItems : List Value → List Value → Bool
  | [], [] => true
  | a :: as, b :: bs => a.same b && sameItems as bs
  | _, _ => false

def sameEntries : List (Value × Value) → List (Value × Value) → Bool
  | [], [] => true
  | (k, v) :: as, (k', v') :: bs => k.same k' && v.same v' && sameEntries as bs
  | _, _ => false

end

end ClusterLock.Yaml
