import ClusterLock.Json.Value

/-
  The text of a JSON value. In a text, the quotation mark, the backslash and the control
  characters are escaped and every other character stands for itself.
-/
namespace ClusterLock

/-- The digit of a value below sixteen, in lower case. -/
def hexDigit (n : Nat) : Char :=
  if n < 10 then Char.ofNat ('0'.toNat + n) else Char.ofNat ('a'.toNat + (n - 10))

namespace Json

/-- A character between quotation marks. -/
def escape (c : Char) : List Char :=
  if c = '"' then ['\\', '"']
  else if c = '\\' then ['\\', '\\']
  else if c = '\n' then ['\\', 'n']
  else if c = '\r' then ['\\', 'r']
  else if c = '\t' then ['\\', 't']
  else if c = '\x08' then ['\\', 'b']
  else if c = '\x0c' then ['\\', 'f']
  else if c.toNat < 0x20 then
    ['\\', 'u', '0', '0', hexDigit (c.toNat / 16), hexDigit (c.toNat % 16)]
  else [c]

def quote (s : String) : List Char := '"' :: (s.toList.flatMap escape ++ ['"'])

end Json

/-- The digits with a minus sign if need be, and an exponent unless it is a plain integer. -/
def Numeral.render (n : Numeral) : List Char :=
  let ds := digitsOfNat n.decimal.digits
  let body :=
    if n.integral then ds
    else
      let e := digitsOfNat n.decimal.scale.natAbs
      ds ++ 'e' :: (if n.decimal.scale < 0 then '-' :: e else e)
  if n.decimal.negative then '-' :: body else body

namespace Json

mutual

/-- The text without any blanks. -/
def render : Json → List Char
  | null => "null".toList
  | bool b => (if b then "true" else "false").toList
  | number n => n.render
  | text s => quote s
  | array items => '[' :: (renderItems items ++ [']'])
  | object members => '{' :: (renderMembers members ++ ['}'])

def renderItems : List Json → List Char
  | [] => []
  | [v] => render v
  | v :: w :: items => render v ++ ',' :: renderItems (w :: items)

def renderMembers : List (String × Json) → List Char
  | [] => []
  | [(k, v)] => quote k ++ ':' :: render v
  | (k, v) :: m :: members => quote k ++ ':' :: (render v ++ ',' :: renderMembers (m :: members))

end

/-- The compact text of a value. -/
def compact (j : Json) : String := String.ofList j.render

end Json

end ClusterLock
