/-
  Bytes as text. A byte sequence that is no character is either bad, with a number of bytes
  that cannot be part of one, or cut off at the end of the input.
-/
namespace ClusterLock

/-- Why bytes are no text: what is wrong stands after `index` good bytes. -/
inductive Utf8Fault
  | invalid (length index : Nat)
  | incomplete (index : Nat)
deriving DecidableEq, Repr

def Utf8Fault.message : Utf8Fault → String
  | invalid length index => s!"invalid utf-8 sequence of {length} bytes from index {index}"
  | incomplete index => s!"incomplete utf-8 byte sequence from index {index}"

namespace Utf8

/-- What stands at the front of some bytes. -/
inductive Front
  | char (c : Char) (rest : List UInt8)
  | bad (length : Nat) (rest : List UInt8)
  | cut

/-- A byte that continues a sequence. -/
def isTail (b : UInt8) : Bool := 0x80 ≤ b && b ≤ 0xBF

/-- Whether a second byte may follow a first one. -/
def mayFollow (a b : UInt8) : Bool :=
  if a = 0xE0 then 0xA0 ≤ b && b ≤ 0xBF
  else if a = 0xED then 0x80 ≤ b && b ≤ 0x9F
  else if a = 0xF0 then 0x90 ≤ b && b ≤ 0xBF
  else if a = 0xF4 then 0x80 ≤ b && b ≤ 0x8F
  else isTail b

/-- The number that a first byte and tails spell. -/
def codePoint (first : Nat) (tails : List UInt8) : Nat :=
  tails.foldl (fun n b => 64 * n + b.toNat % 64) first

/-- The first character, or the bytes that rule one out. -/
def front (a : UInt8) (rest : List UInt8) : Front :=
  if a < 0x80 then .char (Char.ofNat a.toNat) rest
  else if 0xC2 ≤ a ∧ a ≤ 0xDF then
    match rest with
    | [] => .cut
    | b :: r =>
      if isTail b then .char (Char.ofNat (codePoint (a.toNat % 32) [b])) r else .bad 1 rest
  else if 0xE0 ≤ a ∧ a ≤ 0xEF then
    match rest with
    | [] => .cut
    | b :: r =>
      if !mayFollow a b then .bad 1 rest
      else match r with
        | [] => .cut
        | c :: r' =>
          if isTail c then .char (Char.ofNat (codePoint (a.toNat % 16) [b, c])) r' else .bad 2 r
  else if 0xF0 ≤ a ∧ a ≤ 0xF4 then
    match rest with
    | [] => .cut
    | b :: r =>
      if !mayFollow a b then .bad 1 rest
      else match r with
        | [] => .cut
        | c :: r' =>
          if !isTail c then .bad 2 r
          else match r' with
            | [] => .cut
            | d :: r'' =>
              if isTail d then .char (Char.ofNat (codePoint (a.toNat % 8) [b, c, d])) r''
              else .bad 3 r'
  else .bad 1 rest

/-- The text, or the first fault. `index` bytes stand before these; the fuel bounds the number
of characters. -/
def decodeFrom : Nat → Nat → List UInt8 → Except Utf8Fault (List Char)
  | 0, _, _ => .ok []
  | _, _, [] => .ok []
  | fuel + 1, index, a :: rest =>
    match front a rest with
    | .char c r => (decodeFrom fuel (index + (rest.length + 1 - r.length)) r).map (c :: ·)
    | .bad length _ => .error (.invalid length index)
    | .cut => .error (.incomplete index)

def decode (bs : List UInt8) : Except Utf8Fault (List Char) := decodeFrom bs.length 0 bs

/-- The text, with the replacement character for whatever is no character. -/
def decodeLossyFrom : Nat → List UInt8 → List Char
  | 0, _ => []
  | _, [] => []
  | fuel + 1, a :: rest =>
    match front a rest with
    | .char c r => c :: decodeLossyFrom fuel r
    | .bad _ r => '\ufffd' :: decodeLossyFrom fuel r
    | .cut => ['\ufffd']

def decodeLossy (bs : List UInt8) : List Char := decodeLossyFrom bs.length bs

end Utf8

/-- A text that may not be one. -/
inductive Content
  | text (s : String)
  | bytes (bs : List UInt8)
deriving DecidableEq, Repr

namespace Content

def read : Content → Except Utf8Fault (List Char)
  | text s => .ok s.toList
  | bytes bs => Utf8.decode bs

def readLossy : Content → List Char
  | text s => s.toList
  | bytes bs => Utf8.decodeLossy bs

/-- The content with a text after it. -/
def append : Content → String → Content
  | text s, more => text (s ++ more)
  | bytes bs, more => bytes (bs ++ more.toUTF8.toList)

end Content

end ClusterLock
