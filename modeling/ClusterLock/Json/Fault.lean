/-
  What can be wrong with a JSON text. A fault of form (`Fault`) says that the text is no JSON
  value; a `Mismatch` says that it is not the value that was asked for.
-/
namespace ClusterLock

/-- A fault of form. The first four mean that the text ends too early. -/
inductive Fault
  | endOfList | endOfObject | endOfText | endOfValue
  | expectedColon | expectedListComma | expectedObjectComma | expectedIdent | expectedValue
  | invalidEscape | invalidNumber | numberOutOfRange | invalidCodePoint | controlCharacter
  | keyNotText | loneSurrogate | unfinishedEscape | trailingComma | trailingCharacters
  | tooDeep
deriving DecidableEq, Repr

namespace Fault

def message : Fault → String
  | endOfList => "EOF while parsing a list"
  | endOfObject => "EOF while parsing an object"
  | endOfText => "EOF while parsing a string"
  | endOfValue => "EOF while parsing a value"
  | expectedColon => "expected \x60:\x60"
  | expectedListComma => "expected \x60,\x60 or \x60]\x60"
  | expectedObjectComma => "expected \x60,\x60 or \x60\x7d\x60"
  | expectedIdent => "expected ident"
  | expectedValue => "expected value"
  | invalidEscape => "invalid escape"
  | invalidNumber => "invalid number"
  | numberOutOfRange => "number out of range"
  | invalidCodePoint => "invalid unicode code point"
  | controlCharacter => "control character (\\u0000-\\u001F) found while parsing a string"
  | keyNotText => "key must be a string"
  | loneSurrogate => "lone leading surrogate in hex escape"
  | unfinishedEscape => "unexpected end of hex escape"
  | trailingComma => "trailing comma"
  | trailingCharacters => "trailing characters"
  | tooDeep => "recursion limit exceeded"

/-- The text ends inside a value. -/
def isEnd : Fault → Bool
  | endOfList | endOfObject | endOfText | endOfValue => true
  | _ => false

end Fault

/-- A value is not of the shape that was asked for. -/
inductive Mismatch
  | invalidType (found expected : String)
  | invalidValue (found expected : String)
  | invalidLength (length : Nat) (expected : String)
  | missingField (name : String)
  | duplicateField (name : String)
  | unknownVariant (found : String) (known : List String)
deriving DecidableEq, Repr

/-- A name between grave accents. -/
def graved (s : String) : String := "\x60" ++ s ++ "\x60"

def Mismatch.message : Mismatch → String
  | invalidType found expected => s!"invalid type: {found}, expected {expected}"
  | invalidValue found expected => s!"invalid value: {found}, expected {expected}"
  | invalidLength length expected => s!"invalid length {length}, expected {expected}"
  | missingField name => "missing field " ++ graved name
  | duplicateField name => "duplicate field " ++ graved name
  | unknownVariant found known =>
    s!"unknown variant {graved found}, expected " ++ " or ".intercalate (known.map graved)

/-- Why a text could not be read as the value that was asked for. -/
inductive ReadError
  | fault (f : Fault)
  | mismatch (m : Mismatch)
deriving DecidableEq, Repr

def ReadError.message : ReadError → String
  | fault f => f.message
  | mismatch m => m.message

end ClusterLock
