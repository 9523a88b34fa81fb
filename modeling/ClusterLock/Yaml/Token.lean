/-
  The pieces of a YAML text: spots, which are characters with their places, and the tokens that
  they make up. A text ends at its first null character or at its end; all line breaks count
  as one newline.
-/
namespace ClusterLock.Yaml

/-- What makes a text unreadable. -/
inductive Fault
  | badIndentation
  | tabIndentation
  | unexpectedCharacter
  | misplacedIndicator
  | missingColon
  | unfinishedScalar
  | badScalarEnd
  | badEscape
  | badBlockHeader
  | badName
  | commentNotSeparated
  | badDocument
  | missingNode
  | missingKey
  | missingSeparator
  | unknownAnchor
  | unknownTag
  | duplicateKey
  | tooLong
deriving DecidableEq, Repr

/-- A character and where it stands. `lead` means that only blanks stand before it. -/
structure Spot where
  char : Char
  line : Nat
  col : Nat
  index : Nat
  lead : Bool
deriving DecidableEq, Repr

/-- The character that stands for the end of a text. -/
def endMark : Char := '\x00'

def isBreak (c : Char) : Bool := c = '\n'

def isBlank (c : Char) : Bool := c = ' ' || c = '\t'

def isEnd (c : Char) : Bool := c = endMark

def isBreakOrEnd (c : Char) : Bool := isBreak c || isEnd c

/-- A blank, a line break or the end. -/
def isGap (c : Char) : Bool := isBlank c || isBreakOrEnd c

/-- The characters that structure flow collections. -/
def isFlow (c : Char) : Bool := c = ',' || c = '[' || c = ']' || c = '\x7b' || c = '\x7d'

/-- A text with newlines only, up to its first null character. -/
def normalize : List Char → List Char
  | [] => []
  | '\r' :: '\n' :: cs => '\n' :: normalize cs
  | c :: cs =>
    if c = '\r' then '\n' :: normalize cs
    else if isEnd c then []
    else c :: normalize cs

/-- The spots of a text, the end among them. -/
def spots (line col index : Nat) (lead : Bool) : List Char → List Spot
  | [] => [⟨endMark, line, col, index, lead⟩]
  | c :: cs =>
    ⟨c, line, col, index, lead⟩ ::
      if isBreak c then spots (line + 1) 0 (index + 1) true cs
      else spots line (col + 1) (index + 1) (lead && isBlank c) cs

inductive Style
  | plain | singleQuoted | doubleQuoted | literal | folded
deriving DecidableEq, Repr

/-- The handle and the rest of a tag. -/
structure Tag where
  handle : String
  rest : String
deriving DecidableEq, Repr

inductive Token
  | directive
  | documentStart | documentEnd
  | blockSequenceStart | blockMappingStart | blockEnd
  | flowSequenceStart | flowSequenceEnd | flowMappingStart | flowMappingEnd
  | blockEntry | flowEntry | key | value
  /-- The use of an anchor. -/
  | reference (name : String)
  | anchor (name : String)
  | tag (t : Tag)
  | scalar (style : Style) (text : String)
deriving DecidableEq, Repr

/-- The character at the front; nothing in front is the end. -/
def front : List Spot → Char
  | [] => endMark
  | s :: _ => s.char

/-- The character after the first. -/
def second : List Spot → Char
  | _ :: s :: _ => s.char
  | _ => endMark

def column : List Spot → Nat
  | [] => 0
  | s :: _ => s.col

def lineOf : List Spot → Nat
  | [] => 0
  | s :: _ => s.line

def place : List Spot → Nat
  | [] => 0
  | s :: _ => s.index

def leads : List Spot → Bool
  | [] => true
  | s :: _ => s.lead

/-- Three equal characters at the beginning of a line, with a gap after them. -/
def isDocumentMark (c : Char) (ss : List Spot) : Bool :=
  match ss with
  | a :: b :: d :: rest =>
    a.col == 0 && a.char == c && b.char == c && d.char == c && isGap (front rest)
  | _ => false

def isAnyDocumentMark (ss : List Spot) : Bool := isDocumentMark '-' ss || isDocumentMark '.' ss

/-- The rest of a line up to its break. -/
def skipLine (ss : List Spot) : List Spot := ss.dropWhile fun s => !isBreakOrEnd s.char

/-- Blanks after a token, and a comment, which must be set off from the token. -/
def skipToLineEnd (ss : List Spot) : Except Fault (List Spot) :=
  let rest := ss.dropWhile fun s => isBlank s.char
  if front rest = '#' then
    if front ss = '#' then .error .commentNotSeparated else .ok (skipLine rest)
  else .ok rest

/-- Whether there is a tab among the blanks at the front. -/
def tabAhead (ss : List Spot) : Bool := (ss.takeWhile fun s => isBlank s.char).any (·.char == '\t')

end ClusterLock.Yaml
