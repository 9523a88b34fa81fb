import ClusterLock.Yaml.Scalar

/-
  YAML texts as tokens. Blocks are told by their columns: a token right of the block it stands
  in opens a new one, a token left of it closes blocks. A colon makes a key of the node before
  it on its line, so the places where a key may have begun are kept until their line ends.
-/
namespace ClusterLock.Yaml

/-- A place where a key may have begun. -/
structure KeyPlace where
  /-- A key must have begun there. -/
  required : Bool
  /-- The number of tokens before it. -/
  number : Nat
  line : Nat
  col : Nat
  index : Nat

structure Lexer where
  input : List Spot
  /-- The tokens found so far, in order. -/
  tokens : List Token := []
  /-- The column of the innermost block. -/
  indent : Int := -1
  /-- The columns of the blocks around it, and whether each block has a token for its end. -/
  blocks : List (Int × Bool) := []
  /-- The place of a possible key on each level of flow collections, innermost first. -/
  keys : List (Option KeyPlace) := [none]
  flow : Nat := 0
  keyAllowed : Bool := true
  /-- Where a colon may be followed by its value without a gap. -/
  adjacentAt : Option Nat := none

namespace Lexer

def push (l : Lexer) (t : Token) : Lexer := { l with tokens := l.tokens ++ [t] }

def insert (l : Lexer) (n : Nat) (t : Token) : Lexer :=
  { l with tokens := l.tokens.take n ++ t :: l.tokens.drop n }

def skip (l : Lexer) (n : Nat) : Lexer := { l with input := l.input.drop n }

def toLineEnd (l : Lexer) : Except Fault Lexer := do
  let input ← skipToLineEnd l.input
  pure { l with input }

/-- Closes the blocks right of a column. -/
def closeBlocks (col : Int) (l : Lexer) : Lexer :=
  if l.flow > 0 then l else go l l.blocks
where
  go (l : Lexer) : List (Int × Bool) → Lexer
    | [] => l
    | (outer, ends) :: blocks =>
      if col < l.indent then
        let l := { l with indent := outer, blocks }
        go (if ends then l.push .blockEnd else l) blocks
      else l

/-- Leaves the columns that were only set aside for a block. -/
def dropReserved (l : Lexer) : Lexer := go l l.blocks
where
  go (l : Lexer) : List (Int × Bool) → Lexer
    | (outer, false) :: blocks => go { l with indent := outer, blocks } blocks
    | _ => l

/-- Opens a block at a column if it is right of the innermost one. The block's token goes to
the given place among the tokens, or to the end. -/
def openBlock (col : Nat) (number : Option Nat) (t : Token) (l : Lexer) : Lexer :=
  if l.flow > 0 then l
  else
    let l := match l.blocks with
      | (outer, false) :: blocks =>
        if l.indent ≤ (col : Int) then { l with indent := outer, blocks } else l
      | _ => l
    if l.indent < (col : Int) then
      let l := { l with blocks := (l.indent, true) :: l.blocks, indent := col }
      match number with
      | some n => l.insert n t
      | none => l.push t
    else l

/-- Sets one column aside, so that what follows has to stand right of the block. -/
def reserveColumn (l : Lexer) : Lexer :=
  match l.blocks with
  | (_, true) :: _ =>
    if l.flow > 0 then l
    else { l with blocks := (l.indent, false) :: l.blocks, indent := l.indent + 1 }
  | _ => l

/-- Notes that a key may begin here. -/
def saveKey (l : Lexer) : Lexer :=
  if l.keyAllowed then
    let ends := match l.blocks with
      | (_, ends) :: _ => ends
      | [] => false
    let place : KeyPlace :=
      { required := l.flow == 0 && l.indent == column l.input && ends
        number := l.tokens.length, line := lineOf l.input, col := column l.input
        index := place l.input }
    { l with keys := some place :: l.keys.tail }
  else l

/-- Notes that no key has begun on this level. -/
def removeKey (l : Lexer) : Except Fault Lexer :=
  match l.keys with
  | some k :: keys =>
    if k.required then .error .missingColon else .ok { l with keys := none :: keys }
  | _ => .ok l

/-- Outside of flow collections, a key must stand on one line and be short. -/
def forgetStaleKeys (l : Lexer) : Except Fault Lexer :=
  let stale (k : KeyPlace) : Bool :=
    l.flow == 0 && (k.line < lineOf l.input || k.index + 1024 < place l.input)
  if l.keys.any fun k => k.any fun k => stale k && k.required then .error .missingColon
  else .ok { l with keys := l.keys.map fun k => k.filter fun k => !stale k }

def allowKey (b : Bool) (l : Lexer) : Lexer := { l with keyAllowed := b }

/-- Skips blanks, comments and line breaks. Tabs do not indent what is in a block. -/
def skipToToken : Nat → Lexer → Except Fault Lexer
  | 0, l => .ok l
  | fuel + 1, l =>
    let c := front l.input
    if c = '\t' ∧ !l.blocks.isEmpty ∧ leads l.input ∧ (column l.input : Int) < l.indent then do
      let l ← l.toLineEnd
      if isBreakOrEnd (front l.input) then skipToToken fuel l else .error .tabIndentation
    else if isBlank c then skipToToken fuel (l.skip 1)
    else if isBreak c then
      let l := l.skip 1
      skipToToken fuel (if l.flow = 0 then l.allowKey true else l)
    else if c = '#' then skipToToken fuel { l with input := skipLine l.input }
    else .ok l

/-- The end of the text: all blocks are closed. -/
def finish (l : Lexer) : Except Fault Lexer := do
  if l.keys.any fun k => k.any (·.required) then .error .missingColon
  let l := { l with keys := l.keys.map fun _ => none }
  pure (l.closeBlocks (-1))

def documentMark (t : Token) (l : Lexer) : Except Fault Lexer := do
  let l ← (l.closeBlocks (-1)).removeKey
  let l := ((l.allowKey false).skip 3).push t
  if t = .documentEnd then
    let l ← l.toLineEnd
    if isBreakOrEnd (front l.input) then pure l else .error .badDocument
  else pure l

def directive (l : Lexer) : Except Fault Lexer := do
  let l ← (l.closeBlocks (-1)).removeKey
  pure { (l.allowKey false).push .directive with input := skipLine l.input }

def flowStart (t : Token) (l : Lexer) : Except Fault Lexer := do
  let l := l.saveKey.reserveColumn
  let l := { l with flow := l.flow + 1, keys := none :: l.keys }
  let l ← ((l.allowKey true).skip 1).toLineEnd
  pure (l.push t)

def flowEnd (t : Token) (l : Lexer) : Except Fault Lexer := do
  let l ← l.removeKey
  let l := if l.flow = 0 then l else { l with flow := l.flow - 1, keys := l.keys.tail }
  let l ← ((l.allowKey false).skip 1).toLineEnd
  let l := if l.flow > 0 then { l with adjacentAt := some (place l.input) } else l
  pure (l.push t)

def flowEntry (l : Lexer) : Except Fault Lexer := do
  let l ← l.removeKey
  let l ← ((l.allowKey true).skip 1).toLineEnd
  pure (l.push .flowEntry)

def blockEntry (l : Lexer) : Except Fault Lexer := do
  if l.flow > 0 ∨ !l.keyAllowed then .error .misplacedIndicator
  let col := column l.input
  let l := (l.skip 1).openBlock col none .blockSequenceStart
  let tabs := tabAhead l.input
  let l ← l.toLineEnd
  if tabs ∧ front l.input = '-' ∧ isGap (second l.input) then .error .tabIndentation
  let l := if isBreak (front l.input) ∨ isFlow (front l.input) then l.reserveColumn else l
  let l ← l.removeKey
  pure ((l.allowKey true).push .blockEntry)

def keyMark (l : Lexer) : Except Fault Lexer := do
  if l.flow = 0 ∧ !l.keyAllowed then .error .misplacedIndicator
  let l := if l.flow = 0 then l.openBlock (column l.input) none .blockMappingStart else l
  let l ← l.removeKey
  let l := (l.allowKey (l.flow == 0)).skip 1
  if front (l.input.dropWhile (·.char == ' ')) = '\t' then .error .tabIndentation
  pure (l.push .key)

def valueMark (l : Lexer) : Except Fault Lexer := do
  let col := column l.input
  let known := l.keys.head?.join
  let l := l.skip 1
  let blanks := l.input.takeWhile fun s => isBlank s.char
  let after := front (l.input.dropWhile fun s => isBlank s.char)
  if front l.input = '\t' ∧ !(blanks.any (·.char == ' ')) ∧ (after = '-' ∨ after.isAlpha) then
    .error .tabIndentation
  match known with
  | some k =>
    let l := (l.insert k.number .key).openBlock k.col (some k.number) .blockMappingStart
    let l := l.reserveColumn
    pure (({ l with keys := none :: l.keys.tail }.allowKey false).push .value)
  | none =>
    if l.flow = 0 then
      if !l.keyAllowed then .error .misplacedIndicator
      let l := (l.openBlock col none .blockMappingStart).reserveColumn
      pure ((l.allowKey true).push .value)
    else pure ((l.allowKey false).push .value)

/-- The characters of an anchor's name. -/
def isNameChar (c : Char) : Bool := !isGap c && !isFlow c && c != '\ufeff'

def anchorOrAlias (isAlias : Bool) (l : Lexer) : Except Fault Lexer :=
  let l := (l.saveKey.allowKey false).skip 1
  let name := l.input.takeWhile fun s => isNameChar s.char
  if name.isEmpty then .error .badName
  else
    let text := String.ofList (name.map (·.char))
    .ok ((l.skip name.length).push (if isAlias then .reference text else .anchor text))

/-- The characters of a tag. -/
def isTagChar (c : Char) : Bool :=
  c.isAlphanum || c = '-' || c = '_' || (";/?:@&=+$.!~*'()%#".toList.contains c)

/-- A tag after its first exclamation mark. -/
def tagBody (ss : List Spot) : Except Fault (Tag × List Spot) :=
  if front ss = '<' then
    let inside := ss.tail.takeWhile fun s => isTagChar s.char || isFlow s.char
    let rest := ss.drop (inside.length + 1)
    if front rest = '>' then .ok (⟨"", String.ofList (inside.map (·.char))⟩, rest.tail)
    else .error .badName
  else
    let word := ss.takeWhile fun s => s.char.isAlphanum || s.char == '-' || s.char == '_'
    let rest := ss.drop word.length
    let name := word.map (·.char)
    if front rest = '!' then
      let after := rest.tail.takeWhile fun s => isTagChar s.char && s.char != '!'
      let handle := String.ofList ('!' :: (name ++ ['!']))
      if after.isEmpty ∧ handle ≠ "!!" then .error .badName
      else .ok (⟨handle, String.ofList (after.map (·.char))⟩, rest.drop (after.length + 1))
    else
      let more := rest.takeWhile fun s => isTagChar s.char && s.char != '!'
      let text := String.ofList (name ++ more.map (·.char))
      .ok (if text.isEmpty then ⟨"", "!"⟩ else ⟨"!", text⟩, rest.drop more.length)

def tagMark (l : Lexer) : Except Fault Lexer := do
  let l := l.saveKey.allowKey false
  let (t, rest) ← tagBody l.input.tail
  if isGap (front rest) ∨ (l.flow > 0 ∧ isFlow (front rest)) then
    pure ({ l with input := rest }.push (.tag t))
  else .error .badName

def blockScalarToken (folded : Bool) (l : Lexer) : Except Fault Lexer := do
  let l := (l.saveKey.allowKey true).dropReserved
  let (text, rest) ← blockScalar folded l.indent l.input.tail
  let style := if folded then .folded else .literal
  pure ({ l with input := rest }.push (.scalar style (String.ofList text)))

def quotedToken (single : Bool) (l : Lexer) : Except Fault Lexer := do
  let l := l.saveKey.allowKey false
  let line := lineOf l.input
  let (text, rest) ← quotedScalar single l.indent (l.input.length + 1) l.input.tail
  let rest ← skipToLineEnd rest
  let c := front rest
  let fits := isBreakOrEnd c ||
    (if l.flow > 0 then c = ',' || c = '\x7d' || c = ']' || c = ':'
     else c = ':' && lineOf rest == line)
  if !fits then .error .badScalarEnd
  let l ← skipToToken (rest.length + 1) { l with input := rest }
  let style := if single then .singleQuoted else .doubleQuoted
  pure ({ l with adjacentAt := some (place l.input) }.push (.scalar style (String.ofList text)))

def plainToken (l : Lexer) : Except Fault Lexer := do
  let l := (l.saveKey.allowKey false).dropReserved
  let indent := l.indent + 1
  if l.flow > 0 ∧ (column l.input : Int) < indent then .error .badIndentation
  let (text, rest) ← plainScalar (l.flow > 0) indent (l.input.length + 1) [] l.input
  if text.isEmpty then .error .unfinishedScalar
  let l := if leads rest then l.allowKey true else l
  pure ({ l with input := rest }.push (.scalar .plain (String.ofList text)))

/-- The next token, by the character it begins with. -/
def token (l : Lexer) : Except Fault Lexer :=
  let c := front l.input
  let next := second l.input
  if c = '[' then l.flowStart .flowSequenceStart
  else if c = '\x7b' then l.flowStart .flowMappingStart
  else if c = ']' then l.flowEnd .flowSequenceEnd
  else if c = '\x7d' then l.flowEnd .flowMappingEnd
  else if c = ',' then l.flowEntry
  else if c = '-' ∧ isGap next then l.blockEntry
  else if c = '?' ∧ isGap next then l.keyMark
  else if c = ':' ∧ (isGap next ∨
      (l.flow > 0 ∧ (isFlow next ∨ l.adjacentAt = some (place l.input)))) then l.valueMark
  else if c = '*' then l.anchorOrAlias true
  else if c = '&' then l.anchorOrAlias false
  else if c = '!' then l.tagMark
  else if c = '|' ∧ l.flow = 0 then l.blockScalarToken false
  else if c = '>' ∧ l.flow = 0 then l.blockScalarToken true
  else if c = '\'' then l.quotedToken true
  else if c = '"' then l.quotedToken false
  else if c = '%' ∨ c = '@' ∨ c = '\x60' then .error .unexpectedCharacter
  else l.plainToken

/-- All tokens. The fuel bounds their number. -/
def run : Nat → Lexer → Except Fault (List Token)
  | 0, _ => .error .tooLong
  | fuel + 1, l => do
    let l ← skipToToken (l.input.length + 1) l
    let l ← l.forgetStaleKeys
    let l := l.closeBlocks (column l.input)
    if isEnd (front l.input) then
      let l ← l.finish
      pure l.tokens
    else if column l.input = 0 ∧ front l.input = '%' then run fuel (← l.directive)
    else if isDocumentMark '-' l.input then run fuel (← l.documentMark .documentStart)
    else if isDocumentMark '.' l.input then run fuel (← l.documentMark .documentEnd)
    else if (column l.input : Int) < l.indent then .error .badIndentation
    else run fuel (← l.token)

end Lexer

/-- The tokens of a text. -/
def tokens (cs : List Char) : Except Fault (List Token) :=
  let cs := normalize cs
  Lexer.run (cs.length + 2) { input := spots 0 0 0 true cs }

end ClusterLock.Yaml
