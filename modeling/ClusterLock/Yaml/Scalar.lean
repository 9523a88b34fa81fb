import ClusterLock.Json.Draft
import ClusterLock.Yaml.Token

/-
  Scalars in YAML texts. A scalar over several lines is folded: one line break becomes a space
  and of more breaks all but the first remain. Each reader gives the text and what follows it.
-/
namespace ClusterLock.Yaml

/-- Breaks and blanks after a piece of a folded scalar: how many breaks there are, the blanks
if there is no break, and the rest. -/
structure Pause where
  breaks : Nat
  blanks : List Char
  rest : List Spot

/-- What a pause becomes in the text. -/
def Pause.text (p : Pause) : List Char :=
  match p.breaks with
  | 0 => p.blanks
  | 1 => [' ']
  | n + 1 => List.replicate n '\n'

/-- The breaks and blanks at the front. Tabs left of column `indent` indent nothing: they are
refused, in quoted scalars always, else if something follows on their line. -/
def pause (indent : Int) (quoted : Bool) : Nat → List Char → List Spot → Except Fault Pause
  | breaks, blanks, [] => .ok ⟨breaks, blanks.reverse, []⟩
  | breaks, blanks, s :: ss =>
    if isBreak s.char then pause indent quoted (breaks + 1) [] ss
    else if isBlank s.char then
      if breaks = 0 then pause indent quoted 0 (s.char :: blanks) ss
      else if s.char = '\t' ∧ (s.col : Int) < indent ∧
          (quoted ∨ !isBreakOrEnd (front (ss.dropWhile fun s => isBlank s.char))) then
        .error .tabIndentation
      else pause indent quoted breaks [] ss
    else .ok ⟨breaks, blanks.reverse, s :: ss⟩

/-- Whether a character goes on a plain scalar. -/
def goesOn (inFlow : Bool) (ss : List Spot) : Bool :=
  let c := front ss
  if isGap c then false
  else if c = ':' then !(isGap (second ss) || (inFlow && isFlow (second ss)))
  else !(inFlow && isFlow c)

/-- The characters of a plain scalar up to a gap or to what ends it. -/
def plainRun (inFlow : Bool) : List Spot → List Char × List Spot
  | [] => ([], [])
  | s :: ss =>
    if goesOn inFlow (s :: ss) then
      let (cs, rest) := plainRun inFlow ss
      (s.char :: cs, rest)
    else ([], s :: ss)

/-- A plain scalar whose lines stand at column `indent` or right of it. -/
def plainScalar (inFlow : Bool) (indent : Int) :
    Nat → List Char → List Spot → Except Fault (List Char × List Spot)
  | 0, _, _ => .error .tooLong
  | fuel + 1, before, ss =>
    if isAnyDocumentMark ss ∨ front ss = '#' then .ok ([], ss)
    else if inFlow ∧ front ss = '-' ∧ isFlow (second ss) then .error .unexpectedCharacter
    else
      let (cs, rest) := plainRun inFlow ss
      let here := if cs.isEmpty then [] else before ++ cs
      if !(isBlank (front rest) || isBreak (front rest)) then .ok (here, rest)
      else do
        let p ← pause indent false 0 [] rest
        let before := if cs.isEmpty then before else p.text
        if !inFlow ∧ (column p.rest : Int) < indent then .ok (here, p.rest)
        else
          let (more, rest) ← plainScalar inFlow indent fuel before p.rest
          .ok (here ++ more, rest)

/-- The character of a one-letter escape. -/
def escapeChar? (c : Char) : Option Char :=
  [('0', '\x00'), ('a', '\x07'), ('b', '\x08'), ('t', '\t'), ('\t', '\t'), ('n', '\n'),
    ('v', '\x0b'), ('f', '\x0c'), ('r', '\r'), ('e', '\x1b'), (' ', ' '), ('"', '"'), ('/', '/'),
    ('\\', '\\'), ('N', '\u0085'), ('_', '\u00a0'), ('L', '\u2028'), ('P', '\u2029')].lookup c

/-- How many hexadecimal digits follow a letter. -/
def hexLength? (c : Char) : Option Nat :=
  if c = 'x' then some 2 else if c = 'u' then some 4 else if c = 'U' then some 8 else none

/-- An escape after its backslash. -/
def escapeSequence (ss : List Spot) : Except Fault (Char × List Spot) :=
  match ss with
  | [] => .error .badEscape
  | s :: rest =>
    match escapeChar? s.char, hexLength? s.char with
    | some c, _ => .ok (c, rest)
    | none, some n =>
      match (rest.take n).mapM fun s => hexValue? s.char with
      | none => .error .badEscape
      | some ds =>
        let code := ds.foldl (fun v d => 16 * v + d) 0
        if ds.length = n ∧ code.isValidChar then .ok (Char.ofNat code, rest.drop n)
        else .error .badEscape
    | none, none => .error .badEscape

/-- The characters of a quoted scalar up to a gap or its closing mark. The flag says that an
escaped line break ends them. -/
def quotedRun (single : Bool) :
    Nat → List Spot → Except Fault (List Char × Bool × List Spot)
  | 0, _ => .error .tooLong
  | fuel + 1, ss =>
    let go (c : Char) (rest : List Spot) : Except Fault (List Char × Bool × List Spot) := do
      let (cs, escaped, rest) ← quotedRun single fuel rest
      .ok (c :: cs, escaped, rest)
    match ss with
    | [] => .ok ([], false, [])
    | s :: rest =>
      if isGap s.char then .ok ([], false, s :: rest)
      else if single then
        if s.char = '\'' then
          if front rest = '\'' then go '\'' rest.tail else .ok ([], false, s :: rest)
        else go s.char rest
      else if s.char = '"' then .ok ([], false, s :: rest)
      else if s.char = '\\' then
        if isBreak (front rest) then .ok ([], true, rest.tail)
        else do
          let (c, rest) ← escapeSequence rest
          go c rest
      else go s.char rest

/-- A quoted scalar after its opening mark, up to and with the closing mark. -/
def quotedScalar (single : Bool) (indent : Int) :
    Nat → List Spot → Except Fault (List Char × List Spot)
  | 0, _ => .error .tooLong
  | fuel + 1, ss =>
    if isAnyDocumentMark ss ∨ isEnd (front ss) then .error .unfinishedScalar
    else if (column ss : Int) < indent then .error .badIndentation
    else do
      let (cs, escaped, rest) ← quotedRun single fuel ss
      if front rest = (if single then '\'' else '"') then .ok (cs, rest.tail)
      else
        let p ← pause indent true (if escaped then 1 else 0) [] rest
        let gap := if escaped then List.replicate (p.breaks - 1) '\n' else p.text
        let (more, rest) ← quotedScalar single indent fuel p.rest
        .ok (cs ++ gap ++ more, rest)

/-- What is done with the line breaks at the end of a block scalar. -/
inductive Chomping
  | strip | clip | keep
deriving DecidableEq, Repr

/-- The header of a block scalar: its chomping and its indentation, zero if it is to be found. -/
structure BlockHeader where
  chomping : Chomping := .clip
  increment : Nat := 0

def chomping? (c : Char) : Option Chomping :=
  if c = '+' then some .keep else if c = '-' then some .strip else none

/-- A header after its indicator. -/
def blockHeader (ss : List Spot) : Except Fault (BlockHeader × List Spot) :=
  let digit (ss : List Spot) : Except Fault (Nat × List Spot) :=
    if (front ss).isDigit then
      if front ss = '0' then .error .badBlockHeader
      else .ok ((front ss).toNat - '0'.toNat, ss.tail)
    else .ok (0, ss)
  match chomping? (front ss) with
  | some chomping => do
    let (increment, rest) ← digit ss.tail
    .ok (⟨chomping, increment⟩, rest)
  | none => do
    let (increment, rest) ← digit ss
    match if increment = 0 then none else chomping? (front rest) with
    | some chomping => .ok (⟨chomping, increment⟩, rest.tail)
    | none => .ok (⟨.clip, increment⟩, rest)

/-- The empty lines and the indentation in front of a block scalar's next line, which stands at
column `indent`: the number of breaks and the rest. -/
def skipIndent (indent : Nat) : List Spot → Nat × List Spot
  | [] => (0, [])
  | s :: ss =>
    if s.char = ' ' ∧ s.col < indent then skipIndent indent ss
    else if isBreak s.char then let (n, rest) := skipIndent indent ss; (n + 1, rest)
    else (0, s :: ss)

/-- The empty lines in front of a block scalar's first line: the number of breaks, the greatest
column of the blanks, and the rest. -/
def firstIndent : List Spot → Nat × Nat × List Spot
  | [] => (0, 0, [])
  | s :: ss =>
    if s.char = ' ' then
      let (n, col, rest) := firstIndent ss
      (n, max col (s.col + 1), rest)
    else if isBreak s.char then
      let (n, col, rest) := firstIndent ss
      (n + 1, col, rest)
    else (0, s.col, s :: ss)

/-- The lines of a block scalar from one of them on. `breaks` line breaks stand before it, the
first of them after a line of content if `content` says so, and `blank` says whether that line
began with a blank. Gives the text, the line breaks after it, whether there is one after the
last line, and the rest. -/
def blockLines (folded : Bool) (indent : Nat) :
    Nat → Bool → Bool → Nat → List Spot → List Char × Nat × Bool × List Spot
  | 0, content, _, breaks, ss => ([], breaks, content, ss)
  | fuel + 1, content, blank, breaks, ss =>
    if column ss ≠ indent ∨ isEnd (front ss) ∨ (indent = 0 ∧ isAnyDocumentMark ss) then
      ([], breaks, content, ss)
    else
      let startsBlank := isBlank (front ss)
      let gap :=
        if folded ∧ content ∧ !blank ∧ !startsBlank then
          if breaks = 0 then [' '] else List.replicate breaks '\n'
        else List.replicate (breaks + (if content then 1 else 0)) '\n'
      let line := (ss.takeWhile fun s => !isBreakOrEnd s.char).map (·.char)
      let rest := skipLine ss
      if isEnd (front rest) then (gap ++ line, 0, false, rest)
      else
        let (breaks, rest) := skipIndent indent rest.tail
        let (more, tail) := blockLines folded indent fuel true startsBlank breaks rest
        (gap ++ line ++ more, tail)

/-- A block scalar after its indicator, inside a block at column `indent`. -/
def blockScalar (folded : Bool) (indent : Int) (ss : List Spot) :
    Except Fault (List Char × List Spot) := do
  let (header, rest) ← blockHeader ss
  let rest ← skipToLineEnd rest
  if !isBreakOrEnd (front rest) then .error .badBlockHeader
  let headerLine := lineOf rest
  let rest := if isBreak (front rest) then rest.tail else rest
  if front rest = '\t' then .error .tabIndentation
  let (column', breaks, rest) :=
    if header.increment = 0 then
      let (n, col, rest) := firstIndent rest
      (max col (max (indent + 1) 1).toNat, n, rest)
    else
      let col := (max indent 0).toNat + header.increment
      let (n, rest) := skipIndent col rest
      (col, n, rest)
  if isEnd (front rest) then
    let text := match header.chomping with
      | .strip => []
      | .clip => if lineOf rest = headerLine then [] else ['\n']
      | .keep =>
        if lineOf rest = headerLine then [] else List.replicate (max breaks 1) '\n'
    return (text, rest)
  if column rest < column' ∧ indent < (column rest : Int) then .error .badIndentation
  let (text, breaks, broken, rest) := blockLines folded column' rest.length false false breaks rest
  let atEnd := isEnd (front rest) && max column' 1 ≤ column rest
  let last := if header.chomping = .strip then []
    else (if broken then ['\n'] else []) ++ (if atEnd then ['\n'] else [])
  let kept := if header.chomping = .keep then List.replicate breaks '\n' else []
  return (text ++ last ++ kept, rest)

end ClusterLock.Yaml
