import ClusterLock.Config.Environment
import ClusterLock.Json.Draft
import ClusterLock.Toml.Value

/-
  TOML texts as settings. Each reader gives a value and what follows it, or nothing if the text
  is malformed.
-/
namespace ClusterLock.Toml

def isBlank (c : Char) : Bool := c = ' ' || c = '\t'

def skipBlanks (cs : List Char) : List Char := cs.dropWhile isBlank

/-- Characters that no string and no comment may hold. -/
def isControl (c : Char) : Bool := (c.toNat < 0x20 && c ≠ '\t') || c.toNat = 0x7f

/-- A line break at the front. -/
def lineBreak? : List Char → Option (List Char)
  | '\n' :: cs => some cs
  | '\r' :: '\n' :: cs => some cs
  | _ => none

/-- A comment, if there is one, up to the line break. -/
def skipComment? : List Char → Option (List Char)
  | '#' :: cs =>
    let rest := cs.dropWhile fun c => !isControl c
    match rest with
    | [] => some []
    | _ => if (lineBreak? rest).isSome then some rest else none
  | cs => some cs

/-- The end of a line: blanks, a comment, and a line break or the end of the text. -/
def lineEnd? (cs : List Char) : Option (List Char) := do
  let rest ← skipComment? (skipBlanks cs)
  if rest.isEmpty then some [] else lineBreak? rest

/-- Blanks, line breaks and comments. The fuel bounds their number. -/
def skipLines? : Nat → List Char → Option (List Char)
  | 0, cs => some cs
  | fuel + 1, cs => do
    let rest ← skipComment? (skipBlanks cs)
    match lineBreak? rest with
    | some rest => skipLines? fuel rest
    | none => some rest

def isBareChar (c : Char) : Bool := c.isAlphanum || c = '_' || c = '-'

/-- The character of an escape after its backslash. -/
def escape? : List Char → Option (Char × List Char)
  | 'b' :: cs => some ('\x08', cs)
  | 't' :: cs => some ('\t', cs)
  | 'n' :: cs => some ('\n', cs)
  | 'f' :: cs => some ('\x0c', cs)
  | 'r' :: cs => some ('\r', cs)
  | '"' :: cs => some ('"', cs)
  | '\\' :: cs => some ('\\', cs)
  | 'u' :: cs => code 4 cs
  | 'U' :: cs => code 8 cs
  | _ => none
where
  code (n : Nat) (cs : List Char) : Option (Char × List Char) := do
    let ds ← (cs.take n).mapM hexValue?
    let v := ds.foldl (fun v d => 16 * v + d) 0
    if ds.length = n ∧ v.isValidChar then some (Char.ofNat v, cs.drop n) else none

/-- A string on one line, after its opening mark. -/
def basic? : Nat → List Char → Option (List Char × List Char)
  | 0, _ => none
  | _, [] => none
  | fuel + 1, c :: cs =>
    if c = '"' then some ([], cs)
    else if c = '\\' then do
      let (e, rest) ← escape? cs
      let (text, rest) ← basic? fuel rest
      pure (e :: text, rest)
    else if isControl c then none
    else do
      let (text, rest) ← basic? fuel cs
      pure (c :: text, rest)

/-- A string without escapes on one line, after its opening mark. -/
def literal? (cs : List Char) : Option (List Char × List Char) :=
  let (text, rest) := cs.span fun c => c ≠ '\'' && !isControl c
  match rest with
  | '\'' :: rest => some (text, rest)
  | _ => none

/-- The end of a string over several lines: three marks, of which up to two more belong to it. -/
def closing? (mark : Char) (cs : List Char) : Option (List Char × List Char) :=
  let marks := (cs.takeWhile (· = mark)).length
  if 3 ≤ marks ∧ marks ≤ 5 then some (List.replicate (marks - 3) mark, cs.drop marks) else none

/-- A string over several lines, after its opening marks. -/
def multiline? (mark : Char) : Nat → List Char → Option (List Char × List Char)
  | 0, _ => none
  | _, [] => none
  | fuel + 1, c :: cs =>
    match closing? mark (c :: cs) with
    | some found => some found
    | none =>
      let go (before : List Char) (rest : List Char) : Option (List Char × List Char) := do
        let (text, rest) ← multiline? mark fuel rest
        pure (before ++ text, rest)
      match lineBreak? (c :: cs) with
      | some rest => go ['\n'] rest
      | none =>
        if c = '\\' ∧ mark = '"' then
          match lineBreak? (skipBlanks cs) with
          | some rest => go [] (rest.dropWhile fun c => isBlank c || c = '\n' || c = '\r')
          | none => do
            let (e, rest) ← escape? cs
            go [e] rest
        else if isControl c then none
        else go [c] cs

/-- A string of any kind. -/
def string? (cs : List Char) : Option (List Char × List Char) :=
  let fuel := cs.length + 1
  match cs with
  | '"' :: '"' :: '"' :: r => multiline? '"' fuel ((lineBreak? r).getD r)
  | '\'' :: '\'' :: '\'' :: r => multiline? '\'' fuel ((lineBreak? r).getD r)
  | '"' :: r => basic? fuel r
  | '\'' :: r => literal? r
  | _ => none

/-- A part of a key. -/
def keyPart? (cs : List Char) : Option (String × List Char) :=
  match cs with
  | '"' :: r => (basic? (r.length + 1) r).map fun (s, rest) => (String.ofList s, rest)
  | '\'' :: r => (literal? r).map fun (s, rest) => (String.ofList s, rest)
  | _ =>
    let (name, rest) := cs.span isBareChar
    if name.isEmpty then none else some (String.ofList name, rest)

/-- A key: parts with points between them. -/
def key? : Nat → List Char → Option (List String × List Char)
  | 0, _ => none
  | fuel + 1, cs => do
    let (part, rest) ← keyPart? (skipBlanks cs)
    match skipBlanks rest with
    | '.' :: rest =>
      let (parts, rest) ← key? fuel rest
      pure (part :: parts, rest)
    | rest => pure ([part], rest)

/-- Digits with single underscores between them. -/
def underscored? (isDigit : Char → Bool) (cs : List Char) : Option (List Char) :=
  let parts := cs.splitOn '_'
  if parts.all fun p => !p.isEmpty && p.all isDigit then some (parts.flatMap id) else none

/-- A whole number in a base with a mark of its own. -/
def markedInt? (base : Nat) (cs : List Char) : Option Int := do
  let ds ← underscored? (fun c => (hexValue? c).any (· < base)) cs
  let vs ← ds.mapM hexValue?
  let n := vs.foldl (fun n v => base * n + v) 0
  if n < Nat.pow 2 63 then some n else none

/-- A number in decimal digits; a zero in front must stand alone. -/
def decimal? (cs : List Char) : Option Setting :=
  let (negative, body) := Decimal.splitSign cs
  let (whole, rest) := body.span fun c => c.isDigit || c = '_'
  let sign (ds : List Char) : List Char := if negative then '-' :: ds else ds
  do
    let whole ← underscored? Char.isDigit whole
    if whole.head? = some '0' ∧ whole.length ≠ 1 then none
    if rest.isEmpty then
      let n ← readInt64? (sign whole)
      pure (.int n)
    else
      let (point, rest) ← match rest with
        | '.' :: r =>
          let (fraction, rest) := r.span fun c => c.isDigit || c = '_'
          (underscored? Char.isDigit fraction).map fun ds => ('.' :: ds, rest)
        | r => some ([], r)
      let exponent ← match rest with
        | [] => some []
        | c :: r =>
          if c = 'e' ∨ c = 'E' then
            let (minus, ds) := Decimal.splitSign r
            (underscored? Char.isDigit ds).map fun ds => 'e' :: (if minus then '-' :: ds else ds)
          else none
      let x ← Real64.read? (sign (whole ++ point ++ exponent))
      pure (.real x)

/-- A date, a time or both, in the form in which they are printed. -/
def dateTime? (cs : List Char) : Option Setting :=
  let shape (pattern : String) (cs : List Char) : Bool :=
    pattern.length = cs.length && (pattern.toList.zip cs).all fun (p, c) =>
      if p = 'd' then c.isDigit else p = c
  let isTime (cs : List Char) : Bool :=
    shape "dd:dd:dd" (cs.take 8) && match cs.drop 8 with
      | [] => true
      | '.' :: ds => !ds.isEmpty && ds.all Char.isDigit
      | _ => false
  let isOffset (cs : List Char) : Bool :=
    cs.isEmpty || cs = ['Z'] || shape "+dd:dd" cs || shape "-dd:dd" cs
  let upper := cs.map Char.toUpper
  let date := upper.take 10
  let rest := upper.drop 10
  if isTime upper then some (.text (String.ofList upper))
  else if !shape "dddd-dd-dd" date then none
  else match rest with
    | [] => some (.text (String.ofList date))
    | c :: r =>
      let (time, offset) := r.span fun c => c.isDigit || c = ':' || c = '.'
      if (c = 'T' ∨ c = ' ') ∧ isTime time ∧ isOffset offset then
        some (.text (String.ofList (date ++ 'T' :: r)))
      else none

/-- The characters of a value without marks. -/
def isWordChar (c : Char) : Bool :=
  c.isAlphanum || c = '_' || c = '-' || c = '+' || c = '.' || c = ':'

def special? (cs : List Char) : Option Setting :=
  let (negative, body) := Decimal.splitSign cs
  if body = "inf".toList then some (.real (.signed negative .infinite))
  else if body = "nan".toList then some (.real .nan)
  else none

/-- A truth value, a number or a time. -/
def word? (cs : List Char) : Option Setting :=
  match cs with
  | '0' :: 'x' :: r => (markedInt? 16 r).map .int
  | '0' :: 'o' :: r => (markedInt? 8 r).map .int
  | '0' :: 'b' :: r => (markedInt? 2 r).map .int
  | _ =>
    if cs = "true".toList then some (.bool true)
    else if cs = "false".toList then some (.bool false)
    else (special? cs) <|> (decimal? cs) <|> (dateTime? cs)

/-- A word and the rest; a date may have its time after a space. -/
def scanWord (cs : List Char) : List Char × List Char :=
  let (w, rest) := cs.span isWordChar
  match rest with
  | ' ' :: d :: r =>
    if w.length = 10 ∧ (dateTime? w).isSome ∧ d.isDigit then
      let (v, rest) := (d :: r).span isWordChar
      (w ++ ' ' :: v, rest)
    else (w, rest)
  | _ => (w, rest)

mutual

/-- A value and what follows it. -/
def value? : Nat → List Char → Option (Value × List Char)
  | 0, _ => none
  | fuel + 1, cs =>
    match cs with
    | '[' :: r => do
      let (items, rest) ← items? fuel r
      pure (.array items, rest)
    | '{' :: r => do
      let (es, rest) ← pairs? fuel true [] r
      pure (.inline es, rest)
    | c :: r =>
      if c = '"' ∨ c = '\'' then
        (string? (c :: r)).map fun (s, rest) => (.scalar (.text (String.ofList s)), rest)
      else
        let (w, rest) := scanWord (c :: r)
        (word? w).map fun s => (.scalar s, rest)
    | [] => none

/-- The items of an array up to its end; line breaks count for nothing. -/
def items? : Nat → List Char → Option (List Value × List Char)
  | 0, _ => none
  | fuel + 1, cs => do
    match ← skipLines? cs.length cs with
    | ']' :: rest => pure ([], rest)
    | cs =>
      let (v, rest) ← value? fuel cs
      match ← skipLines? rest.length rest with
      | ',' :: rest =>
        let (vs, rest) ← items? fuel rest
        pure (v :: vs, rest)
      | ']' :: rest => pure ([v], rest)
      | _ => none

/-- The entries of a table between braces. -/
def pairs? : Nat → Bool → Entries → List Char → Option (Entries × List Char)
  | 0, _, _, _ => none
  | fuel + 1, first, es, cs => do
    match skipBlanks cs with
    | '}' :: rest => if first then pure (es, rest) else none
    | cs =>
      let (path, rest) ← key? (cs.length + 1) cs
      match rest with
      | '=' :: rest =>
        let (v, rest) ← value? fuel (skipBlanks rest)
        let es ← descend true (addNew (path.getLast?.getD "") v) path.dropLast es
        match skipBlanks rest with
        | ',' :: rest => pairs? fuel false es rest
        | '}' :: rest => pure (es, rest)
        | _ => none
      | _ => none

end

/-- The lines of a document from one of them on, inside the table that `here` leads to. -/
def lines? : Nat → List String → Entries → List Char → Option Entries
  | 0, _, _, _ => none
  | fuel + 1, here, es, cs => do
    match ← skipLines? cs.length cs with
    | [] => pure es
    | '[' :: '[' :: r =>
      let (path, rest) ← key? (r.length + 1) r
      match rest with
      | ']' :: ']' :: rest =>
        let es ← descend false (openNext (path.getLast?.getD "")) path.dropLast es
        lines? fuel path es (← lineEnd? rest)
      | _ => none
    | '[' :: r =>
      let (path, rest) ← key? (r.length + 1) r
      match rest with
      | ']' :: rest =>
        let es ← descend false (openTable (path.getLast?.getD "")) path.dropLast es
        lines? fuel path es (← lineEnd? rest)
      | _ => none
    | cs =>
      let (path, rest) ← key? (cs.length + 1) cs
      match rest with
      | '=' :: rest =>
        let (v, rest) ← value? (rest.length + 1) (skipBlanks rest)
        let change := descend true (addNew (path.getLast?.getD "") v) path.dropLast
        let es ← descend false change here es
        lines? fuel here es (← lineEnd? rest)
      | _ => none

/-- The settings of a text. -/
def read (cs : List Char) : Option (List (String × Setting)) :=
  (lines? (cs.length + 1) [] [] cs).map settings

end ClusterLock.Toml
