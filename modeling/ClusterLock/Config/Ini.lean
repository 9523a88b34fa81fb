import ClusterLock.Config.Setting
import ClusterLock.Json.Draft

/-
  Settings in sections. A line with brackets begins a section; a key goes up to an equals sign
  or a colon, a value up to the end of its line; a backslash escapes the character after it.
-/
namespace ClusterLock.Ini

/-- White space, line breaks included. -/
def isSpace (c : Char) : Bool :=
  c = ' ' || c = '\t' || c = '\n' || c = '\r' || c = '\x0b' || c = '\x0c'

def trim (cs : List Char) : List Char :=
  ((cs.dropWhile isSpace).reverse.dropWhile isSpace).reverse

/-- The character that an escape stands for; an escaped line break stands for nothing. -/
def escaped (c : Char) : List Char :=
  if c = '\n' then []
  else [([('0', '\x00'), ('a', '\x07'), ('b', '\x08'), ('t', '\t'), ('r', '\r'), ('n', '\n')].lookup
    c).getD c]

/-- The text up to the first character that ends it, and the rest from there on. -/
def upTo (ends : Char → Bool) : List Char → List Char × List Char
  | [] => ([], [])
  | '\\' :: 'x' :: a :: b :: c :: d :: cs =>
    if ends '\\' then ([], '\\' :: 'x' :: a :: b :: c :: d :: cs)
    else
      let (text, rest) := upTo ends cs
      (((hex4? a b c d).map Char.ofNat).toList ++ text, rest)
  | '\\' :: c :: cs =>
    let (text, rest) := upTo ends cs
    (escaped c ++ text, rest)
  | c :: cs =>
    if ends c then ([], c :: cs)
    else let (text, rest) := upTo ends cs; (c :: text, rest)

def isLineEnd (c : Char) : Bool := c = '\n' || c = '\r'

/-- A value: up to the end of the line, with what stands between quotation marks taken as it
is. No value follows a mark that is not closed. -/
def readValue (cs : List Char) : Option (List Char × List Char) :=
  match cs.dropWhile fun c => c = ' ' || c = '\t' with
  | c :: r =>
    if c = '"' ∨ c = '\'' then
      match upTo (· = c) r with
      | (inside, _ :: rest) =>
        let (more, rest) := upTo isLineEnd rest
        some (inside ++ more, rest)
      | (_, []) => none
    else some (upTo isLineEnd (c :: r))
  | [] => some ([], [])

/-- The sections with their entries, from one place on; the entries before the first section
have no name. -/
def sections : Nat → Option String → List (String × String) → List Char →
    Option (List (Option String × List (String × String)))
  | 0, _, _, _ => none
  | fuel + 1, name, entries, cs =>
    match cs.dropWhile isSpace with
    | [] => some [(name, entries)]
    | '[' :: r =>
      match upTo (· = ']') r with
      | (title, _ :: rest) =>
        (sections fuel (some (String.ofList (trim title))) [] rest).map ((name, entries) :: ·)
      | (_, []) => none
    | c :: r =>
      if c = ';' ∨ c = '#' then sections fuel name entries (r.dropWhile fun c => !isLineEnd c)
      else
        match upTo (fun c => c = '=' || c = ':') (c :: r) with
        | (key, _ :: rest) =>
          let key := trim key
          if key.isEmpty then none
          else do
            let (value, rest) ← readValue rest
            sections fuel name
              (entries ++ [(String.ofList key, String.ofList (trim value))]) rest
        | (_, []) => none

/-- The settings of a text: the named sections are tables, the last of a name only. -/
def read (cs : List Char) : Option (List (String × Setting)) := do
  let parts ← sections (cs.length + 1) none [] cs
  pure (parts.foldl (fun settings (name, entries) =>
    let values := entries.foldl (fun es (k, v) => putEntry k (.text v) es)
    match name with
    | none => values settings
    | some name => putEntry name (.table (values [])) settings) [])

end ClusterLock.Ini
