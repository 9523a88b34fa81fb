import ClusterLock.Logging.Settings
import ClusterLock.Number.Binary64
import ClusterLock.Text.Segments

/-
  What an output lets through. A filter is a list of directives, each for the targets that begin
  with a text; of those that cover a note, the one that says most about it decides
  (`decisive?_mem`). A directive for a span decides on what is said inside of it, and may ask for
  a value that a field of the span has. Such a value is a pattern in the language of a library,
  which is a parameter here (`PatternReader`).
-/
namespace ClusterLock

/-- How much is let through: nothing, or what is no more verbose than a level. -/
abbrev Limit := Option Level

namespace Limit

def allows (limit : Limit) (level : Level) : Bool :=
  limit.any fun l => level.verbosity ≤ l.verbosity

/-- Lets everything through. -/
def everything : Limit := some .trace

/-- The word for a limit that lets nothing through. -/
def offWord : String := "off"

/-- A limit by its number or by its name in any case. -/
def read? (s : String) : Option Limit :=
  if readNat? s.toList = some 0 ∨ lowerAscii s = offWord then some none
  else (Level.read? s).map some

theorem everything_allows (level : Level) : everything.allows level = true := by
  cases level <;> decide

end Limit

/-- How a text is read as a pattern for values; not every text is one. -/
abbrev PatternReader := String → Option (String → Bool)

namespace PatternReader

/-- The characters that have a meaning of their own in a pattern. -/
def signs : List Char :=
  ['\\', '.', '+', '*', '?', '(', ')', '|', '[', ']', '\x7b', '\x7d', '^', '$']

/-- The patterns without signs. The value is looked through from its front, and where the pattern
is found for the first time the value must end. -/
def plain : PatternReader := fun pattern =>
  if pattern.toList.any (· ∈ signs) then none
  else some fun value =>
    let ends := (List.range (value.length + 1)).find? fun n =>
      pattern.toList.isSuffixOf (value.toList.take n)
    ends == some value.length

example : (plain "1").map (fun p => [p "cl1", p "cl11"]) = some [true, false] := by decide

end PatternReader

/-- What is asked of a field: that it is there, and which values it may have. -/
structure FieldTest where
  name : String
  value : Option (String → Bool) := none

namespace FieldTest

/-- The text between braces. What follows a second sign of equality does not count. A truth value
or a number is the value of no text. -/
def read? (patterns : PatternReader) (cs : List Char) : Option FieldTest :=
  match (segments '=' cs).map String.ofList with
  | name :: value :: _ =>
    if value ∈ ["true", "false"] ∨ (Real64.read? value.toList).isSome then
      some { name, value := some fun _ => false }
    else (patterns value).map fun p => { name, value := some p }
  | [name] => some { name }
  | [] => none

/-- Whether spans of that kind have the field. -/
def isAbout (t : FieldTest) (s : Span) : Bool := s.fields.any (·.name == t.name)

/-- Whether a span has the field with such a value. -/
def holds (t : FieldTest) (s : Span) : Bool :=
  s.fields.any fun f => f.name == t.name && t.value.all (· f.value)

end FieldTest

structure Directive where
  /-- What a target must begin with. -/
  target : Option String := none
  /-- The name of the spans that it is for. -/
  span : Option String := none
  /-- A field that must be there. -/
  field : Option FieldTest := none
  limit : Limit := Limit.everything

namespace Directive

def coversTarget (d : Directive) (t : Target) : Bool :=
  d.target.all fun begin => begin.toList.isPrefixOf t.toList

/-- Whether what is said inside spans may depend on it. -/
def isForSpans (d : Directive) : Bool := d.span.isSome || d.field.isSome

/-- Whether it asks for the value of a field, which only a span that is there has. -/
def asksValue (d : Directive) : Bool := d.field.any (·.value.isSome)

/-- Whether it can be about a note for itself. -/
def isStatic (d : Directive) : Bool := d.span.isNone && !d.asksValue

/-- Whether it is about a note for itself. -/
def coversNote (d : Directive) (n : Note) : Bool :=
  d.isStatic && d.coversTarget n.target &&
    d.field.all fun f => f.name == "message" || n.fields.any (·.name == f.name)

/-- Whether it is about a span as it is about a note. -/
def coversSpan (d : Directive) (s : Span) : Bool := d.isStatic && d.coversTarget s.target

/-- Whether it is for spans of that kind, whatever their values. -/
def caresAbout (d : Directive) (s : Span) : Bool :=
  d.isForSpans && d.coversTarget s.target && d.span.all (· == s.name) && d.field.all (·.isAbout s)

/-- Whether it is for what is said inside a span. -/
def catches (d : Directive) (s : Span) : Bool := d.caresAbout s && d.field.all (·.holds s)

/-- Whether a directive says more than another: by a longer target, by a field. -/
def outweighs (a b : Directive) : Bool :=
  let size (d : Directive) : Nat := d.target.elim 0 (·.length + 1)
  size b < size a ||
    (size a == size b && match a.field, b.field with
      | some f, some g => g.name < f.name
      | some _, none => true
      | none, _ => false)

/-- Of two directives the one that decides: the one that says more, else the later. -/
def stronger (a b : Directive) : Directive := if a.outweighs b then a else b

/-- The directive that decides. -/
def decisive? : List Directive → Option Directive
  | [] => none
  | d :: ds => some (ds.foldl stronger d)

theorem stronger_eq (a b : Directive) : stronger a b = a ∨ stronger a b = b := by
  unfold stronger
  split <;> simp

theorem foldl_stronger_mem (a : Directive) (ds : List Directive) :
    ds.foldl stronger a ∈ a :: ds := by
  induction ds generalizing a with
  | nil => simp
  | cons b bs ih =>
    have h := ih (stronger a b)
    rw [List.foldl_cons]
    rcases List.mem_cons.mp h with h | h
    · rcases stronger_eq a b with hs | hs <;> rw [hs] at h ⊢ <;> simp [h]
    · exact List.mem_cons_of_mem a (List.mem_cons_of_mem b h)

theorem decisive?_mem {ds : List Directive} {d : Directive} (h : decisive? ds = some d) :
    d ∈ ds := by
  cases ds with
  | nil => simp [decisive?] at h
  | cons a as =>
    simp only [decisive?, Option.some.injEq] at h
    exact h ▸ foldl_stronger_mem a as

/-- The characters that a directive's text may begin with. Those beyond ASCII count as
letters. -/
def mayBegin (c : Char) : Bool := c.isAlphanum || 0x80 ≤ c.toNat || c ∈ ['-', ':', '_']

/-- The limit after a sign of equality; none means no limit. -/
def readLimit? (cs : List Char) : Option Limit :=
  if cs.isEmpty then some .everything else Limit.read? (String.ofList cs)

/-- What follows the closing bracket of a span. -/
def readEnd? (d : Directive) : List Char → Option Directive
  | '=' :: cs => (readLimit? cs).map fun limit => { d with limit }
  | cs => if cs.all Char.isWhitespace then some d else none

/-- The name of a span and a field in braces, after the opening bracket. -/
def readSpan? (patterns : PatternReader) (d : Directive) (cs : List Char) : Option Directive :=
  let (name, rest) := cs.span fun c => c ≠ ']' && c ≠ '\x7b'
  let d := { d with span := if name.isEmpty then none else some (String.ofList name) }
  match rest with
  | ']' :: rest => readEnd? d rest
  | _ :: rest =>
    let (field, rest) := rest.span (· ≠ '\x7d')
    match rest with
    | _ :: ']' :: rest =>
      if field.isEmpty then none
      else (FieldTest.read? patterns field).bind fun t => readEnd? { d with field := some t } rest
    | _ => none
  | [] => none

/-- A directive: a level, or a target and its limit, with a span in brackets or without. Blanks
at its ends belong to it, so that a target or a level with blanks is none that exists. -/
def read? (patterns : PatternReader) (s : String) : Option Directive :=
  let cs := s.toList
  let trimmed := cs.dropWhile Char.isWhitespace
  if trimmed.length < cs.length ∧ !trimmed.isEmpty then
    if cs.contains '=' then none else some { target := some s }
  else match cs with
    | [] => none
    | '[' :: rest => readSpan? patterns {} rest
    | c :: _ =>
      if !mayBegin c then none
      else
        let (head, rest) := cs.span fun c => c ≠ '=' && c ≠ '['
        let target := some (String.ofList head)
        match rest with
        | '=' :: level => (readLimit? level).map fun limit => { target, limit }
        | _ :: span => readSpan? patterns { target } span
        | [] => match Limit.read? (String.ofList head) with
          | some limit => some { limit }
          | none => some { target }

end Directive

/-- The directives of an output. -/
abbrev LogFilter := List Directive

namespace LogFilter

/-- Everything up to a level. -/
def upTo (level : Level) : LogFilter := [{ limit := some level }]

/-- All that comes from some parts of the program. -/
def ofTargets (targets : List Target) : LogFilter := targets.map fun t => { target := some t }

/-- A filter from a text: directives between commas. -/
def read? (patterns : PatternReader) (s : String) : Option LogFilter :=
  ((partsOf ',' s).filter (· ≠ "")).mapM (Directive.read? patterns)

/-- The variable whose text, if it can be read, goes over the level that is set. -/
def variableName : String := "RUST_LOG"

/-- The filter of the outputs for everything. -/
def ofEnvironment (patterns : PatternReader) (env : List (String × String)) (level : Level) :
    LogFilter :=
  ((env.lookup variableName).bind (read? patterns)).getD (upTo level)

variable (f : LogFilter)

/-- Whether a directive for one of the spans around lets a level through. -/
def allowsInside (scope : Scope) (level : Level) : Bool :=
  scope.any fun s => f.any fun d => d.catches s && d.limit.allows level

/-- Whether the deciding one of some directives lets a level through. -/
def allows (ds : List Directive) (level : Level) : Bool :=
  (Directive.decisive? ds).any (·.limit.allows level)

/-- Whether spans of that kind are let through wherever they are, or are to be seen for what is
said inside of them. -/
def registers (s : Span) : Bool :=
  f.any (·.caresAbout s) || allows (f.filter (·.coversSpan s)) s.level

/-- Whether anything of a level may have to be seen. Values show only where there is a span, so
who asks for them sees every level. -/
def reaches (level : Level) : Bool := f.any fun d => d.limit.allows level || d.asksValue

-- the spans about which no filter is asked, since all of them want to see every span of the kind
variable (unasked : Span → Bool)

/-- Whether a span is let through inside those that are. -/
def admitsSpan (scope : Scope) (s : Span) : Bool :=
  unasked s ||
    (f.any (·.caresAbout s) && f.any fun d => d.isForSpans && d.limit.allows s.level) ||
    f.allowsInside scope s.level || allows (f.filter (·.coversSpan s)) s.level

/-- The spans of a scope that are let through. -/
def visible (scope : Scope) : Scope :=
  scope.foldl (fun kept s => if f.admitsSpan unasked kept s then kept ++ [s] else kept) []

/-- Whether a span is let through at its place. -/
def admitsInner (outer : Scope) (s : Span) : Bool :=
  f.admitsSpan unasked (f.visible unasked outer) s

/-- Whether an event is let through. -/
def admits (e : Event) : Bool :=
  f.allowsInside (f.visible unasked e.scope) e.note.level ||
    allows (f.filter (·.coversNote e.note)) e.note.level

end LogFilter

end ClusterLock
