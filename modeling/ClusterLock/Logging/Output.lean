import ClusterLock.Logging.Filter
import ClusterLock.Text.Quoted

/-
  Outputs of the log and the lines they get. A line names the spans around its event that the
  output lets through. The fields of a span are put into words once, by the first output that
  lets the span through, and all outputs share these words (`isColored`).
-/
namespace ClusterLock

/-- When something is said: the full stamp, the date and the hour of it. -/
structure Moment where
  stamp : String
  date : String
  hour : String
deriving DecidableEq, Repr

/-- A number with zeros in front up to a width. -/
def zeroPadded (width n : Nat) : String :=
  let digits := toString n
  String.ofList (List.replicate (width - digits.length) '0') ++ digits

/-- A moment by the calendar and the clock. -/
def Moment.ofClock (year month day hour minute second microsecond : Nat) : Moment :=
  let date := "-".intercalate [zeroPadded 4 year, zeroPadded 2 month, zeroPadded 2 day]
  let time := ":".intercalate [zeroPadded 2 hour, zeroPadded 2 minute, zeroPadded 2 second]
  ⟨date ++ "T" ++ time ++ "." ++ zeroPadded 6 microsecond ++ "Z", date, zeroPadded 2 hour⟩

/-- Where lines go. -/
inductive Destination
  | console
  | file (name : String)
deriving DecidableEq, Repr

structure LogOutput where
  destination : Destination
  filter : LogFilter
  color : Bool := false
  /-- Whether lines name the thread. -/
  threadName : Bool := false

/-- A way to set off a piece of a line. -/
inductive Accent
  | bold | dimmed | italic
  | level (l : Level)
deriving DecidableEq, Repr

namespace Accent

/-- The number of an accent in the control sequence that begins it. -/
def code : Accent → Nat
  | bold => 1 | dimmed => 2 | italic => 3
  | level .error => 31 | level .info => 32 | level .warn => 33 | level .debug => 34
  | level .trace => 35

/-- A piece with its accent, if there is color. -/
def paint (a : Accent) (color : Bool) (piece : String) : String :=
  if color then "\x1b[" ++ toString a.code ++ "m" ++ piece ++ "\x1b[0m" else piece

@[simp] theorem paint_false (a : Accent) (piece : String) : a.paint false piece = piece := rfl

end Accent

/-- A character of a message; those that would control a terminal are spelt out. -/
def escapeControl (c : Char) : List Char :=
  if c ∈ ['\x07', '\x08', '\x0c', '\x1b', '\x7f'] then
    let digits := Nat.toDigits 16 c.toNat
    ['\\', 'x'] ++ List.replicate (2 - digits.length) '0' ++ digits
  else if 0x80 ≤ c.toNat ∧ c.toNat ≤ 0x9f then
    ['\\', 'u', '\x7b'] ++ Nat.toDigits 16 c.toNat ++ ['\x7d']
  else [c]

/-- A message as a line shows it. -/
def shownMessage (s : String) : String := String.ofList (s.toList.flatMap escapeControl)

def Field.line (color : Bool) (f : Field) : String :=
  Accent.italic.paint color f.name ++ Accent.dimmed.paint color "=" ++
    if f.quoted then ClusterLock.quoted f.value else f.value

/-- The fields of a span in words. -/
def Span.words (color : Bool) (s : Span) : String :=
  " ".intercalate (s.fields.map (Field.line color))

/-- The level of a line, which takes up five columns. -/
def Level.column : Level → String
  | .info => " INFO"
  | .warn => " WARN"
  | l => l.label

namespace LogOutput

variable (outputs : List LogOutput) (o : LogOutput)

/-- Whether the outputs let a span through without being asked: all of them want to see the spans
of its kind, and one of them its level. -/
def unasked (s : Span) : Bool :=
  outputs.all (·.filter.registers s) && outputs.any (·.filter.reaches s.level)

/-- Whether an output lets a span through at its place. -/
def shows (outer : Scope) (s : Span) : Bool := o.filter.admitsInner (unasked outputs) outer s

/-- Whether an output lets an event through. -/
def admits (e : Event) : Bool := o.filter.admits (unasked outputs) e

/-- Whether the words for a span's fields are in color. -/
def isColored (outer : Scope) (s : Span) : Bool :=
  (outputs.find? (shows outputs · outer s)).any (·.color)

/-- The pieces of a line for the spans of a scope, which stand inside of `outer`. -/
def spanPieces : Scope → Scope → List String
  | _, [] => []
  | outer, s :: inner =>
    let rest := spanPieces (outer ++ [s]) inner
    if o.shows outputs outer s then
      let fields := if s.fields.isEmpty then ""
        else Accent.bold.paint o.color "\x7b" ++ s.words (isColored outputs outer s) ++
          Accent.bold.paint o.color "\x7d"
      (Accent.bold.paint o.color s.name ++ fields ++ Accent.dimmed.paint o.color ":") :: rest
    else rest

/-- The line that an output gets for an event, if it lets the event through. -/
def line? (stamp : String) (e : Event) : Option String :=
  if o.admits outputs e then
    let spans := spanPieces outputs o [] e.scope
    some (Accent.dimmed.paint o.color stamp ++ " " ++
      (Accent.level e.note.level).paint o.color e.note.level.column ++ " " ++
      (if o.threadName then "main " else "") ++
      (if spans.isEmpty then "" else "".intercalate spans ++ " ") ++
      Accent.dimmed.paint o.color e.note.target ++ Accent.dimmed.paint o.color ":" ++ " " ++
      " ".intercalate (shownMessage e.note.message :: e.note.fields.map (Field.line o.color)))
  else none

/-- The lines that an output gets. -/
def lines (stamp : String) (events : List Event) : List String :=
  events.filterMap (o.line? outputs stamp)

end LogOutput

end ClusterLock
