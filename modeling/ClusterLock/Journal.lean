import ClusterLock.Failure

/-
  What a run leaves behind for its observers: events, each with the spans around it, and counts
  of finished lock calls. A scope is a chain of spans, outermost first; the journal keeps the
  scopes entered and not yet left, and an event carries the innermost of them.
-/
namespace ClusterLock

inductive Level
  | error | warn | info | debug | trace
deriving DecidableEq, Repr

namespace Level

/-- Higher levels say more. -/
def verbosity : Level → Nat
  | error => 1 | warn => 2 | info => 3 | debug => 4 | trace => 5

def label : Level → String
  | error => "ERROR" | warn => "WARN" | info => "INFO" | debug => "DEBUG" | trace => "TRACE"

def all : List Level := [error, warn, info, debug, trace]

end Level

/-- A named value of a span or an event. In a log line, a quoted value stands between marks. -/
structure Field where
  name : String
  value : String
  quoted : Bool := false
deriving DecidableEq, Repr

/-- A part of the program: events and spans name the one they come from. -/
abbrev Target := String

structure Span where
  level : Level
  target : Target
  name : String
  fields : List Field
deriving DecidableEq, Repr

/-- A chain of spans, outermost first. -/
abbrev Scope := List Span

/-- What is said at one point of the program. -/
structure Note where
  level : Level
  target : Target
  message : String
  fields : List Field := []
deriving DecidableEq, Repr

/-- A note and where it was made. -/
structure Event where
  note : Note
  scope : Scope
deriving DecidableEq, Repr

inductive AcquireOutcome
  | acquired | held | lostRace | error
deriving DecidableEq, Repr

inductive ReleaseOutcome
  | released | absent | error
deriving DecidableEq, Repr

/-- What is counted: the finished calls by their outcome. -/
inductive Counter
  | acquire (outcome : AcquireOutcome)
  | release (outcome : ReleaseOutcome)
deriving DecidableEq, Repr

namespace Counter

def acquireName : String := "cpinit_lock_acquire_total"

def releaseName : String := "cpinit_lock_release_total"

/-- The counters and what they count. -/
def descriptions : List (String × String) :=
  [(acquireName, "Control plane init lock acquisition attempts by outcome"),
    (releaseName, "Control plane init lock release attempts by outcome")]

def outcomeLabel : Counter → String
  | acquire .acquired => "acquired"
  | acquire .held => "held"
  | acquire .lostRace => "lost_race"
  | acquire .error => "error"
  | release .released => "released"
  | release .absent => "absent"
  | release .error => "error"

def name : Counter → String
  | acquire _ => acquireName
  | release _ => releaseName

def all : List Counter :=
  [acquire .acquired, acquire .held, acquire .lostRace, acquire .error,
    release .released, release .absent, release .error]

end Counter

structure Journal where
  entered : List Scope := []
  events : List Event := []
  counts : List Counter := []
deriving DecidableEq, Repr

namespace Journal

/-- The scope of an event that is written now. -/
def current (j : Journal) : Scope := j.entered.head?.getD []

def write (j : Journal) (note : Note) : Journal :=
  { j with events := j.events ++ [⟨note, j.current⟩] }

def writeAll (j : Journal) (notes : List Note) : Journal := notes.foldl write j

def count (j : Journal) (c : Counter) : Journal := { j with counts := j.counts ++ [c] }

def enter (j : Journal) (s : Scope) : Journal := { j with entered := s :: j.entered }

def leave (j : Journal) : Journal := { j with entered := j.entered.tail }

/-- How often a counter was raised. -/
def total (j : Journal) (c : Counter) : Nat := j.counts.count c

theorem writeAll_eq (j : Journal) (notes : List Note) :
    j.writeAll notes = { j with events := j.events ++ notes.map (⟨·, j.current⟩) } := by
  induction notes generalizing j with
  | nil => simp [writeAll]
  | cons n ns ih =>
    have h := ih (j.write n)
    simp only [writeAll, List.foldl_cons] at h ⊢
    rw [h]
    simp [write, current]

@[simp] theorem leave_enter (j : Journal) (s : Scope) : (j.enter s).leave = j := by
  simp [enter, leave]

@[simp] theorem current_enter (j : Journal) (s : Scope) : (j.enter s).current = s := by
  simp [enter, current]

end Journal

/-- The state of a store and the journal of those who use it. -/
structure Session (σ : Type) where
  state : σ
  journal : Journal := {}

end ClusterLock
