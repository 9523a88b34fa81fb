import ClusterLock.Journal
import ClusterLock.Number.Decimal

/-
  What can be set about logging: where log files go, which outputs there are, how much is
  said, and how often a new file is begun.
-/
namespace ClusterLock

/-- A text with its ASCII letters in lower case. -/
def lowerAscii (s : String) : String := String.ofList (s.toList.map Char.toLower)

/-- A whole number without a minus sign. -/
def readNat? (cs : List Char) : Option Nat :=
  match cs with
  | '-' :: _ => none
  | _ => (Decimal.readInt? cs).map Int.toNat

namespace Level

/-- The level of that verbosity. -/
def ofVerbosity? (n : Nat) : Option Level := all.find? (·.verbosity == n)

/-- A level by its number or by its name in any case. -/
def read? (s : String) : Option Level :=
  match readNat? s.toList with
  | some n => ofVerbosity? n
  | none => all.find? (lowerAscii ·.label == lowerAscii s)

end Level

inductive Rotation
  | daily | hourly | never
deriving DecidableEq, Repr

namespace Rotation

def label : Rotation → String
  | daily => "Daily" | hourly => "Hourly" | never => "Never"

def all : List Rotation := [daily, hourly, never]

/-- A rotation by its name in any case. No letter beyond ASCII has a letter of these names as
its lower case. -/
def read (s : String) : Except String Rotation :=
  match all.find? (lowerAscii ·.label == lowerAscii s) with
  | some r => .ok r
  | none => .error ("Invalid log rotation: " ++ s)

end Rotation

structure LogSettings where
  dir : String
  console : Bool := true
  consoleLevel : Level := .info
  file : Bool := false
  fileLevel : Level := .info
  rotation : Rotation := .daily
deriving DecidableEq, Repr

namespace LogSettings

/-- Where log files go if nothing else is said; without a home directory, below `/tmp`. -/
def defaultDir (home : Option String) : String := home.getD "/tmp" ++ "/cpinit/logs"

/-- Settings from texts. A level or a rotation that cannot be read counts as the default. -/
def ofTexts (home dir : Option String) (console file : Bool) (level rotation : String) :
    LogSettings :=
  let level := (Level.read? level).getD .info
  { dir := dir.getD (defaultDir home)
    console, consoleLevel := level, file, fileLevel := level
    rotation := match Rotation.read rotation with
      | .ok r => r
      | .error _ => .daily }

end LogSettings

end ClusterLock
