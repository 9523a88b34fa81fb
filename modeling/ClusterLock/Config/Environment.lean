import ClusterLock.Config.Setting

/-
  Settings from the environment. A variable with the program's prefix names a setting in lower
  case, with two underscores between the parts of its path; what looks like a truth value or a
  number is one.
-/
namespace ClusterLock

/-- What the names of variables for settings begin with, in lower case. -/
def variableStem : String := "cpinit_"

/-- A name in lower case. One letter beyond ASCII has an ASCII letter as its lower case: the
sign for kelvin. Other letters beyond ASCII cannot be part of a setting's name. -/
def lowerName (cs : List Char) : List Char :=
  cs.map fun c => if c = '\u212a' then 'k' else c.toLower

/-- A name with a point for each pair of underscores, from left to right. -/
def pointsForPairs : List Char → List Char
  | '_' :: '_' :: cs => '.' :: pointsForPairs cs
  | c :: cs => c :: pointsForPairs cs
  | [] => []

/-- The key of the setting that a variable is for. -/
def variableKey? (name : String) : Option String :=
  let cs := lowerName name.toList
  if variableStem.toList.isPrefixOf cs then
    some (String.ofList (pointsForPairs (cs.drop variableStem.length)))
  else none

/-- The whole numbers of 64 bits in digits. -/
def readInt64? (cs : List Char) : Option Int :=
  (Decimal.readInt? cs).filter fun n => -(Int.pow 2 63) ≤ n && n < Int.pow 2 63

/-- What the value of a variable stands for. -/
def Setting.ofVariable (value : String) : Setting :=
  let word := lowerAscii value
  if word = "true" then .bool true
  else if word = "false" then .bool false
  else match readInt64? value.toList with
    | some n => .int n
    | none =>
      match Real64.read? value.toList with
      | some x => .real x
      | none => .text value

/-- The settings that an environment holds. -/
def environmentEntries (env : List (String × String)) : List (String × Setting) :=
  env.filterMap fun (name, value) => (variableKey? name).map fun key => (key, .ofVariable value)

end ClusterLock
