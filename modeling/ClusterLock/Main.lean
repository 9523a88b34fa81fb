import ClusterLock.Program
import Std.Time.Format

/-
  The command. It collects the environment, the clock and the files that a run looks at, makes
  the run, and carries out what the run leaves behind. It has no connections of its own: every
  request fails as on a server that is out of reach.
-/
namespace ClusterLock.Shell

/-- The variables of the process. -/
def environment : IO (List (String × String)) := do
  let bytes ← IO.FS.readBinFile "/proc/self/environ"
  let text := String.ofList (Utf8.decodeLossy bytes.toList)
  pure ((partsOf '\x00' text).filterMap fun entry =>
    match cutAtEquals entry.toList with
    | (name, some value) => some (String.ofList name, String.ofList value)
    | (_, none) => none)

def moment : IO Moment := do
  let t ← Std.Time.Timestamp.now
  let d := (Std.Time.DateTime.ofTimestampWithZone t .UTC).toPlainDateTime
  pure (.ofClock d.date.year.toInt.toNat d.date.month.val.toNat d.date.day.val.toNat
    d.time.hour.val.toNat d.time.minute.val.toNat d.time.second.val.toNat
    (d.time.nanosecond.val.toNat / 1000))

def pathText (p : Place) : String := "/" ++ "/".intercalate p

/-- Adds what is at a place to a tree: what is there and cannot be read as a file counts as a
directory. -/
def look (t : FileTree) (p : Place) : IO FileTree := do
  if t.isDir p ∨ (t.file? p).isSome then return t
  try
    let bytes ← IO.FS.readBinFile (pathText p)
    return { t with files := t.files ++ [(p, .bytes bytes.toList)] }
  catch
    | .noFileOrDirectory .. => return t
    | _ => return if t.isDir p.dropLast then { t with dirs := t.dirs ++ [p] } else t

/-- Adds what is at paths and on the way to them. -/
def lookAll (t : FileTree) (paths : List String) : IO FileTree :=
  paths.foldlM (fun t path =>
    let p := t.placeOf path
    (List.range p.length).foldlM (fun t n => look t (p.take (n + 1))) t) t

/-- Makes the directories and adds the texts that a tree has more than another. The texts go to
the ends of files. -/
def carryOut (before after : FileTree) : IO Unit := do
  for p in after.dirs do
    if !before.isDir p then IO.FS.createDirAll (pathText p)
  for (p, content) in after.files do
    if (before.file? p).isNone then
      let h ← IO.FS.Handle.mk (pathText p) .append
      h.putStr (String.ofList content.readLossy)

def run (args : List String) : IO UInt32 := do
  let env ← environment
  let here ← IO.currentDir
  let w : Situation :=
    { argv := programName :: args, env, moment := ← moment
      files := { here := (pathParts here.toString).filter (!staysPut ·) } }
  let w := { w with files := ← lookAll w.files w.mentioned }
  let w := { w with files := ← lookAll w.files w.mentioned }
  let e := w.run (fun c => Transport.failing c.outOfReach) ()
  (← IO.getStdout).putStr e.stdout
  let err ← IO.getStderr
  err.putStr e.complaint
  e.console.forM err.putStrLn
  try carryOut w.files e.files catch _ => pure ()
  return UInt32.ofNat e.exitCode

end ClusterLock.Shell

def main (args : List String) : IO UInt32 := ClusterLock.Shell.run args
