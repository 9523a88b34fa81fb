import ClusterLock.FileTree
import ClusterLock.Logging.Output

/-
  The start of the log. It makes the directory for log files, begins them and sets up the
  outputs: the console, a file for everything and one for each component. A program can start
  its log once only.
-/
namespace ClusterLock

/-- What is put after the name of a log file that is begun at a moment. -/
def Rotation.suffix (m : Moment) : Rotation → String
  | daily => "." ++ m.date
  | hourly => "." ++ m.date ++ "-" ++ m.hour
  | never => ""

/-- A file for what comes from some parts of the program. -/
structure ComponentLog where
  fileName : String
  targets : List Target
deriving DecidableEq, Repr

def rootLogName : String := "cpinit.log"

def componentLogs : List ComponentLog := [⟨"lock.log", ["cpinit_lock", "cpinit_kube"]⟩]

/-- Why the log did not start. -/
inductive LoggingError
  | directory (why : DirectoryFault)
  | alreadyStarted
deriving DecidableEq, Repr

def LoggingError.message : LoggingError → String
  | directory why => why.message
  | alreadyStarted =>
    "Failed to initialize logging: a global default trace dispatcher has already been set"

namespace LogSettings

/-- Whether the console shows color: a variable can forbid it. -/
def hasColor (env : List (String × String)) : Bool := ((env.lookup "NO_COLOR").getD "").isEmpty

/-- The outputs in the order in which they get to see an event. -/
def outputs (s : LogSettings) (patterns : PatternReader) (env : List (String × String)) :
    List LogOutput :=
  let console : LogOutput :=
    { destination := .console, filter := .ofEnvironment patterns env s.consoleLevel
      color := hasColor env }
  let root : LogOutput :=
    { destination := .file rootLogName, filter := .ofEnvironment patterns env s.fileLevel
      threadName := true }
  let component (c : ComponentLog) : LogOutput :=
    { destination := .file c.fileName, filter := .ofTargets c.targets }
  (if s.console then [console] else [])
    ++ if s.file then root :: componentLogs.map component else []

/-- The names of the log files. -/
def fileNames (s : LogSettings) (m : Moment) : List String :=
  (rootLogName :: componentLogs.map (·.fileName)).map (· ++ s.rotation.suffix m)

/-- Makes the directory for log files and begins them, if there are to be any. Says where the
directory is. -/
def prepare (s : LogSettings) (m : Moment) (t : FileTree) :
    Except DirectoryFault (Option Place) × FileTree :=
  if s.file then
    match t.makeDirs s.dir with
    | (.error why, t) => (.error why, t)
    | (.ok dir, t) => (.ok dir, (s.fileNames m).foldl (fun t name => t.append (dir ++ [name]) "") t)
  else (.ok none, t)

/-- The part of the program that the note on a started log comes from. -/
def startTarget : Target := "cpinit_server::startup::logging"

def startedNote (s : LogSettings) : Note :=
  ⟨.debug, startTarget, "File logging initialized",
    [⟨"log_dir", s.dir, false⟩, ⟨"component_files", toString componentLogs.length, false⟩]⟩

/-- Starts the log; `started` says that it has been started before. -/
def start (s : LogSettings) (m : Moment) (started : Bool) (t : FileTree) (j : Journal) :
    Except LoggingError (Option Place) × FileTree × Journal :=
  match s.prepare m t with
  | (.error why, t) => (.error (.directory why), t, j)
  | (.ok dir, t) =>
    if started then (.error .alreadyStarted, t, j)
    else (.ok dir, t, if s.file then j.write s.startedNote else j)

end LogSettings

end ClusterLock
