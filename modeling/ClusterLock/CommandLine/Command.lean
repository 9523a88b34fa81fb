import ClusterLock.CommandLine.Options
import ClusterLock.Locker

/-
  What the program can be asked to do: to acquire, to release or to report on the lock of one
  cluster, which is spelt out or fetched.
-/
namespace ClusterLock

/-- Which cluster is meant. Its uid, version and kind are spelt out or come from the object. -/
structure ClusterArgs where
  ns : String
  name : String
  uid : Option String
  apiVersion : Option String
  kind : Option String
  fetch : Bool
deriving DecidableEq, Repr

structure Command where
  verb : Verb
  args : ClusterArgs
deriving DecidableEq, Repr

namespace Verb

/-- The word for a verb on the command line. -/
def word : Verb → String
  | acquire => "acquire" | release => "release" | probe => "status"

def all : List Verb := [acquire, release, probe]

/-- How an answer is put into words. -/
def label : Verb → Bool → String
  | acquire, true => "acquired"
  | acquire, false => "not acquired"
  | release, true => "released"
  | release, false => "not released"
  | probe, true => "locked"
  | probe, false => "unlocked"

end Verb

structure CommandLine where
  configFile : String
  context : Option String
  logLevel : Option String
  command : Command
deriving DecidableEq, Repr

/-- The file that is read for settings if no other is named. -/
def defaultConfigFile : String := "conf/cpinit.yml"

/-- The variable that names another file for settings. -/
def configFileVariable : String := "CPINIT_CONFIG"

inductive GlobalOption
  | config | context | logLevel | help | version
deriving DecidableEq, Repr

inductive ClusterOption
  | ns | name | uid | apiVersion | kind | fetch | help
deriving DecidableEq, Repr

def globalOptions : List (OptionSpec GlobalOption) :=
  [{ id := .config, long := "config", letter := some 'c' }, { id := .context, long := "context" },
    { id := .logLevel, long := "log-level" },
    { id := .help, long := "help", letter := some 'h', kind := .help },
    { id := .version, long := "version", letter := some 'V', kind := .version }]

def clusterOptions : List (OptionSpec ClusterOption) :=
  [{ id := .ns, long := "namespace", letter := some 'n' }, { id := .name, long := "name" },
    { id := .uid, long := "uid" }, { id := .apiVersion, long := "api-version" },
    { id := .kind, long := "kind" }, { id := .fetch, long := "fetch", kind := .flag },
    { id := .help, long := "help", letter := some 'h', kind := .help }]

namespace ClusterArgs

/-- The arguments that options stand for. Fetching excludes what the object says itself;
otherwise the uid is needed. -/
def ofGiven (g : Given ClusterOption) : Except UsageError ClusterArgs :=
  if g.has .fetch ∧ (g.has .uid ∨ g.has .apiVersion ∨ g.has .kind) then .error .conflict
  else
    match g.value? .ns, g.value? .name with
    | some ns, some name =>
      if g.has .uid ∨ g.has .fetch then
        .ok ⟨ns, name, g.value? .uid, g.value? .apiVersion, g.value? .kind, g.has .fetch⟩
      else .error .missingRequired
    | _, _ => .error .missingRequired

def read (words : List String) : Except UsageError ClusterArgs := do
  let (g, _) ← readOptions clusterOptions [] words false {}
  ofGiven (← g.settle)

end ClusterArgs

namespace CommandLine

/-- The word that asks for help on the subcommands named after it. -/
def helpWord : String := "help"

def subcommands : List String := Verb.all.map Verb.word ++ [helpWord]

/-- A request for help on a chain of subcommands. None of them has subcommands of its own. -/
def readHelp : List String → UsageError
  | [] => .help
  | [word] => if word ∈ subcommands then .help else .invalidSubcommand
  | _ => .invalidSubcommand

/-- The words after the program's name. `configFile` is the file that the environment names. -/
def readWords (configFile : Option String) (words : List String) :
    Except UsageError CommandLine := do
  let (g, stop) ← readOptions globalOptions subcommands words false {}
  match stop with
  | .atEnd =>
    let g ← g.settle
    if g.settled.isEmpty ∧ configFile.isNone then .error .helpOnNothing
    else .error .missingSubcommand
  | .atSubcommand word rest =>
    match Verb.all.find? (·.word == word) with
    | none => .error (readHelp rest)
    | some verb =>
      let args ← ClusterArgs.read rest
      let g ← g.settle
      pure { configFile := ((g.value? .config) <|> configFile).getD defaultConfigFile
             context := g.value? .context
             logLevel := g.value? .logLevel
             command := ⟨verb, args⟩ }

/-- A command line, of which the first word is the program's name. -/
def read (env : List (String × String)) (argv : List String) : Except UsageError CommandLine :=
  readWords (env.lookup configFileVariable) argv.tail

end CommandLine

end ClusterLock
