import ClusterLock.Execution
import ClusterLock.Kubernetes.Client
import ClusterLock.Logging.Startup

/-
  A whole run: the command line, the settings, the log, the client, the command. Each step that
  fails ends the run. What fails before there is a log is said as it is, what fails afterwards is
  the last event of the log.
-/
namespace ClusterLock

/-- What a run starts from. -/
structure Situation where
  /-- The words of the command line, the program's name among them. -/
  argv : List String
  env : List (String × String)
  files : FileTree
  moment : Moment
  /-- The patterns that a filter may hold. -/
  patterns : PatternReader := .plain

/-- What a run leaves behind. -/
structure Ending where
  exitCode : Nat
  stdout : String := ""
  /-- What is said on the error output while there is no log. -/
  complaint : String := ""
  /-- The lines of the log on the error output. -/
  console : List String := []
  files : FileTree

def programName : String := "cpinit"

def programVersion : String := "0.1.0"

/-- The exit code of a run that could not do what it was asked. -/
def failureCode : Nat := 2

/-- The exit code of a run by its answer. -/
def answerCode (answer : Bool) : Nat := if answer then 0 else 1

def usageText : String :=
  "Usage: " ++ programName ++ " [OPTIONS] <COMMAND>\n\nCommands: " ++
    ", ".intercalate CommandLine.subcommands ++ "\n"

namespace UsageError

/-- What is wrong with a command line. -/
def message : UsageError → String
  | invalidSubcommand => "unrecognized subcommand"
  | unknownArgument => "unexpected argument"
  | missingRequired => "a required argument was not provided"
  | missingSubcommand => "a subcommand is required"
  | conflict => "an argument cannot be used with another or more than once"
  | missingValue => "a value is required"
  | tooManyValues => "unexpected value"
  | help | version | helpOnNothing => ""

/-- The end of a run whose command line is not run. -/
def ending (e : UsageError) (files : FileTree) : Ending :=
  match e with
  | help => { exitCode := e.exitCode, stdout := usageText, files }
  | version =>
    { exitCode := e.exitCode, stdout := programName ++ " " ++ programVersion ++ "\n", files }
  | helpOnNothing => { exitCode := e.exitCode, complaint := usageText, files }
  | e =>
    let complaint := "error: " ++ e.message ++ "\n\n" ++ usageText
    { exitCode := e.exitCode, complaint, files }

end UsageError

/-- The paths that a run looks at, as far as the files known so far tell. -/
def Situation.mentioned (w : Situation) : List String :=
  match CommandLine.read w.env w.argv with
  | .error _ => []
  | .ok cli =>
    let settings := cli.configFile ::
      Format.extensions.map fun (ext, _) => trimPath cli.configFile ++ "." ++ ext
    let logs := match Configuration.build w.files w.env true cli with
      | .ok conf => if conf.logFile then [conf.logSettings.dir] else []
      | .error _ => []
    let entries := match Kubeconfig.read w.files w.env with
      | .ok k => k.mentioned
      | .error _ => []
    settings ++ logs ++ Kubeconfig.paths w.env ++ entries

/-- The event that a failed run ends with. -/
def failureNote (message : String) : Note := ⟨.error, programName, message, []⟩

section
variable {σ : Type}

/-- Carries out a command with a client for the context that is set. -/
def Command.answer (cmd : Command) (connect : Client → Transport σ) (start : σ) (w : Situation)
    (conf : Configuration) (j : Journal) : Except String Bool × Journal :=
  match Client.forContext w.files w.env conf.kubeContext j with
  | (.error e, j) => (.error e.chain, j)
  | (.ok client, j) =>
    let (answer, s) := cmd.run (connect client) conf ⟨start, j⟩
    (answer.mapError CommandError.message, s.journal)

/-- Adds the lines that log files get. -/
def writeLogs (outputs : List LogOutput) (dir : Place) (fileName : String → String) (stamp : String)
    (events : List Event) (files : FileTree) : FileTree :=
  outputs.foldl (fun files o => match o.destination with
    | .console => files
    | .file name =>
      let lines := o.lines outputs stamp events
      files.append (dir ++ [fileName name]) (String.join (lines.map (· ++ "\n")))) files

/-- A run. `connect` says how the server of a client is reached. -/
def Situation.run (w : Situation) (connect : Client → Transport σ) (start : σ) : Ending :=
  match CommandLine.read w.env w.argv with
  | .error e => e.ending w.files
  | .ok cli =>
    match Configuration.build w.files w.env true cli with
    | .error e => { exitCode := failureCode, complaint := e.message ++ "\n", files := w.files }
    | .ok conf =>
      let settings := conf.logSettings
      match settings.start w.moment false w.files {} with
      | (.error e, files, _) => { exitCode := failureCode, complaint := e.message ++ "\n", files }
      | (.ok dir, files, j) =>
        let (answer, j) := cli.command.answer connect start { w with files } conf j
        let (exitCode, stdout, j) := match answer with
          | .ok b => (answerCode b, cli.command.verb.label b ++ "\n", j)
          | .error message => (failureCode, "", j.write (failureNote message))
        let outputs := settings.outputs w.patterns w.env
        let console := outputs.filter fun o => o.destination == .console
        { exitCode, stdout
          console := console.flatMap fun o => o.lines outputs w.moment.stamp j.events
          files := match dir with
            | some dir => writeLogs outputs dir (· ++ settings.rotation.suffix w.moment)
                w.moment.stamp j.events files
            | none => files }

end

end ClusterLock
