import ClusterLock.CommandLine.Command
import ClusterLock.Config.Format
import ClusterLock.Kubernetes.Uri

/-
  What the program is set to. Settings come from a file, then from the environment, then from
  the command line, and later ones go over earlier ones. Each setting has a name of two parts
  and is asked for by its type; one that is not set, or is of another type, has its default.
-/
namespace ClusterLock

structure Configuration where
  settings : Setting
  /-- The home directory, for the default place of log files. -/
  home : Option String

/-- The file for settings is malformed. -/
structure MalformedFile where
  name : String
deriving DecidableEq, Repr

def MalformedFile.message (e : MalformedFile) : String :=
  "Failed to build configuration from " ++ e.name

/-- The name of a setting: its section and its key. -/
structure SettingName where
  heading : String
  key : String
deriving DecidableEq, Repr

namespace SettingName

def path (n : SettingName) : List String := [n.heading, n.key]

def logLevel : SettingName := ⟨"log", "level"⟩
def logDir : SettingName := ⟨"log", "dir"⟩
def logConsole : SettingName := ⟨"log", "console"⟩
def logFile : SettingName := ⟨"log", "file"⟩
def logRotation : SettingName := ⟨"log", "rotation"⟩
def kubeContext : SettingName := ⟨"kube", "context"⟩
def clusterGroup : SettingName := ⟨"cluster", "group"⟩
def clusterVersion : SettingName := ⟨"cluster", "version"⟩
def clusterKind : SettingName := ⟨"cluster", "kind"⟩
def clusterPlural : SettingName := ⟨"cluster", "plural"⟩

end SettingName

namespace Configuration

/-- Puts a text over a setting, if there is one. -/
def override (name : SettingName) (v : Option String) (s : Setting) : Setting :=
  match v with
  | some v => (Setting.text v).assignAt (name.path.map .key) s
  | none => s

/-- The settings of a file, of the environment and of the command line, one over the other. -/
def layer (file env : List (String × Setting)) (cli : CommandLine) : Setting :=
  let s := addSource env (addSource file (.table []))
  override .logLevel cli.logLevel (override .kubeContext cli.context s)

/-- The configuration for a command line. Without `useEnv`, the environment holds no settings. -/
def build (t : FileTree) (env : List (String × String)) (useEnv : Bool) (cli : CommandLine) :
    Except MalformedFile Configuration :=
  match fileEntries t cli.configFile with
  | none => .error ⟨cli.configFile⟩
  | some file =>
    let env' := if useEnv then environmentEntries env else []
    .ok ⟨layer file env' cli, env.lookup "HOME"⟩

variable (c : Configuration)

def text? (name : SettingName) : Option String := (c.settings.at? name.path).bind Setting.text?

def bool? (name : SettingName) : Option Bool := (c.settings.at? name.path).bind Setting.bool?

def logLevel : String := (c.text? .logLevel).getD "info"

def logDir : Option String := c.text? .logDir

def logConsole : Bool := (c.bool? .logConsole).getD true

def logFile : Bool := (c.bool? .logFile).getD false

def logRotation : String := (c.text? .logRotation).getD "daily"

/-- The context to use; an empty one counts as none. -/
def kubeContext : Option String := (c.text? .kubeContext).filter (· ≠ "")

def clusterGroup : String := (c.text? .clusterGroup).getD "cluster.x-k8s.io"

def clusterVersion : String := (c.text? .clusterVersion).getD "v1beta1"

def clusterKind : String := (c.text? .clusterKind).getD "Cluster"

def clusterPlural : String := (c.text? .clusterPlural).getD "clusters"

/-- The group and the version with a slash between them, also if there is no group. -/
def clusterApiVersion : String := c.clusterGroup ++ "/" ++ c.clusterVersion

def clusterResource : Resource :=
  ⟨c.clusterGroup, c.clusterVersion, c.clusterKind, c.clusterPlural⟩

def logSettings : LogSettings :=
  .ofTexts c.home c.logDir c.logConsole c.logFile c.logLevel c.logRotation

/-- The cluster that arguments spell out; none if it is to be fetched. -/
def explicitCluster (args : ClusterArgs) : Option Cluster :=
  if args.fetch then none
  else some ⟨args.ns, args.name, args.uid.getD "", args.apiVersion.getD c.clusterApiVersion,
    args.kind.getD c.clusterKind⟩

end Configuration

end ClusterLock
