import ClusterLock.Journal
import ClusterLock.Kubernetes.Kubeconfig
import ClusterLock.Kubernetes.Transport

/-
  Clients. A client is opened for a context that is named, or else for the current one, and
  every step on the way is noted.
-/
namespace ClusterLock

/-- A client for the API server at an address, with the namespace of its context. -/
structure Client where
  server : Uri
  ns : String
deriving DecidableEq, Repr

/-- Why there is no client. -/
inductive ClientError
  | namedContext (name : String) (cause : KubeconfigError)
  | noContext (cause : KubeconfigError)
  | unusable
deriving DecidableEq, Repr

namespace ClientError

def message : ClientError → String
  | namedContext name _ => "Failed to load kubeconfig context '" ++ name ++ "'"
  | noContext _ => "Failed to infer Kubernetes configuration"
  | unusable => "Failed to create Kubernetes client"

/-- The message with what led to it. -/
def chain : ClientError → String
  | namedContext name cause => (namedContext name cause).message ++ ": " ++ cause.message
  | e => e.message

end ClientError

namespace Client

/-- The part of the program that the notes on clients come from. -/
def target : Target := "cpinit_server::startup::client"

def loadingNote (context : String) : Note :=
  ⟨.info, target, "Loading kubeconfig context", [⟨"context", context, false⟩]⟩

def creatingNote (server : Uri) : Note :=
  ⟨.debug, target, "Creating Kubernetes client", [⟨"cluster_url", server.text, false⟩]⟩

/-- The error that a kubeconfig error means for a context that is named or not. -/
def contextError (context : Option String) (cause : KubeconfigError) : ClientError :=
  match context with
  | some name => .namedContext name cause
  | none => .noContext cause

/-- The client for a context. -/
def forContext (t : FileTree) (env : List (String × String)) (context : Option String)
    (j : Journal) : Except ClientError Client × Journal :=
  let j := j.writeAll (context.toList.map loadingNote)
  match (Kubeconfig.read t env).bind (Access.ofContext t env context) with
  | .error cause => (.error (contextError context cause), j)
  | .ok access =>
    let j := j.write (creatingNote access.server)
    (if access.isUsable t then .ok ⟨access.server, access.ns⟩ else .error .unusable, j)

/-- Why a request fails if no server can be reached: an address without a scheme is not even
tried. -/
def outOfReach (c : Client) : String :=
  if c.server.scheme.isSome then "client error (Connect)"
  else "client error (UserAbsoluteUriRequired)"

end Client

/-- The transport on which every request fails for the same reason. -/
def Transport.failing (what : String) : Transport Unit where
  send _ s := (.transport what, s)

end ClusterLock
