import ClusterLock.Failure
import ClusterLock.Json.Shape
import ClusterLock.Text.Utf8

/-
  What a request to an API server can end in instead of a value, and which store error that
  is: the code and the reason of the server's answer decide, its message does not.
-/
namespace ClusterLock

/-- An answer that reports a failure. -/
structure StatusError where
  status : String
  message : String
  reason : String
  code : Nat
deriving DecidableEq, Repr

/-- Why a request was not made. -/
inductive Unsendable
  | emptyName
  | uriTooLong
  | invalidUri
deriving DecidableEq, Repr

inductive ApiError
  | answered (e : StatusError)
  | service (what : String)
  /-- The connection itself failed. -/
  | broken (what : String)
  | unreadable (e : ReadError)
  | notText (e : Utf8Fault)
  | unsendable (why : Unsendable)
  | lineTooLong
  | readEvents (what : String)
  | tlsRequired
  | missingKind (what : String)
  /-- Any other error of the client, by its own wording. -/
  | other (what : String)
deriving DecidableEq, Repr

def StatusError.describe (e : StatusError) : String :=
  "ErrorResponse \x7b status: " ++ quoted e.status ++ ", message: " ++ quoted e.message ++
    ", reason: " ++ quoted e.reason ++ ", code: " ++ toString e.code ++ " \x7d"

namespace ApiError

def message : ApiError → String
  | answered e => s!"ApiError: {e.message}: {e.reason} ({e.describe})"
  | service what => "ServiceError: " ++ what
  | broken what => "HyperError: " ++ what
  | unreadable e => "Error deserializing response: " ++ e.message
  | notText e => "UTF-8 Error: " ++ e.message
  | unsendable .emptyName =>
    "Failed to build request: failed to validate request: A non-empty name is required"
  | unsendable .uriTooLong =>
    "Failed to build request: failed to build request: uri too long"
  | unsendable .invalidUri =>
    "Failed to build request: failed to build request: invalid uri character"
  | lineTooLong => "Error finding newline character"
  | readEvents what => "Error reading events stream: " ++ what
  | tlsRequired => "TLS required but no TLS stack selected"
  | missingKind what => "Error from discovery: Missing Kind: " ++ what
  | other what => what

/-- The store error that an error is for the record of that namespace and name. -/
def classify (ns name : String) : ApiError → StoreError
  | answered e =>
    if e.code = 404 then .notFound ns name
    else if e.code = 409 ∧ e.reason = "AlreadyExists" then .alreadyExists ns name
    else .rejected e.code e.reason e.message
  | service what => .unavailable (service what).message
  | broken what => .unavailable (broken what).message
  | e => .other e.message

end ApiError

end ClusterLock
