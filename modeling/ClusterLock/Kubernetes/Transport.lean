import ClusterLock.Kubernetes.ApiError
import ClusterLock.Kubernetes.Metadata
import ClusterLock.Kubernetes.Uri

/-
  Requests to an API server and what becomes of the replies. A transport carries a request to
  whatever answers it; names and namespaces stand in the request's path as they are, so that a
  path ends where one of them has a question mark or a hash sign.
-/
namespace ClusterLock

inductive Method
  | get | post | delete
deriving DecidableEq, Repr

def Method.name : Method → String
  | get => "GET" | post => "POST" | delete => "DELETE"

structure Request where
  method : Method
  path : String
  body : Option Json := none

inductive Reply
  | transport (what : String)
  | response (status : Nat) (body : Content)
deriving DecidableEq, Repr

/-- Carries requests over states `σ`. -/
structure Transport (σ : Type) where
  send : Request → σ → Reply × σ

/-- The request for a target. -/
def Request.to? (method : Method) (target : String) (body : Option Json) :
    Except ApiError Request :=
  if target.utf8ByteSize > Uri.maxLength then .error (.unsendable .uriTooLong)
  else match readTarget? target.toList with
    | some (path, _) => .ok { method, path := String.ofList path, body }
    | none => .error (.unsendable .invalidUri)

/-- The target of one object. -/
def namedTarget (place name : String) : Except ApiError String :=
  if name.isEmpty then .error (.unsendable .emptyName) else .ok (place ++ "/" ++ name ++ "?")

/-- The usual names of the status codes of failed requests. -/
def reasonPhrases : List (Nat × String) :=
  [(400, "Bad Request"), (401, "Unauthorized"), (402, "Payment Required"), (403, "Forbidden"),
    (404, "Not Found"), (405, "Method Not Allowed"), (406, "Not Acceptable"),
    (407, "Proxy Authentication Required"), (408, "Request Timeout"), (409, "Conflict"),
    (410, "Gone"), (411, "Length Required"), (412, "Precondition Failed"),
    (413, "Payload Too Large"), (414, "URI Too Long"), (415, "Unsupported Media Type"),
    (416, "Range Not Satisfiable"), (417, "Expectation Failed"), (418, "I'm a teapot"),
    (421, "Misdirected Request"), (422, "Unprocessable Entity"), (423, "Locked"),
    (424, "Failed Dependency"), (425, "Too Early"), (426, "Upgrade Required"),
    (428, "Precondition Required"), (429, "Too Many Requests"),
    (431, "Request Header Fields Too Large"), (451, "Unavailable For Legal Reasons"),
    (500, "Internal Server Error"), (501, "Not Implemented"), (502, "Bad Gateway"),
    (503, "Service Unavailable"), (504, "Gateway Timeout"), (505, "HTTP Version Not Supported"),
    (506, "Variant Also Negotiates"), (507, "Insufficient Storage"), (508, "Loop Detected"),
    (510, "Not Extended"), (511, "Network Authentication Required")]

/-- A code with its usual name. -/
def statusLine (code : Nat) : String :=
  toString code ++ " " ++ (reasonPhrases.lookup code).getD "<unknown status code>"

namespace StatusError

/-- A member of a failure report. -/
inductive FieldValue
  | text (s : String)
  | code (n : Nat)

/-- A whole number of sixteen bits. -/
def readCode : Reader Nat
  | .number n =>
    match n.reading? with
    | some (.integer i) =>
      if 0 ≤ i ∧ i < 65536 then .ok i.toNat
      else .error (.mismatch (.invalidValue (Numeral.Reading.describe (.integer i)) "u16"))
    | _ => .error (Draft.unexpected "u16" (.number n))
  | d => .error (d.unexpected "u16")

def fields : List (FieldShape FieldValue) :=
  let text : Reader FieldValue := fun d => (Reader.text d).map .text
  [⟨"status", text, none⟩, ⟨"message", text, some (.text "")⟩, ⟨"reason", text, some (.text "")⟩,
    ⟨"code", fun d => (readCode d).map .code, none⟩]

def read : Reader StatusError := fun d => do
  match ← FieldShape.readAll "ErrorResponse" fields d with
  | [.text status, .text message, .text reason, .code code] =>
    pure ⟨status, message, reason, code⟩
  | _ => .error (.mismatch (.missingField "code"))

/-- The failure that a body reports; one that reports none is itself the message. -/
def ofBody (code : Nat) (body : List Char) : StatusError :=
  match read.run body with
  | .ok e => e
  | .error _ =>
    ⟨statusLine code, quoted (String.ofList body), "Failed to parse error data", code⟩

end StatusError

/-- The body of a reply, unless the reply is a failure. -/
def Reply.body : Reply → Except ApiError (List Char)
  | .transport what => .error (.service what)
  | .response status body =>
    match body.read with
    | .error e => .error (.notText e)
    | .ok text =>
      if 400 ≤ status ∧ status < 600 then .error (.answered (.ofBody status text)) else .ok text

/-- The body of a reply as a value of the wanted shape. -/
def Reply.decode {α : Type} (read : Reader α) (reply : Reply) : Except ApiError α := do
  let text ← reply.body
  (read.run text).mapError .unreadable

/-- What a deletion is answered with: the object, or a report on the deletion. -/
def readDeleted : Reader Unit := fun d => do
  let v ← (d.whole nestingLimit).mapError ReadError.fault
  match v.member? "kind" with
  | some (.text "Status") => readReport d
  | _ => (ObjectShape.configMap.read d).map fun _ => ()
where
  /-- A report's members have their types. -/
  readReport : Reader Unit := Reader.object "struct Status" (fun _ key d =>
    match key with
    | "status" => (Reader.optional readSuccess d).map fun _ => ()
    | "code" => (StatusError.readCode d).map fun _ => ()
    | "message" | "reason" => (Reader.text d).map fun _ => ()
    | "metadata" => (Reader.checked (Reader.anyObject "struct ListMeta") d).map fun _ => ()
    | "details" => (Reader.checked (Reader.anyObject "struct StatusDetails") d).map fun _ => ()
    | _ => Reader.skip d) ()
  /-- One of the two words that a report begins with. -/
  readSuccess : Reader Unit
    | .text (.ok "Success") => .ok ()
    | .text (.ok "Failure") => .ok ()
    | .text (.ok s) => .error (.mismatch (.unknownVariant s ["Success", "Failure"]))
    | .text (.error f) => .error (.fault f)
    | .broken flaw => .error (.fault flaw.strict)
    | _ => .error (.fault .expectedValue)

namespace Transport

variable {σ : Type}

/-- Sends a request if it can be built, and reads the reply. -/
def ask {α : Type} (t : Transport σ) (request : Except ApiError Request) (read : Reader α)
    (s : σ) : Except ApiError α × σ :=
  match request with
  | .error e => (.error e, s)
  | .ok request => let (reply, s) := t.send request s; (reply.decode read, s)

/-- The request for one object. -/
def getRequest (r : Resource) (ns name : String) : Except ApiError Request := do
  let target ← namedTarget (r.path (some ns)) name
  Request.to? .get target none

def deleteRequest (r : Resource) (ns name : String) : Except ApiError Request := do
  let target ← namedTarget (r.path (some ns)) name
  Request.to? .delete target (some (.object []))

def createRequest (r : Resource) (ns : String) (body : Json) : Except ApiError Request :=
  Request.to? .post (r.path (some ns) ++ "?") (some body)

end Transport

end ClusterLock
