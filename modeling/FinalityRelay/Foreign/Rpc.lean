import FinalityRelay.Evidence.Submission
import FinalityRelay.Foreign.HttpStatus
import FinalityRelay.Foreign.Url
import FinalityRelay.Json.Reader
import FinalityRelay.Json.Writer

/-! Submissions to the foreign chain as remote procedure calls in JSON over HTTP. -/

namespace FinalityRelay.Rpc

def method : Submission → String
  | .schedule _ => "bridge_changeSchedule"
  | .deposit _ => "bridge_proveAction"

def submissionJson : Submission → Json
  | .schedule s => ScheduleSubmission.codec.toJson s
  | .deposit s => DepositSubmission.codec.toJson s

/-- What is posted to the server. -/
structure Request where
  path : String
  body : Json

def Request.ofSubmission (url : Url) (id : UInt64) (account : String) (s : Submission) : Request where
  path := url.target
  body := Json.record [("jsonrpc", .ofString "2.0"), ("id", .ofNat id.toNat),
    ("method", .ofString (method s)),
    ("params", Json.record [("account", .ofString account), ("submission", submissionJson s)])]

/-- What a call brings back. It is refused if no request can be sent to the address or no answer comes,
whatever the cause; else there are a status and a body. -/
inductive Reply
  | refused
  | answered (status : Nat) (body : String)

inductive CallError
  | url (cause : UrlError)
  | transport
  | decode
  | noOutcome (method : String)
deriving DecidableEq

def CallError.message : CallError → String
  | .url e => e.message
  | .transport => "error sending request"
  | .decode => "error decoding response body"
  | .noOutcome m => m ++ " response carries neither a result nor an error"

structure Fault where
  code : Int64
  message : String

structure Response where
  result : Option Json
  fault : Option Fault

open Fields RecordField

/-- Any value that is sound, in its canonical form. -/
def anyJson : Codec Json where
  write j := Codec.text.write j.render
  read := Reader.fail .notReadable
  toJson j := j
  ofJson? n j := j.canonical? n

def Fault.codec : Codec Fault :=
  (field (required "code" .int64) <| field (required "message" .text) <| done).codec.via
    (fun f => (f.code, f.message, ()))
    (fun (c, m, _) => some ⟨c, m⟩)

def Response.codec : Codec Response :=
  (field (defaulted "result" (.option anyJson) none) <|
    field (defaulted "error" (.option Fault.codec) none) <| done).codec.via
    (fun r => (r.result, r.fault, ()))
    (fun (r, f, _) => some ⟨r, f⟩)

/-- A text stands for itself, any other result for its compact JSON form. -/
def resultText : Json → String
  | .text (some s) => s
  | j => j.render

/-- The meaning of a body under a success status. A fault outweighs a result. -/
def outcome (method body : String) : Except CallError Answer :=
  match (Json.read? body.toList).bind Response.codec.decode? with
  | none => .error .decode
  | some r =>
    match r.fault, r.result with
    | some f, _ => .ok (.rejected (f.message ++ " (code " ++ toString f.code ++ ")"))
    | none, some j => .ok (.accepted (resultText j))
    | none, none => .error (.noOutcome method)

def interpret (method : String) : Reply → Except CallError Answer
  | .refused => .error .transport
  | .answered status body =>
    if HttpStatus.isSuccess status then
      outcome method (if HttpStatus.hasBody status then body else "")
    else .ok (.rejected (method ++ " answered with HTTP status " ++ HttpStatus.text status))

/-- The request that was answered, if any, and what became of the submission. -/
structure Call where
  request : Option Request
  result : Except CallError Answer

/-- Makes a call with the id `id`, which brings back `reply`, and gives the id of the next one. An endpoint
that is no address uses up no id. -/
def call (id : UInt64) (endpoint account : String) (s : Submission) (reply : Reply) : UInt64 × Call :=
  match Url.parse endpoint with
  | .error e => (id, ⟨none, .error (.url e)⟩)
  | .ok url =>
    let request := match reply with
      | .refused => none
      | .answered _ _ => some (.ofSubmission url id account s)
    (id + 1, ⟨request, interpret (method s) reply⟩)

end FinalityRelay.Rpc
