import RecordSearch.Exchange
import RecordSearch.Json.Reader
import RecordSearch.Memory.Store
import RecordSearch.Text.Blank
/-!
# Replies over HTTP

A reply is a status and a text. A success carries a JSON value, none meaning an empty object; the
status 404 means that something is not there, which a request can declare to be no error; any
other status is an error of the backend, with the status in words.
-/

namespace RecordSearch

/-- A reply of a server. -/
structure HttpReply where
  /-- The status. -/
  status : Nat
  /-- The text. -/
  text : String
deriving DecidableEq

namespace HttpReply

/-- The words for a status. -/
def reason? : Nat → Option String
  | 100 => "Continue" | 101 => "Switching Protocols" | 102 => "Processing"
  | 103 => "Early Hints" | 200 => "OK" | 201 => "Created" | 202 => "Accepted"
  | 203 => "Non Authoritative Information" | 204 => "No Content" | 205 => "Reset Content"
  | 206 => "Partial Content" | 207 => "Multi-Status" | 208 => "Already Reported"
  | 226 => "IM Used" | 300 => "Multiple Choices" | 301 => "Moved Permanently"
  | 302 => "Found" | 303 => "See Other" | 304 => "Not Modified" | 305 => "Use Proxy"
  | 307 => "Temporary Redirect" | 308 => "Permanent Redirect" | 400 => "Bad Request"
  | 401 => "Unauthorized" | 402 => "Payment Required" | 403 => "Forbidden"
  | 404 => "Not Found" | 405 => "Method Not Allowed" | 406 => "Not Acceptable"
  | 407 => "Proxy Authentication Required" | 408 => "Request Timeout" | 409 => "Conflict"
  | 410 => "Gone" | 411 => "Length Required" | 412 => "Precondition Failed"
  | 413 => "Payload Too Large" | 414 => "URI Too Long" | 415 => "Unsupported Media Type"
  | 416 => "Range Not Satisfiable" | 417 => "Expectation Failed" | 418 => "I'm a teapot"
  | 421 => "Misdirected Request" | 422 => "Unprocessable Entity" | 423 => "Locked"
  | 424 => "Failed Dependency" | 425 => "Too Early" | 426 => "Upgrade Required"
  | 428 => "Precondition Required" | 429 => "Too Many Requests"
  | 431 => "Request Header Fields Too Large" | 451 => "Unavailable For Legal Reasons"
  | 500 => "Internal Server Error" | 501 => "Not Implemented" | 502 => "Bad Gateway"
  | 503 => "Service Unavailable" | 504 => "Gateway Timeout"
  | 505 => "HTTP Version Not Supported" | 506 => "Variant Also Negotiates"
  | 507 => "Insufficient Storage" | 508 => "Loop Detected" | 510 => "Not Extended"
  | 511 => "Network Authentication Required"
  | _ => none

/-- A status with its words. -/
def statusText (status : Nat) : String :=
  toString status ++ " " ++ (reason? status).getD "<unknown status code>"

/-- Does the status say that all went well? -/
def isSuccess (reply : HttpReply) : Bool :=
  200 ≤ reply.status && reply.status < 300

/-- The error of a status that is no success. -/
def failure (reply : HttpReply) : Error :=
  .backend (statusText reply.status ++ ": " ++ reply.text)

/-- The value that a reply carries. -/
def value (reply : HttpReply) : Except Error Json :=
  if (Text.trim reply.text).isEmpty then .ok .emptyObject
  else
    match Json.read? reply.text with
    | some value => .ok value
    | none => .error (.malformed .notJson)

/-- The outcome of a request with a value in reply. -/
def outcome (reply : HttpReply) (request : Json) : Except Error Json :=
  if reply.status = 404 then
    if ignoresMissing request then
      match reply.value with
      | .ok value => .ok value
      | .error _ => .ok (.single "found" (.bool false))
    else .error .notFound
  else if reply.isSuccess then reply.value
  else .error reply.failure

/-- The outcome of the question whether an index exists. -/
def existence (reply : HttpReply) : Except Error Bool :=
  if reply.isSuccess then .ok true
  else if reply.status = 404 then .ok false
  else .error reply.failure

/-- The outcome of an operation. -/
def replyTo (reply : HttpReply) (request : Json) : (op : Operation) → Except Error op.Reply
  | .search => reply.outcome request
  | .count => reply.outcome request
  | .index => reply.outcome request
  | .delete => reply.outcome request
  | .indexExists => reply.existence
  | .createIndex => reply.outcome request
  | .putMapping => reply.outcome request

end HttpReply

end RecordSearch
