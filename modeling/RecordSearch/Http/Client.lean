import RecordSearch.Http.Reply
import RecordSearch.Http.Route
/-!
# A backend over HTTP

The client sends the route of each request to its hosts in turn. What carries a call to a server
is a `Transport`, which also writes the parameters into the address; the client is a backend over
any of them. A request without a route is an error before anything is sent, and does not take a
host's turn.
-/

namespace RecordSearch

/-- A call as it is handed to a transport. -/
structure HttpCall where
  /-- The method. -/
  method : Method
  /-- The host and the path, with a slash between them. -/
  url : String
  /-- The query parameters. -/
  params : List (String × String)
  /-- The body. -/
  body : Option Json
deriving DecidableEq

/-- What carries calls to servers: to each call a reply or a reason why there is none. -/
structure Transport (τ : Type) where
  /-- The reply to a call, and the state afterwards. -/
  send : HttpCall → τ → Except String HttpReply × τ

/-- A client of one or more hosts. -/
structure HttpClient where
  /-- The hosts, each with its scheme. -/
  hosts : List String
  /-- There is a host. -/
  hosts_ne_nil : hosts ≠ []

namespace HttpClient

/-- A host with its scheme and without slashes at its end. -/
def hostUrl (host : String) : String :=
  let plain := String.ofList
    ((Text.trimmed host.toList).reverse.dropWhile (· = '/')).reverse
  let named (scheme : String) := scheme.toList.isPrefixOf plain.toList
  if named "http://" || named "https://" then plain else "http://" ++ plain

/-- The client of some hosts. -/
def ofHosts (hosts : List String) : Except Error HttpClient :=
  match hosts with
  | [] => .error (.configuration .noHosts)
  | host :: rest => .ok ⟨(host :: rest).map hostUrl, by simp⟩

/-- The host whose turn it is. -/
def host (client : HttpClient) (turn : Nat) : String :=
  client.hosts.get ⟨turn % client.hosts.length,
    Nat.mod_lt _ (List.length_pos_iff.2 client.hosts_ne_nil)⟩

/-- The call of a route to the host whose turn it is. -/
def call (client : HttpClient) (turn : Nat) (route : Route) : HttpCall where
  method := route.method
  url := client.host turn ++ "/" ++ route.path
  params := route.params
  body := route.body

/-- The client as a backend; its state is the number of calls so far and the state of the
transport. -/
def backend {τ : Type} (client : HttpClient) (transport : Transport τ) : Backend (Nat × τ) where
  reply op request state :=
    match Route.ofRequest op request with
    | .error e => (.error e, state)
    | .ok route =>
      let (reply, after) := transport.send (client.call state.1 route) state.2
      let outcome := match reply with
        | .ok reply => reply.replyTo request op
        | .error reason => .error (.transport reason)
      (outcome, state.1 + 1, after)

end HttpClient

end RecordSearch
