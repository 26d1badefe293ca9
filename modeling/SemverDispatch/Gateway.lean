import SemverDispatch.Router

/-!
# The gateway

A router behind a server: a connection's scope becomes a request, the router's answer becomes a response,
and the response becomes messages. Whatever fails on the way from request to response is logged and
answered by one fixed response, which says nothing of the cause.
-/

namespace SemverDispatch

namespace Gateway

/-! ## Startup and shutdown -/

/-- The kind of message that announces startup. -/
def startup : Text := "lifespan.startup"

/-- The kind of message that announces shutdown. -/
def shutdown : Text := "lifespan.shutdown"

/-- Acknowledges startup and shutdown until shutdown comes; other messages are passed over. -/
def lifespan : (incoming : List Text) → Run Unit
  | [] => Run.fail .nothingToReceive
  | kind :: rest => do
    Run.emit (.received kind)
    if kind = startup then
      Run.emit (.sent .startupComplete)
      lifespan rest
    else if kind = shutdown then Run.emit (.sent .shutdownComplete)
    else lifespan rest

/-! ## Requests -/

/-- The JSON that stands for a failure. -/
def internalErrorBody : Text :=
  "\x7b\"error\":\"INTERNAL_ERROR\",\"message\":\"Internal Server Error\"\x7d"

/-- The response that stands for every failure. -/
def internalError : Response := .plain (.text internalErrorBody) 500 Response.jsonType []

/-- It is what the writer makes of the code and the message. -/
theorem ofJson_internalError (room : Nat) : Response.ofJson (room + 1)
    (.dict [(.text "error", .text "INTERNAL_ERROR"), (.text "message", .text "Internal Server Error")])
    (.int 500) = .ok internalError := rfl

/-- What is logged of a failure. -/
def failureLine (request : Request) : Text :=
  "500 " ++ request.method.display ++ " " ++ request.path.display

/-- The response of the router's answer to a request. -/
def respond (host : Host) (router : Router) (request : Request) : Run Response := do
  let answer ← router.dispatch host request
  Run.ofExcept (Response.ofValue host.room answer)

/-- The response to a request, whatever fails. -/
def respondAlways (host : Host) (router : Router) (request : Request) : Run Response :=
  (respond host router request).recover fun e => do
    Run.emit (.hidden (failureLine request) e)
    return internalError

/-- Sends messages in order. -/
def sendAll : List Message → Run Unit
  | [] => pure ()
  | m :: rest => do
    Run.emit (.sent m)
    sendAll rest

/-- Sends a response: all of its messages, or none if it cannot be framed. -/
def send (r : Response) : Run Unit := do
  sendAll (← Run.ofExcept (Message.ofResponse r))

/-- Answers the request of a scope. -/
def serve (host : Host) (router : Router) (scope : Scope) : Run Unit := do
  let request ← Run.ofExcept (Request.ofScope scope)
  send (← respondAlways host router request)

/-- Handles a connection, with the messages that are going to come. Connections of an unknown kind are
left alone. -/
def handle (host : Host) (router : Router) (scope : Scope) (incoming : List Text) : Run Unit :=
  match scope.kind with
  | none => Run.fail (.noKey "type")
  | some kind =>
    if kind.isText "lifespan" then lifespan incoming
    else if kind.isText "http" then serve host router scope
    else pure ()

end Gateway

end SemverDispatch
