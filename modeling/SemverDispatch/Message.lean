import SemverDispatch.Response

/-!
# Messages

What goes between a server and the gateway: a response as two messages, its start and its content, and
the messages of startup and shutdown. A response is framed as a whole or not at all.
-/

namespace SemverDispatch

/-- A message to the server. -/
inductive Message where
  /-- the status and headers of a response -/
  | responseStart (status : Value) (headers : List (Bytes × Bytes))
  /-- the content of a response -/
  | responseBody (body : Value)
  /-- the application is ready -/
  | startupComplete
  /-- the application has ended -/
  | shutdownComplete

namespace Message

/-- The bytes of a header's name, in lower case. Bytes have a lower case too, but are no text. -/
def wireName : Value → Except Failure Bytes
  | .text t => t.lower.latin1
  | .bytes b => (Value.bytes b).latin1
  | .buffer b => (Value.buffer b).latin1
  | v => .error (.noAttribute v.qualifiedTypeName "lower")

/-- A header on the wire. -/
def wireHeader (header : Value) : Except Failure (Bytes × Bytes) := do
  let (name, value) ← header.pair
  return (← wireName name, ← value.latin1)

/-- ASCII text in bytes. -/
def ascii (t : Text) : Bytes := t.map fun c => UInt8.ofNat c.value

/-- The messages of a response. Its own headers stand between content type and content length. -/
def ofResponse (r : Response) : Except Failure (List Message) := do
  let body ← r.sentBody
  let contentType ← r.contentType.latin1
  let headers ← (← r.headers.parts).mapM wireHeader
  let length ← body.size
  let framed := (ascii "content-type", contentType) :: headers
    ++ [(ascii "content-length", ascii (Decimal.ofNat length))]
  return [.responseStart r.status framed, .responseBody body]

end Message

end SemverDispatch
