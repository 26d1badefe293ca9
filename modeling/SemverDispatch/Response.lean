import SemverDispatch.Value.Access
import SemverDispatch.Record
import SemverDispatch.Text.Lowercase

/-!
# Responses

Responses, and the values that stand for one: a handler may answer with text, bytes, data for JSON,
nothing at all, or a pair of any of these and a status.

The fields of a response hold any values, as nobody checks what a handler puts there. `Response.plain` makes
the responses whose fields have the types that sending them needs.
-/

namespace SemverDispatch

/-- The content of a response. -/
inductive Body where
  /-- text, sent in UTF-8 -/
  | text (t : Text)
  /-- bytes, sent as they are -/
  | bytes (b : Bytes)
  deriving DecidableEq, Repr, Inhabited

/-- The content as a value. -/
def Body.toValue : Body → Value
  | text t => .text t
  | bytes b => .bytes b

/-- A response. -/
structure Response where
  /-- what it carries -/
  body : Value
  /-- the status code -/
  status : Value
  /-- the content type -/
  contentType : Value
  /-- headers in order, names as given -/
  headers : Value
  deriving Inhabited

namespace Response

/-! ## Building -/

/-- The content type of text. -/
def plainType : Text := "text/plain; charset=utf-8"

/-- The content type of JSON. -/
def jsonType : Text := "application/json"

/-- The content type of bytes. -/
def binaryType : Text := "application/octet-stream"

/-- A header as a value. -/
def headerValue (header : Text × Text) : Value := .tuple [.text header.1, .text header.2]

/-- The response of a content, an integer status, a content type and headers. -/
def plain (body : Body) (status : Int) (contentType : Text) (headers : List (Text × Text)) :
    Response :=
  ⟨body.toValue, .int status, .text contentType, .tuple (headers.map headerValue)⟩

/-- A response of the default status, without headers. -/
def ofBody (body : Body) (contentType : Text) : Response := plain body 200 contentType []

/-- The response that carries a value as JSON, where at most `depth` arrays and objects are inside each other. -/
def ofJson (depth : Nat) (data : Value) (status : Value) : Except Failure Response :=
  match Json.write depth data with
  | .ok t => .ok ⟨.text t, status, .text jsonType, .tuple []⟩
  | .error e => .error (.ofWriteError e)

/-- The response as a record. -/
def toValue (r : Response) : Value :=
  .record .response
    [("body", r.body), ("status", r.status), ("content_type", r.contentType),
      ("headers", r.headers)]

/-- The response of the fields of a record. -/
def ofFields (fields : List (Text × Value)) : Response :=
  let get (name : Text) : Value := (fields.lookup name).getD .null
  ⟨get "body", get "status", get "content_type", get "headers"⟩

/-- The response with another status. -/
def withStatus (r : Response) (status : Value) : Response := { r with status := status }

/-- The response with one header more, behind the others. -/
def withHeader (r : Response) (name value : Value) : Except Failure Response :=
  match r.headers.parts? with
  | some headers => .ok { r with headers := .tuple (headers ++ [.tuple [name, value]]) }
  | none => .error (.notSpreadable r.headers.qualifiedTypeName)

/-! ## Reading -/

/-- The content in bytes, if it is text that has any; anything else is left as it is. -/
def bodyBytes (r : Response) : Except Failure Value :=
  match r.body with
  | .text t =>
    match Utf8.encode? t with
    | some b => .ok (.bytes b)
    | none => .error .notEncodable
  | v => .ok v

/-- The content as text, if it is bytes that are text; anything else is left as it is. -/
def bodyText (r : Response) : Except Failure Value :=
  match r.body with
  | .bytes b =>
    match Utf8.decode? false b with
    | some t => .ok (.text t)
    | none => .error .notDecodable
  | v => .ok v

/-- The value that the content writes in JSON, where at most `depth` arrays and objects are inside each
other. -/
def bodyJson (r : Response) (depth : Nat) : Except Failure Value := do
  match ← r.bodyBytes with
  | .bytes b | .buffer b => (Json.readBytes depth b).mapError .notReadable
  | v => .error (.noJson v.typeName)

/-- How many arrays and objects may be inside each other where little else is going on. -/
def depthLimit : Nat := 985

/-- The value that the content writes in JSON. -/
def json (r : Response) : Except Failure Value := r.bodyJson depthLimit

/-! ## Values that stand for a response -/

/-- The response of a value. A pair of a value and an integer sets the status of the value's response. Pairs,
arrays and objects inside each other take up `room`, one each. -/
def ofValue : (room : Nat) → Value → Except Failure Response
  | _, .record .response fields => .ok (ofFields fields)
  | _, .text t => .ok (ofBody (.text t) plainType)
  | _, .bytes b => .ok (ofBody (.bytes b) binaryType)
  | room, .dict entries => ofJson room (.dict entries) (.int 200)
  | room, .list items => ofJson room (.list items) (.int 200)
  | _, .null => .ok (plain (.text []) 204 plainType [])
  | room, .tuple [v, status] =>
    if status.integer?.isSome then
      match room with
      | 0 => .error .tooDeep
      | room + 1 => (ofValue room v).map (·.withStatus status)
    else .error (.noResponse "tuple")
  | _, v => .error (.noResponse v.typeName)

/-! ## Content -/

/-- Does a status allow content? Those from 100 to 199 do not, nor do 204 and 304. -/
def allowsBody (status : Value) : Except Failure Bool :=
  match status.number? with
  | none => .error (.notComparable status.qualifiedTypeName)
  | some n =>
    let is (m : Int) := Value.sameNumber (.inl m) n
    let informational := (Value.ltNumber (.inl 100) n || is 100) && Value.ltNumber n (.inl 200)
    .ok !(informational || is 204 || is 304)

/-- The content that is sent: none at all where the status allows none. -/
def sentBody (r : Response) : Except Failure Value := do
  if ← allowsBody r.status then r.bodyBytes else return .bytes []

end Response

end SemverDispatch
