import SemverDispatch.Proofs.ErrorResponse
import SemverDispatch.Proofs.Exchange

/-!
# One answer to every failure

A request fails if the router does, or if no response can be made of what the router answers; which values make a
response is a matter of their constructors (`Response.Answerable`). A client cannot tell one failure from another:
whatever failed, for whatever request, behind whatever router, the two messages that it gets are the same
(`concealed_handle`). What failed is in the log, and there it is once.

Two runs are compared in the main result, but no relation between runs is needed: the messages of a failure can be
written down beforehand (`failureMessages`), since the router sends nothing before it fails.
-/

namespace SemverDispatch

/-! ## Values that make a response -/

namespace Response

/-- A value that makes a response, where what is inside each other has `room`. -/
inductive Answerable : (room : Nat) → Value → Prop
  /-- a response -/
  | response {room : Nat} (fields : List (Text × Value)) : Answerable room (.record .response fields)
  /-- text -/
  | text {room : Nat} (t : Text) : Answerable room (.text t)
  /-- bytes -/
  | bytes {room : Nat} (b : Bytes) : Answerable room (.bytes b)
  /-- a mapping that has JSON -/
  | dict {room : Nat} {entries : List (Value × Value)} :
    Json.WritableIn room (.dict entries) → Answerable room (.dict entries)
  /-- a list that has JSON -/
  | list {room : Nat} {items : List Value} :
    Json.WritableIn room (.list items) → Answerable room (.list items)
  /-- nothing -/
  | null {room : Nat} : Answerable room .null
  /-- a pair of such a value and an integer -/
  | pair {room : Nat} {v status : Value} :
    Answerable room v → status.integer?.isSome → Answerable (room + 1) (.tuple [v, status])

variable {room : Nat} {v : Value}

theorem Answerable.exists_ofValue (h : Answerable room v) : ∃ r, ofValue room v = .ok r := by
  induction h with
  | response fields => exact ⟨_, by rw [ofValue]⟩
  | text t => exact ⟨_, by rw [ofValue]⟩
  | bytes b => exact ⟨_, by rw [ofValue]⟩
  | dict h =>
    rw [ofValue]
    exact exists_ofJson_iff.mpr h
  | list h =>
    rw [ofValue]
    exact exists_ofJson_iff.mpr h
  | null => exact ⟨_, by rw [ofValue]⟩
  | pair _ hstatus ih =>
    obtain ⟨r, hr⟩ := ih
    rw [ofValue, if_pos hstatus, hr]
    exact ⟨_, rfl⟩

theorem answerable_of_ofValue (h : ∃ r, ofValue room v = .ok r) : Answerable room v := by
  fun_induction ofValue room v with
  | case1 room fields => exact .response fields
  | case2 room t => exact .text t
  | case3 room b => exact .bytes b
  | case4 room entries => exact .dict (exists_ofJson_iff.mp h)
  | case5 room items => exact .list (exists_ofJson_iff.mp h)
  | case6 room => exact .null
  | case7 v status hstatus =>
    obtain ⟨r, hr⟩ := h
    cases hr
  | case8 v status hstatus room ih =>
    obtain ⟨r, hr⟩ := h
    obtain ⟨inner, hinner, -⟩ := Result.map_eq_ok_iff.mp hr
    exact .pair (ih ⟨inner, hinner⟩) hstatus
  | case9 room v status hstatus =>
    obtain ⟨r, hr⟩ := h
    cases hr
  | case10 room v =>
    obtain ⟨r, hr⟩ := h
    cases hr

/-- **A value makes a response exactly if its constructors say so**, at any nesting of pairs that there is room
for. -/
theorem exists_ofValue_iff : (∃ r, ofValue room v = .ok r) ↔ Answerable room v :=
  ⟨answerable_of_ofValue, Answerable.exists_ofValue⟩

end Response

/-! ## Failures that are hidden -/

/-- The line that an event logs of a failure, and the failure that it hides from the client. -/
def Event.hidden? : Event → Option (Text × Failure)
  | hidden line cause => some (line, cause)
  | _ => none

/-- What is logged of failures, in its order. -/
def Trace.hidden (t : Trace) : List (Text × Failure) := t.filterMap Event.hidden?

@[simp] theorem Trace.hidden_append (s t : Trace) : hidden (s ++ t) = hidden s ++ hidden t :=
  List.filterMap_append ..

@[simp] theorem Trace.hidden_map (messages : List Message) : hidden (messages.map .sent) = [] := by
  rw [hidden, List.filterMap_map]
  exact List.filterMap_eq_nil_iff.mpr fun _ _ => rfl

/-- Where callables run and steps are logged, and nothing else, no failure is hidden. -/
theorem Run.Internal.hidden {α : Type} {r : Run α} (h : r.Internal) : r.trace.hidden = [] := by
  refine List.filterMap_eq_nil_iff.mpr fun event hevent => ?_
  obtain ⟨c, rfl | rfl⟩ | ⟨line, rfl⟩ := h event hevent
  · rfl
  · rfl
  · rfl

namespace Gateway

variable {host : Host} {router : Router} {request : Request} {scope scope' : Scope} {response : Response}
  {e : Failure}

/-- A request fails: the router does, or what the router answers makes no response. -/
def Fails (host : Host) (router : Router) (request : Request) : Prop :=
  (∃ e, (router.dispatch host request).result = .error e) ∨
    ∃ value, (router.dispatch host request).result = .ok value ∧ ¬ Response.Answerable host.room value

theorem exists_respond_iff :
    (∃ response, (respond host router request).result = .ok response) ↔ ¬ Fails host router request := by
  have hrespond : respond host router request =
      router.dispatch host request >>= fun value => Run.ofExcept (Response.ofValue host.room value) := rfl
  rw [Fails, hrespond]
  cases hdispatch : (router.dispatch host request).result with
  | error e =>
    rw [Run.bind_of_error hdispatch]
    simp
  | ok value =>
    rw [Run.bind_of_ok hdispatch]
    simp [Run.ofExcept, Response.exists_ofValue_iff]

/-- What fails in answering is the router, or the making of a response out of its answer. -/
theorem exists_respond_error_iff :
    (∃ e, (respond host router request).result = .error e) ↔ Fails host router request := by
  rw [← not_iff_not, ← exists_respond_iff]
  cases (respond host router request).result with
  | ok response => simp
  | error e => simp

/-! ## The messages of a failure -/

/-- The messages that answer every failure. -/
def failureMessages : List Message :=
  let content := Message.ascii internalErrorBody
  [.responseStart (.int 500)
      [(Message.ascii "content-type", Message.ascii "application/json"),
        (Message.ascii "content-length", Message.ascii (Decimal.ofNat content.length))],
    .responseBody (.bytes content)]

/-- The response that stands for every failure is sent as these messages. -/
theorem send_internalError : send internalError = ⟨failureMessages.map .sent, .ok ()⟩ :=
  send_of_ok rfl

/-! ## One answer -/

/-- A request is answered behind the repair of failures. -/
theorem handle_of_isRequest (hscope : scope.IsRequest) (hrequest : Request.ofScope scope = .ok request)
    (incoming : List Text) :
    handle host router scope incoming = respondAlways host router request >>= send := by
  have hserve : handle host router scope incoming = serve host router scope := by
    rw [handle, hscope.kind]
    rfl
  rw [hserve, serve, hrequest]
  rfl

/-- What a failure leaves behind: the same messages as every other, and one line in the log. -/
structure Conceals (request : Request) (e : Failure) (run : Run Unit) : Prop where
  /-- the failure does not escape -/
  ends : run.result = .ok ()
  /-- the client gets the messages of a failure -/
  sent : run.trace.sent = failureMessages
  /-- the cause is logged -/
  logged : run.trace.hidden = [(failureLine request, e)]

/-- A failure is concealed. -/
theorem conceals_of_respond (hscope : scope.IsRequest) (hrequest : Request.ofScope scope = .ok request)
    (incoming : List Text) (h : (respond host router request).result = .error e) :
    Conceals request e (handle host router scope incoming) := by
  have hinternal : (respond host router request).Internal := internal_respond
  have hhandle : handle host router scope incoming =
      ⟨(respond host router request).trace ++ [.hidden (failureLine request) e] ++
        failureMessages.map .sent, .ok ()⟩ := by
    rw [handle_of_isRequest hscope hrequest, respondAlways_of_error h, Run.bind_of_ok rfl,
      send_internalError]
  have hsilent : (respond host router request).trace.sent = [] := hinternal.silent
  rw [hhandle]
  refine ⟨rfl, ?_, ?_⟩
  · rw [Trace.sent_append, Trace.sent_append, hsilent, Trace.sent_map]
    rfl
  · rw [Trace.hidden_append, Trace.hidden_append, hinternal.hidden, Trace.hidden_map]
    rfl

/-- Sending hides nothing. -/
theorem hidden_send : (send response).trace.hidden = [] := by
  cases hmessages : Message.ofResponse response with
  | ok messages => rw [send_of_ok hmessages, Trace.hidden_map]
  | error e =>
    rw [send_of_error hmessages]
    rfl

/-- Without a failure nothing is hidden. -/
theorem hidden_of_respond (hscope : scope.IsRequest) (hrequest : Request.ofScope scope = .ok request)
    (incoming : List Text) (h : (respond host router request).result = .ok response) :
    (handle host router scope incoming).trace.hidden = [] := by
  have hinternal : (respond host router request).Internal := internal_respond
  rw [handle_of_isRequest hscope hrequest, respondAlways_of_ok h, Run.bind_of_ok h, Trace.hidden_append,
    hinternal.hidden, hidden_send]
  rfl

/-- **A client cannot tell failures apart.** Where the router fails, or answers with what makes no response, the client
gets the messages of a failure, the cause is logged once, and it does not escape; where neither is so, no failure is
logged. So any two failures look the same from outside, whatever was requested of whichever router. -/
theorem concealed_handle (host host' : Host) (router router' : Router) (incoming incoming' : List Text)
    (hscope : scope.IsRequest) (hscope' : scope'.IsRequest) :
    ∃ request request', Request.ofScope scope = .ok request ∧ Request.ofScope scope' = .ok request' ∧
      (Fails host router request → ∃ e, (respond host router request).result = .error e ∧
        Conceals request e (handle host router scope incoming)) ∧
      (¬ Fails host router request → (handle host router scope incoming).trace.hidden = []) ∧
      (Fails host router request → Fails host' router' request' →
        (handle host router scope incoming).trace.sent =
          (handle host' router' scope' incoming').trace.sent) := by
  obtain ⟨request, hrequest⟩ := hscope.exists_ofScope
  obtain ⟨request', hrequest'⟩ := hscope'.exists_ofScope
  refine ⟨request, request', hrequest, hrequest', fun hfails => ?_, fun hfails => ?_,
    fun hfails hfails' => ?_⟩
  · obtain ⟨e, he⟩ := exists_respond_error_iff.mpr hfails
    exact ⟨e, he, conceals_of_respond hscope hrequest incoming he⟩
  · obtain ⟨response, hresponse⟩ := exists_respond_iff.mpr hfails
    exact hidden_of_respond hscope hrequest incoming hresponse
  · obtain ⟨e, he⟩ := exists_respond_error_iff.mpr hfails
    obtain ⟨e', he'⟩ := exists_respond_error_iff.mpr hfails'
    rw [(conceals_of_respond hscope hrequest incoming he).sent,
      (conceals_of_respond hscope' hrequest' incoming' he').sent]

/-- An error with a text of its own, and a value two pairs deep of which no response is made, look the same. -/
theorem concealed_handle_secret : ∃ router : Router,
    Router.build (.dict [(.text "^1", .function 0)]) .null = .ok router ∧
    (handle (.direct fun _ _ => .error (.raised "RuntimeError" "secret")) router (scopeOf "1") []).trace.sent =
      failureMessages ∧
    (handle (.direct fun _ _ => .error (.raised "RuntimeError" "secret")) router (scopeOf "1") []).trace.sent =
      (handle (.direct fun _ _ => .ok (.tuple [.tuple [.other "object", .int 200], .int 201])) router
        (scopeOf "1") []).trace.sent := by
  obtain ⟨router, hrouter, hraised, hreturned⟩ : ∃ router : Router,
      Router.build (.dict [(.text "^1", .function 0)]) .null = .ok router ∧
      (∀ request, Request.ofScope (scopeOf "1") = .ok request →
        (router.dispatch (.direct fun _ _ => .error (.raised "RuntimeError" "secret")) request).result =
          .error (.raised "RuntimeError" "secret")) ∧
      (∀ request, Request.ofScope (scopeOf "1") = .ok request →
        (router.dispatch (.direct fun _ _ => .ok (.tuple [.tuple [.other "object", .int 200], .int 201]))
          request).result = .ok (.tuple [.tuple [.other "object", .int 200], .int 201])) :=
    ⟨_, rfl, fun request h => by obtain rfl := Except.ok.inj h; rfl,
      fun request h => by obtain rfl := Except.ok.inj h; rfl⟩
  have hrejected :
      ¬ Response.Answerable Response.depthLimit (.tuple [.tuple [.other "object", .int 200], .int 201]) := by
    rintro (_ | _ | _ | _ | _ | _ | ⟨_ | _ | _ | _ | _ | _ | ⟨hinner, -⟩, -⟩)
    cases hinner
  obtain ⟨request, request', hrequest, hrequest', hconceals, -, hsame⟩ :=
    concealed_handle (.direct fun _ _ => .error (.raised "RuntimeError" "secret"))
      (.direct fun _ _ => .ok (.tuple [.tuple [.other "object", .int 200], .int 201])) router router [] []
      (isRequest_scopeOf "1") (isRequest_scopeOf "1")
  have hfails : Fails _ router request := .inl ⟨_, hraised request hrequest⟩
  have hfails' : Fails _ router request' := .inr ⟨_, hreturned request' hrequest', hrejected⟩
  obtain ⟨e, -, hconcealed⟩ := hconceals hfails
  exact ⟨router, hrouter, hconcealed.sent, hsame hfails hfails'⟩

end Gateway

end SemverDispatch
