import SemverDispatch.Proofs.Dispatch
import SemverDispatch.Proofs.Framing

/-!
# One response for a request

The router sends nothing (`Router.internal_dispatch`), and whatever fails in it, or in the making of a response
out of its answer, is repaired. The sending itself stands behind the repair. So a request is answered by two
messages, or not at all and the failure escapes; the main result `answeredOnce_handle_iff` says when it is which:
everything depends on whether the response of the router's answer can be framed.
-/

namespace SemverDispatch

/-! ## Messages that are sent -/

/-- The message that an event sends. -/
def Event.message? : Event → Option Message
  | sent m => some m
  | _ => none

/-- The messages that are sent, in their order. -/
def Trace.sent (t : Trace) : List Message := t.filterMap Event.message?

@[simp] theorem Trace.sent_append (s t : Trace) : sent (s ++ t) = sent s ++ sent t :=
  List.filterMap_append ..

@[simp] theorem Trace.sent_map (messages : List Message) : sent (messages.map .sent) = messages := by
  induction messages with
  | nil => rfl
  | cons m rest ih => exact congrArg (m :: ·) ih

namespace Run

variable {α β : Type} {r : Run α} {f : α → Run β}

/-- Nothing is sent. -/
def Silent (r : Run α) : Prop := r.trace.sent = []

/-- All that happens is that callables run, are awaited, and steps of dispatch are logged. -/
def Internal (r : Run α) : Prop :=
  ∀ event ∈ r.trace, (∃ c, event = .called c ∨ event = .awaited c) ∨ ∃ line, event = .logged line

/-- Where this is all that happens, nothing is sent. -/
theorem Internal.silent (h : r.Internal) : r.Silent := by
  refine List.filterMap_eq_nil_iff.mpr fun event hevent => ?_
  obtain ⟨c, rfl | rfl⟩ | ⟨line, rfl⟩ := h event hevent
  · rfl
  · rfl
  · rfl

@[simp] theorem internal_pure (a : α) : (pure a : Run α).Internal := List.forall_mem_nil _

@[simp] theorem internal_ofExcept (x : Except Failure α) : (ofExcept x).Internal := List.forall_mem_nil _

@[simp] theorem internal_logged (line : Text) : (emit (.logged line)).Internal :=
  List.forall_mem_singleton.mpr (.inr ⟨line, rfl⟩)

theorem Internal.inCoroutine (h : r.Internal) : r.inCoroutine.Internal := h

/-- Runs in a row are internal, if each is. -/
theorem Internal.bind (hr : r.Internal) (hf : ∀ a, (f a).Internal) : (r >>= f).Internal := by
  cases hresult : r.result with
  | ok a =>
    rw [Internal, bind_of_ok hresult]
    exact List.forall_mem_append.mpr ⟨hr, hf a⟩
  | error e =>
    rw [Internal, bind_of_error hresult]
    exact hr

end Run

/-! ## The router sends nothing -/

variable {host : Host} {request : Request}

theorem Host.internal_invoke (c : Callable) (arguments : List Argument) :
    (host.invoke c arguments).Internal := by
  rw [Host.invoke_eq, Run.Internal, Host.steps]
  split
  · exact List.forall_mem_cons.mpr
      ⟨.inl ⟨c, .inl rfl⟩, List.forall_mem_singleton.mpr (.inl ⟨c, .inr rfl⟩)⟩
  · exact List.forall_mem_singleton.mpr (.inl ⟨c, .inl rfl⟩)

theorem Host.internal_call (c : Callable) (arguments : List Argument) : (host.call c arguments).Internal :=
  fun _ hevent => .inl ⟨c, .inl (called_of_mem_call hevent)⟩

theorem Extractor.internal_extract {policy : Policy} :
    ((ofPolicy policy).extract host request).Internal := by
  intro event hevent
  obtain ⟨c, -, rfl⟩ := called_of_mem_extract hevent
  exact .inl ⟨c, .inl rfl⟩

namespace Router

variable {r : Router}

theorem internal_answerError (e : VersioningError) : (r.answerError host request e).Internal := by
  have hafter (handled : Value) : (do
      if handled.isNull then return (← Run.ofExcept (r.errorResponse host.room e)).toValue
      else return handled : Run Value).Internal := by
    split
    · exact (Run.internal_ofExcept _).bind fun _ => Run.internal_pure _
    · exact Run.internal_pure _
  refine (Run.internal_logged _).bind fun _ => ?_
  dsimp only
  split
  · exact (Host.internal_invoke _ _).bind hafter
  · exact (Run.internal_pure _).bind hafter

theorem internal_notFound (requested : Option Text) : (r.notFound host requested).Internal := by
  unfold notFound
  dsimp only
  split
  · exact (Host.internal_call _ _).bind fun _ => Run.internal_pure _
  · exact Run.internal_pure _

theorem internal_fallBack (found : Option Extracted) : (r.fallBack host request found).Internal := by
  refine (Run.internal_logged _).bind fun _ => ?_
  split
  · exact Host.internal_invoke _ _
  · exact (internal_notFound _).inCoroutine.bind fun e => internal_answerError e

theorem internal_answerVersion (x : Extracted) : (r.answerVersion host request x).Internal := by
  unfold answerVersion
  split
  · exact internal_answerError _
  · split
    · exact (Run.internal_logged _).bind fun _ => Host.internal_invoke _ _
    · exact internal_fallBack _

/-- **The router sends nothing, and hides nothing**: it logs its steps and runs callables. -/
theorem internal_dispatch : (r.dispatch host request).Internal := by
  refine Extractor.internal_extract.inCoroutine.bind fun found => ?_
  cases found with
  | some x => exact internal_answerVersion x
  | none =>
    dsimp only
    split
    · exact internal_answerError _
    · exact internal_fallBack _

end Router

/-! ## Requests of a server -/

/-- The scope of a request as a server makes it. -/
structure Scope.IsRequest (scope : Scope) : Prop where
  /-- it says that it is one -/
  kind : scope.kind = some (.text "http")
  /-- the method is text, if there is one -/
  method : ∀ v, scope.method = some v → ∃ t, v = .text t
  /-- the path is text -/
  path : ∃ t, scope.path = some (.text t)
  /-- the query is bytes -/
  query : ∃ b, scope.query = .bytes b
  /-- the state is a mapping, if there is one -/
  state : scope.state = .null ∨ ∃ entries, scope.state = .dict entries

/-- Such a scope makes a request. -/
theorem Scope.IsRequest.exists_ofScope {scope : Scope} (h : scope.IsRequest) :
    ∃ request, Request.ofScope scope = .ok request := by
  obtain ⟨path, hpath⟩ := h.path
  obtain ⟨query, hquery⟩ := h.query
  obtain ⟨version, hversion⟩ : ∃ version, Request.presetVersion scope.state = .ok version := by
    rcases h.state with hnull | ⟨entries, hentries⟩
    · exact ⟨.null, by rw [hnull]; rfl⟩
    · rw [hentries, Request.presetVersion]
      split
      · exact ⟨_, rfl⟩
      · exact ⟨_, rfl⟩
  rw [Request.ofScope, hpath, hquery, hversion]
  exact ⟨_, rfl⟩

/-! ## What a request is answered with -/

namespace Gateway

variable {router : Router} {scope : Scope} {response : Response} {e : Failure}

/-- The response that stands for every failure can be framed. -/
theorem framable_internalError : internalError.Framable where
  status := rfl
  content := fun _ => ⟨rfl, fun t ht => by obtain rfl := Value.text.inj ht; decide⟩
  contentType := ⟨_, rfl, by decide⟩
  headers := ⟨[], rfl, nofun⟩

theorem internal_respond : (respond host router request).Internal :=
  Router.internal_dispatch.bind fun _ => Run.internal_ofExcept _

/-- A router's answer that makes a response is answered with it. -/
theorem respondAlways_of_ok (h : (respond host router request).result = .ok response) :
    respondAlways host router request = respond host router request := by
  rw [respondAlways, Run.recover, h]

/-- Any failure is answered with the response that stands for it. -/
theorem respondAlways_of_error (h : (respond host router request).result = .error e) :
    respondAlways host router request =
      ⟨(respond host router request).trace ++ [.hidden (failureLine request) e], .ok internalError⟩ := by
  rw [respondAlways, Run.recover, h]
  rfl

/-- **Whatever fails, there is a response**: that of the router's answer, or else the one that stands for every
failure. And nothing has been sent yet. -/
theorem exists_respondAlways (host : Host) (router : Router) (request : Request) :
    (respondAlways host router request).Silent ∧
      ∃ response, (respondAlways host router request).result = .ok response ∧
      (response.Framable ↔ ∀ value answer, (router.dispatch host request).result = .ok value →
        Response.ofValue host.room value = .ok answer → answer.Framable) := by
  have hsilent : (respond host router request).Silent := internal_respond.silent
  have hrespond : respond host router request =
      router.dispatch host request >>= fun value => Run.ofExcept (Response.ofValue host.room value) := rfl
  -- the router's answer may fail, or no response may be made of it, or it is the response
  cases hdispatch : (router.dispatch host request).result with
  | error e =>
    have herror : (respond host router request).result = .error e := by
      rw [hrespond, Run.bind_of_error hdispatch]
    rw [respondAlways_of_error herror, Run.Silent, Trace.sent_append, hsilent]
    exact ⟨rfl, _, rfl, fun _ => nofun, fun _ => framable_internalError⟩
  | ok value =>
    have hresult : (respond host router request).result = Response.ofValue host.room value := by
      rw [hrespond, Run.bind_of_ok hdispatch]
      rfl
    cases hvalue : Response.ofValue host.room value with
    | error e =>
      rw [respondAlways_of_error (hresult.trans hvalue), Run.Silent, Trace.sent_append, hsilent]
      refine ⟨rfl, _, rfl, fun _ v answer hv hanswer => ?_, fun _ => framable_internalError⟩
      obtain rfl := Except.ok.inj hv
      rw [hvalue] at hanswer
      cases hanswer
    | ok response =>
      rw [respondAlways_of_ok (hresult.trans hvalue)]
      refine ⟨hsilent, response, hresult.trans hvalue, fun h v answer hv hanswer => ?_,
        fun h => h value response rfl hvalue⟩
      obtain rfl := Except.ok.inj hv
      obtain rfl := Except.ok.inj (hvalue.symm.trans hanswer)
      exact h

/-- A run that ends well and sends one response: its start and its content. -/
structure AnsweredOnce (run : Run Unit) : Prop where
  /-- no failure escapes -/
  ends : run.result = .ok ()
  /-- there are two messages -/
  sent : ∃ status headers body, run.trace.sent = [.responseStart status headers, .responseBody body]

/-- **A request is answered by exactly one response, unless the response of the router's answer cannot be framed.**
A failure of the router, or of the making of a response out of its answer, is repaired in time; a response
that cannot be framed is not, and then nothing is sent and the failure escapes. -/
theorem answeredOnce_handle_iff (host : Host) (router : Router) (incoming : List Text)
    (hscope : scope.IsRequest) : ∃ request, Request.ofScope scope = .ok request ∧
    (AnsweredOnce (handle host router scope incoming) ↔ ∀ value answer,
      (router.dispatch host request).result = .ok value → Response.ofValue host.room value = .ok answer →
        answer.Framable) ∧
    (¬ AnsweredOnce (handle host router scope incoming) →
      (handle host router scope incoming).trace.sent = [] ∧
        ∃ e, (handle host router scope incoming).result = .error e) := by
  obtain ⟨request, hrequest⟩ := hscope.exists_ofScope
  obtain ⟨hsilent, response, hresponse, hframable⟩ := exists_respondAlways host router request
  have hhandle : handle host router scope incoming =
      ⟨(respondAlways host router request).trace ++ (send response).trace, (send response).result⟩ := by
    have hserve : handle host router scope incoming = serve host router scope := by
      rw [handle, hscope.kind]
      rfl
    rw [hserve, serve, hrequest, ← Run.bind_of_ok hresponse]
    rfl
  refine ⟨request, hrequest, ?_⟩
  rw [← hframable, ← Response.exists_ofResponse_iff, hhandle]
  rw [Run.Silent] at hsilent
  cases hmessages : Message.ofResponse response with
  | ok messages =>
    obtain ⟨body, contentType, items, own, length, -, -, -, -, -, -, rfl⟩ :=
      Message.ofResponse_eq_ok_iff.mp hmessages
    have hanswered : AnsweredOnce
        ⟨(respondAlways host router request).trace ++ (send response).trace, (send response).result⟩ := by
      rw [send_of_ok hmessages]
      exact ⟨rfl, _, _, _, by rw [Trace.sent_append, hsilent, Trace.sent_map, List.nil_append]⟩
    exact ⟨⟨fun _ => ⟨_, rfl⟩, fun _ => hanswered⟩, fun hnot => absurd hanswered hnot⟩
  | error e =>
    rw [send_of_error hmessages, List.append_nil]
    refine ⟨⟨fun h => ?_, fun h => ?_⟩, fun _ => ⟨hsilent, e, rfl⟩⟩
    · cases h.ends
    · obtain ⟨messages, h⟩ := h
      cases h

/-- The scope of a request for a version. -/
def scopeOf (version : Text) : Scope where
  kind := some (.text "http")
  method := none
  path := some (.text "/users")
  headers := [(Message.ascii "accept-version", Message.ascii version)]
  query := .bytes []
  state := .null
  others := []

theorem isRequest_scopeOf (version : Text) : (scopeOf version).IsRequest where
  kind := rfl
  method := nofun
  path := ⟨_, rfl⟩
  query := ⟨_, rfl⟩
  state := .inl rfl

/-- A handler that answers with text is heard. -/
theorem answeredOnce_text : ∃ router : Router,
    Router.build (.dict [(.text "^1", .function 0)]) .null = .ok router ∧
    AnsweredOnce (handle (.direct fun _ _ => .ok (.text "v1")) router (scopeOf "1") []) := by
  obtain ⟨router, hrouter, hdispatch⟩ : ∃ router : Router,
      Router.build (.dict [(.text "^1", .function 0)]) .null = .ok router ∧
      ∀ request, Request.ofScope (scopeOf "1") = .ok request →
        (router.dispatch (.direct fun _ _ => .ok (.text "v1")) request).result = .ok (.text "v1") :=
    ⟨_, rfl, fun request h => by obtain rfl := Except.ok.inj h; rfl⟩
  obtain ⟨request, hrequest, hiff, -⟩ := answeredOnce_handle_iff (.direct fun _ _ => .ok (.text "v1")) router []
    (isRequest_scopeOf "1")
  refine ⟨router, hrouter, hiff.mpr fun value answer hvalue hanswer => ?_⟩
  obtain rfl := Except.ok.inj ((hdispatch request hrequest).symm.trans hvalue)
  obtain rfl := Except.ok.inj hanswer
  exact Response.exists_ofResponse_iff.mp ⟨_, rfl⟩

/-- A header value beyond Latin-1 leaves the request without any response. -/
theorem not_answeredOnce_header : ∃ router : Router,
    Router.build (.dict [(.text "^1", .function 0)]) .null = .ok router ∧
    (scopeOf "1").IsRequest ∧
    (handle (.direct fun _ _ =>
        .ok (Response.plain (.text "v1") 200 Response.plainType [("X", "日本")]).toValue)
      router (scopeOf "1") []).trace.sent = [] ∧
    (handle (.direct fun _ _ =>
        .ok (Response.plain (.text "v1") 200 Response.plainType [("X", "日本")]).toValue)
      router (scopeOf "1") []).result = .error .notEncodable :=
  ⟨_, rfl, isRequest_scopeOf "1", rfl, rfl⟩

end Gateway

end SemverDispatch
