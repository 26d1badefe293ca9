import SemverDispatch.Proofs.Dispatch
import SemverDispatch.Proofs.ErrorResponse

/-!
# What becomes of a request

Every request that extraction has looked at ends in one of four ways: an error for want of a version, an error
for a text that is no version, an error for a version that nothing answers, or one handler. A `Verdict` is one
of these, `Verdict.Follows` is the table that says which one it is, in terms of the mapping and the policy, and
`Verdict.Ends` says what runs for it and what comes of it.

The main result, `exists_verdict`, is about routers that speak text: as long as no callable raises, every
request has its verdict by the table, and there always is a response. Extraction itself then fails only where
the path cannot be searched (`Extractor.failsInPathOnly_extract`). That a router is never empty is what
leaves the error for a version that nothing answers to the strictest fallback alone.
-/

namespace SemverDispatch

/-! ## Calls -/

/-- The callable that an event runs. -/
def Event.callee? : Event → Option Callable
  | called c => some c
  | _ => none

/-- The callables that run, in their order. -/
def Trace.calls (t : Trace) : List Callable := t.filterMap Event.callee?

namespace Trace

@[simp] theorem calls_append (s t : Trace) : calls (s ++ t) = calls s ++ calls t :=
  List.filterMap_append ..

@[simp] theorem calls_logged (line : Text) (t : Trace) : calls (.logged line :: t) = calls t := rfl

/-- To call a callable and to await its reply is one call. -/
@[simp] theorem calls_steps (host : Host) (c : Callable) (arguments : List Argument) :
    calls (host.steps c arguments) = [c] := by
  unfold Host.steps
  split <;> rfl

end Trace

/-! ## Verdicts -/

/-- What becomes of a request. -/
inductive Verdict where
  /-- an error of dispatch -/
  | refused (e : VersioningError)
  /-- a handler, the key that it is said to match, and the request that it sees -/
  | served (matched : Text) (handler : Callable) (seen : Request)

/-- No route is to be looked for, or none is found: the request has no version and needs none, or it has a
version that no entry admits. -/
def Unmatched (entries : List (Value × Value)) (policy : Policy) (found : Option Extracted) : Prop :=
  (found = none ∧ policy.requireVersion.isTruthy = false) ∨
    ∃ x client, found = some x ∧ Version.parse? x.version = some client ∧
      ∀ entry ∈ entries, ∀ reg : Registration, reg.WrittenBy entry →
        ¬ reg.range.admits client = true

namespace Unmatched

variable {entries : List (Value × Value)} {policy : Policy} {found : Option Extracted}

theorem not_missing (h : Unmatched entries policy found) :
    ¬ (found = none ∧ policy.requireVersion.isTruthy = true) := by
  rintro ⟨rfl, hrequire⟩
  rcases h with ⟨-, hnot⟩ | ⟨x, -, hx, -⟩
  · rw [hnot] at hrequire
    cases hrequire
  · cases hx

theorem not_invalid (h : Unmatched entries policy found) :
    ¬ ∃ x, found = some x ∧ Version.parse? x.version = none := by
  rintro ⟨x, rfl, hparse⟩
  rcases h with ⟨hx, -⟩ | ⟨x', client, hx, hclient, -⟩
  · cases hx
  · obtain rfl := Option.some.inj hx
    rw [hparse] at hclient
    cases hclient

theorem not_admitted {x : Extracted} {client : Version} (h : Unmatched entries policy found)
    (hx : found = some x) (hclient : Version.parse? x.version = some client) :
    ¬ ∃ entry ∈ entries, ∃ reg : Registration, reg.WrittenBy entry ∧
      reg.range.admits client = true := by
  rintro ⟨entry, hentry, reg, hreg, hadmits⟩
  rcases h with ⟨hnone, -⟩ | ⟨x', client', hx', hclient', hnot⟩
  · rw [hx] at hnone
    cases hnone
  · obtain rfl := Option.some.inj (hx.symm.trans hx')
    obtain rfl := Option.some.inj (hclient.symm.trans hclient')
    exact hnot entry hentry reg hreg hadmits

end Unmatched

/-- What a policy falls back to: the default handler, exactly if it is to be used and there is one, or else the
latest registration. -/
structure FallsBackTo (entries : List (Value × Value)) (policy : Policy) (matched : Text)
    (handler : Callable) : Prop where
  /-- when it is the default handler -/
  isDefault_iff : matched = Router.defaultKey ↔
    policy.fallback = .default ∧ policy.defaultHandler.isSome = true
  /-- the default handler -/
  isDefault : matched = Router.defaultKey → policy.defaultHandler = some handler
  /-- the latest registration -/
  isLatest : matched ≠ Router.defaultKey → ∃ latest : Registration, latest.key = matched ∧
    latest.handler = handler ∧ Registration.IsLatest entries latest

/-- Without a default handler, the only entry is what a policy falls back to. -/
theorem FallsBackTo.eq_of_singleton {entry : Value × Value} {policy : Policy} {matched : Text}
    {handler : Callable} {only : Registration} (h : FallsBackTo [entry] policy matched handler)
    (hdefault : policy.defaultHandler = none) (honly : only.WrittenBy entry) :
    matched = only.key ∧ handler = only.handler := by
  have hmatched : matched ≠ Router.defaultKey := fun heq => by
    have hsome := (h.isDefault_iff.mp heq).2
    rw [hdefault] at hsome
    cases hsome
  obtain ⟨latest, rfl, rfl, hlatest⟩ := h.isLatest hmatched
  obtain ⟨before, entry', after, hsplit, hwritten, -⟩ := hlatest.isBest.ahead
  obtain rfl : entry' = entry := List.mem_singleton.mp (hsplit ▸ List.mem_append_cons_self)
  obtain rfl := hwritten.unique honly
  exact ⟨rfl, rfl⟩

namespace Verdict

variable {e : VersioningError} {kind : ErrorKind} {matched : Text} {handler : Callable}
  {request seen : Request} {entries : List (Value × Value)} {policy : Policy} {found : Option Extracted}

/-- Is it an error of a kind? -/
def Refuses (v : Verdict) (kind : ErrorKind) : Prop := ∃ e, v = refused e ∧ e.kind = kind

@[simp] theorem refuses_refused : (refused e).Refuses kind ↔ e.kind = kind := by
  simp [Refuses]

@[simp] theorem not_refuses_served : ¬ (served matched handler seen).Refuses kind := by
  simp [Refuses]

/-- The table of verdicts. -/
structure Follows (entries : List (Value × Value)) (policy : Policy) (request : Request)
    (found : Option Extracted) (v : Verdict) : Prop where
  /-- the error for want of a version -/
  missing : v.Refuses .missingVersion ↔ found = none ∧ policy.requireVersion.isTruthy = true
  /-- the error for a text that is no version -/
  invalid : v.Refuses .invalidVersionFormat ↔ ∃ x, found = some x ∧ Version.parse? x.version = none
  /-- the error for a version that nothing answers -/
  notFound : v.Refuses .versionNotFound ↔ policy.fallback = .none ∧ Unmatched entries policy found
  /-- there are no other errors -/
  refused_kind : ∀ kind, v.Refuses kind →
    kind = .missingVersion ∨ kind = .invalidVersionFormat ∨ kind = .versionNotFound
  /-- a version that some entry admits is served by the best such entry -/
  admitted : ∀ x client, found = some x → Version.parse? x.version = some client →
    (∃ entry ∈ entries, ∃ reg : Registration, reg.WrittenBy entry ∧
      reg.range.admits client = true) →
    ∃ best seen, v = served best.key best.handler seen ∧
      Registration.IsBest entries (·.admits client) best ∧ SeenAs policy found request best.key seen
  /-- all else is served by the handler that the policy falls back to -/
  fellBack : policy.fallback ≠ .none → Unmatched entries policy found →
    ∃ matched handler seen, v = served matched handler seen ∧
      SeenAs policy found request matched seen ∧ FallsBackTo entries policy matched handler

/-! Each row of the table is a case of its own. -/

theorem follows_of_missing (hrequire : policy.requireVersion.isTruthy = true)
    (hkind : e.kind = .missingVersion) : (refused e).Follows entries policy request none where
  missing := by simp [hkind, hrequire]
  invalid := by simp [hkind]
  notFound := by simp [hkind, Unmatched, hrequire]
  refused_kind := by simp [hkind]
  admitted := nofun
  fellBack := fun _ hun => absurd ⟨rfl, hrequire⟩ hun.not_missing

theorem follows_of_invalid {x : Extracted} (hparse : Version.parse? x.version = none)
    (hkind : e.kind = .invalidVersionFormat) : (refused e).Follows entries policy request (some x) where
  missing := by simp [hkind]
  invalid := by simp [hkind, hparse]
  notFound := by simp [hkind, Unmatched, hparse]
  refused_kind := by simp [hkind]
  admitted := fun x' client hx hclient _ => by
    obtain rfl := Option.some.inj hx
    rw [hparse] at hclient
    cases hclient
  fellBack := fun _ hun => absurd ⟨x, rfl, hparse⟩ hun.not_invalid

theorem follows_of_admitted {x : Extracted} {client : Version} {best : Registration}
    (hclient : Version.parse? x.version = some client)
    (hbest : Registration.IsBest entries (·.admits client) best)
    (hseen : SeenAs policy (some x) request best.key seen) :
    (served best.key best.handler seen).Follows entries policy request (some x) := by
  have hmatched : ¬ Unmatched entries policy (some x) := by
    obtain ⟨_, entry, _, hsplit, hwritten, -⟩ := hbest.ahead
    exact fun hun => hun.not_admitted rfl hclient
      ⟨entry, by rw [hsplit]; simp, best, hwritten, hbest.passes⟩
  constructor
  case missing => simp
  case invalid => simp [hclient]
  case notFound => simp [hmatched]
  case refused_kind => simp
  case admitted =>
    intro x' client' hx hclient' _
    obtain rfl := Option.some.inj hx
    obtain rfl := Option.some.inj (hclient.symm.trans hclient')
    exact ⟨best, seen, rfl, hbest, hseen⟩
  case fellBack => exact fun _ hun => absurd hun hmatched

theorem follows_of_strict (hun : Unmatched entries policy found) (hstrict : policy.fallback = .none)
    (hkind : e.kind = .versionNotFound) : (refused e).Follows entries policy request found where
  missing := by simp [hkind, hun.not_missing]
  invalid := by simp [hkind, hun.not_invalid]
  notFound := by simp [hkind, hun, hstrict]
  refused_kind := by simp [hkind]
  admitted := fun _ _ hx hclient hadmits => absurd hadmits (hun.not_admitted hx hclient)
  fellBack := fun h => absurd hstrict h

theorem follows_of_lenient (hun : Unmatched entries policy found) (hlenient : policy.fallback ≠ .none)
    (hseen : SeenAs policy found request matched seen)
    (hmatched : FallsBackTo entries policy matched handler) :
    (served matched handler seen).Follows entries policy request found where
  missing := by simp [hun.not_missing]
  invalid := by simp [hun.not_invalid]
  notFound := by simp [hlenient]
  refused_kind := by simp
  admitted := fun _ _ hx hclient hadmits => absurd hadmits (hun.not_admitted hx hclient)
  fellBack := fun _ _ => ⟨matched, handler, seen, rfl, hseen, hmatched⟩

/-- The callables that run for a verdict: one handler, or no handler at all, but the function that makes the
message, if there is one, and the hook. -/
def calls (policy : Policy) : Verdict → List Callable
  | served _ handler _ => [handler]
  | refused e =>
    (if e.kind = .versionNotFound then policy.notFoundMessage.callable?.toList else [])
      ++ policy.onError.toList

/-- What a verdict gives: what the handler answers, or what the hook answers, or the response of the error if
there is no hook or the hook answers nothing. -/
def Gives (r : Router) (host : Host) (request : Request) (value : Value) : Verdict → Prop
  | served _ handler seen => host.outcome handler [.request seen] = .ok value
  | refused e =>
    (∃ hook, r.policy.onError = some hook ∧ value.isNull = false ∧
      host.outcome hook [.error e, .request request] = .ok value) ∨
    ((∀ hook, r.policy.onError = some hook →
        host.outcome hook [.error e, .request request] = .ok .null) ∧
      ∃ response, r.errorResponse host.room e = .ok response ∧ value = response.toValue)

/-- A run is that of a verdict, behind some calls: then it runs the callables of the verdict, and gives what
the verdict gives. -/
structure Ends (r : Router) (host : Host) (request : Request) (before : List Callable) (run : Run Value)
    (v : Verdict) : Prop where
  /-- what runs -/
  calls : run.trace.calls = before ++ v.calls r.policy
  /-- what comes of it -/
  gives : ∃ value, run.result = .ok value ∧ v.Gives r host request value

end Verdict

/-! ## Errors -/

namespace Router

variable {r : Router} {host : Host} {request : Request} {e : VersioningError}
  {entries : List (Value × Value)} {options : Value} {found : Option Extracted}

/-- All messages of a router are text; if a function makes one, it gives text for every version. -/
structure SpeaksText (r : Router) (host : Host) : Prop where
  /-- what is said when no version came -/
  missing : ∃ t, r.policy.missingMessage = .text t
  /-- what is said when nothing answers a version -/
  notFound : (∃ t, r.policy.notFoundMessage = .text t) ∨
    ∃ c, r.policy.notFoundMessage = c.value ∧
      ∀ version : Text, ∃ t, (host.call c [.value (.text version)]).result = .ok (.text t)

theorem inText_missing (h : r.SpeaksText host) : r.missing.InText := by
  obtain ⟨t, ht⟩ := h.missing
  exact ⟨⟨_, rfl⟩, ⟨t, ht⟩, .inl rfl, .inl rfl⟩

theorem inText_invalid (version : Text) : (r.invalid version).InText :=
  ⟨⟨_, rfl⟩, ⟨_, rfl⟩, .inr ⟨version, rfl⟩, .inl rfl⟩

/-- An error for a version that nothing answers is in text, also where its message is empty. -/
theorem inText_versionNotFound {version : Value} (h : version = .null ∨ ∃ t, version = .text t)
    (label : Text) (available : List Text) (message : Text) (status : Value) :
    (VersioningError.versionNotFound version label (available.map .text) (.text message) status).InText := by
  refine ⟨⟨_, rfl⟩, ?_, h, .inr ⟨available, rfl⟩⟩
  by_cases hmessage : (Value.text message).isTruthy = true
  · exact ⟨message, if_pos hmessage⟩
  · exact ⟨_, if_neg hmessage⟩

/-- The error for a version that nothing answers is made of text, by the message function if there is one. -/
theorem notFound_of_speaksText (h : r.SpeaksText host) (requested : Option Text) :
    ∃ e, (r.notFound host requested).result = .ok e ∧ e.kind = .versionNotFound ∧ e.InText ∧
      (r.notFound host requested).trace.calls = r.policy.notFoundMessage.callable?.toList := by
  have htext (message : Text) : (VersioningError.versionNotFound (.ofText? requested)
      (requested.getD VersioningError.unknownLabel) (r.available.map .text) (.text message)
      (.int r.policy.notFoundStatus)).InText :=
    inText_versionNotFound (Value.ofText?_eq_null_or requested) _ _ _ _
  rcases h.notFound with ⟨t, ht⟩ | ⟨c, hc, hcall⟩
  · simp only [notFound, ht, pure_bind]
    exact ⟨_, rfl, rfl, htext t, rfl⟩
  · -- a request without a version is reported under this name
    obtain ⟨t, ht⟩ := hcall (requested.getD VersioningError.unknownLabel)
    simp only [notFound, hc, Callable.callable?_value, Host.call_of_result ht, Run.mk_ok_bind]
    exact ⟨_, rfl, rfl, htext t, rfl⟩

/-- Without a hook an error is answered by its response. -/
theorem answerError_of_noHook (hhook : r.policy.onError = none) :
    r.answerError host request e =
      ⟨[.logged (errorLine request e)], (r.errorResponse host.room e).map Response.toValue⟩ := by
  simp only [answerError, hhook]
  cases r.errorResponse host.room e with
  | ok response => rfl
  | error failure => rfl

/-- A hook answers an error, unless it answers nothing. -/
theorem answerError_of_hook {hook : Callable} {v : Value} (hhook : r.policy.onError = some hook)
    (hv : host.outcome hook [.error e, .request request] = .ok v) :
    r.answerError host request e =
      ⟨.logged (errorLine request e) :: host.steps hook [.error e, .request request],
        if v.isNull then (r.errorResponse host.room e).map Response.toValue else .ok v⟩ := by
  have hsettled : (if v.isNull then do return (← Run.ofExcept (r.errorResponse host.room e)).toValue
      else return v : Run Value) =
      ⟨[], if v.isNull then (r.errorResponse host.room e).map Response.toValue else .ok v⟩ := by
    cases v.isNull with
    | true => cases r.errorResponse host.room e <;> rfl
    | false => rfl
  simp only [answerError, hhook, Host.invoke_eq, Host.answer_of_outcome hv, Run.emit, Run.mk_ok_bind,
    hsettled, List.append_nil]
  rfl

/-- An error in text is answered by the hook or by its response. -/
theorem answerError_of_inText (request : Request) (he : e.InText)
    (hanswers : ∀ c arguments, ∃ v, host.outcome c arguments = .ok v) :
    (r.answerError host request e).trace.calls = r.policy.onError.toList ∧
      ∃ value, (r.answerError host request e).result = .ok value ∧
        (Verdict.refused e).Gives r host request value := by
  obtain ⟨response, hresponse⟩ := exists_errorResponse (r := r) host.two_le_room he
  cases hhook : r.policy.onError with
  | none =>
    rw [answerError_of_noHook hhook, hresponse]
    refine ⟨rfl, _, rfl, .inr ⟨fun hook h => ?_, response, hresponse, rfl⟩⟩
    rw [hhook] at h
    cases h
  | some hook =>
    obtain ⟨v, hv⟩ := hanswers hook [.error e, .request request]
    rw [answerError_of_hook hhook hv, hresponse]
    cases hnull : v.isNull with
    | false => exact ⟨by simp, v, rfl, .inl ⟨hook, hhook, hnull, hv⟩⟩
    | true =>
      obtain rfl := Value.isNull_iff.mp hnull
      refine ⟨by simp, response.toValue, rfl, .inr ⟨fun hook' h => ?_, response, hresponse, rfl⟩⟩
      obtain rfl : hook = hook' := Option.some.inj (hhook.symm.trans h)
      exact hv

/-! ## Handlers -/

variable {handler : Callable} {matched : Text}

/-- A handler that runs last ends the run of its verdict. -/
theorem ends_served {seen : Request} (trace : Trace) (htrace : trace.calls = [handler])
    (hanswers : ∀ c arguments, ∃ v, host.outcome c arguments = .ok v) :
    (Verdict.served matched handler seen).Ends r host request []
      ⟨trace, host.answer handler [.request seen]⟩ := by
  obtain ⟨value, hvalue⟩ := hanswers handler [.request seen]
  exact ⟨htrace, value, Host.answer_of_outcome hvalue, hvalue⟩

/-! ## Falling back -/

theorem fallbackHandler?_of_strict (h : r.policy.fallback = .none) : r.fallbackHandler? = none := by
  rw [fallbackHandler?, h]

/-- No key of a mapping is taken for that of the default handler. -/
theorem key_ne_defaultKey {reg : Registration} {entry : Value × Value} (h : reg.WrittenBy entry) :
    reg.key ≠ defaultKey := by
  intro hkey
  have hnone : VersionRange.parse? defaultKey = none := by decide
  rw [← hkey, h.2.1] at hnone
  cases hnone

/-- **Unless falling back is forbidden there is always a handler for it**: the default handler, if it is to be
used and there is one, or the latest registration, as a router is never empty. -/
theorem exists_fallbackHandler? (hr : r.routes = RouteTable.ofUsableEntries entries)
    (h : r.policy.fallback ≠ .none) :
    ∃ matched handler, r.fallbackHandler? = some (matched, handler) ∧
      FallsBackTo entries r.policy matched handler := by
  obtain ⟨route, hroute⟩ := RouteTable.exists_findLatest r.routes_ne_nil
  have hlatest : Registration.IsLatest entries route.toRegistration :=
    RouteTable.isLatest_of_findLatest (hr ▸ hroute)
  have hkey : route.key ≠ defaultKey := by
    obtain ⟨_, _, _, _, hwritten, -⟩ := hlatest.isBest.ahead
    exact key_ne_defaultKey hwritten
  have hback (hnot : ¬ (r.policy.fallback = .default ∧ r.policy.defaultHandler.isSome = true)) :
      FallsBackTo entries r.policy route.key route.handler :=
    ⟨⟨fun heq => absurd heq hkey, fun hdefault => absurd hdefault hnot⟩,
      fun heq => absurd heq hkey, fun _ => ⟨_, rfl, rfl, hlatest⟩⟩
  cases hfallback : r.policy.fallback with
  | none => exact absurd hfallback h
  | latest =>
    refine ⟨route.key, route.handler, ?_, hback (by simp [hfallback])⟩
    simp only [fallbackHandler?, hfallback, hroute, Option.map_some]
  | default =>
    cases hdefault : r.policy.defaultHandler with
    | none =>
      refine ⟨route.key, route.handler, ?_, hback (by simp [hdefault])⟩
      simp only [fallbackHandler?, hfallback, hdefault, hroute, Option.map_some]
    | some handler =>
      refine ⟨defaultKey, handler, by simp only [fallbackHandler?, hfallback, hdefault], ?_⟩
      exact ⟨by simp [hfallback, hdefault], fun _ => hdefault, fun hne => absurd rfl hne⟩

/-- A fallback without a handler is an error, behind the making of its message. -/
theorem fallBack_of_none (h : r.fallbackHandler? = none)
    (he : (r.notFound host (found.map (·.version))).result = .ok e) :
    r.fallBack host request found =
      ⟨.logged (r.fallbackLine (found.map (·.version))) ::
          ((r.notFound host (found.map (·.version))).trace ++ (r.answerError host request e).trace),
        (r.answerError host request e).result⟩ := by
  simp only [fallBack, h, Run.bind_of_ok (Run.result_inCoroutine_of_ok he)]
  rfl

/-- A fallback with a handler runs it. -/
theorem fallBack_of_some (h : r.fallbackHandler? = some (matched, handler)) :
    r.fallBack host request found =
      ⟨.logged (r.fallbackLine (found.map (·.version))) ::
          host.steps handler [.request (r.prepare matched found request)],
        host.answer handler [.request (r.prepare matched found request)]⟩ := by
  simp only [fallBack, h, answer, Host.invoke_eq]
  rfl

/-- What is unmatched falls back to its verdict. -/
theorem exists_verdict_of_unmatched (hr : r.routes = RouteTable.ofUsableEntries entries)
    (htext : r.SpeaksText host) (hanswers : ∀ c arguments, ∃ v, host.outcome c arguments = .ok v)
    (hun : Unmatched entries r.policy found) :
    ∃ v : Verdict, v.Follows entries r.policy request found ∧
      v.Ends r host request [] (r.fallBack host request found) := by
  by_cases hstrict : r.policy.fallback = .none
  · obtain ⟨e, he, hkind, hintext, hcalls⟩ := notFound_of_speaksText htext (found.map (·.version))
    obtain ⟨herror, hgives⟩ := answerError_of_inText (r := r) request hintext hanswers
    refine ⟨.refused e, Verdict.follows_of_strict hun hstrict hkind, ?_⟩
    rw [fallBack_of_none (fallbackHandler?_of_strict hstrict) he]
    refine ⟨?_, hgives⟩
    rw [Trace.calls_logged, Trace.calls_append, hcalls, herror, Verdict.calls, if_pos hkind,
      List.nil_append]
  · obtain ⟨matched, handler, hhandler, hmatched⟩ := exists_fallbackHandler? hr hstrict
    rw [fallBack_of_some hhandler]
    exact ⟨_, Verdict.follows_of_lenient hun hstrict seenAs_prepare hmatched,
      ends_served _ (by simp) hanswers⟩

/-! ## The table -/

/-- What happens first comes first. -/
theorem ends_behind {v : Verdict} {run : Run Value} (h : v.Ends r host request [] run) (t : Trace) :
    v.Ends r host request t.calls ⟨t ++ run.trace, run.result⟩ :=
  ⟨by rw [Trace.calls_append, h.calls, List.nil_append], h.gives⟩

/-- An error in text that no route has to do with ends the run of its verdict. -/
theorem ends_refused (he : e.InText) (hkind : e.kind ≠ .versionNotFound)
    (hanswers : ∀ c arguments, ∃ v, host.outcome c arguments = .ok v) :
    (Verdict.refused e).Ends r host request [] (r.answerError host request e) := by
  obtain ⟨hcalls, hgives⟩ := answerError_of_inText (r := r) request he hanswers
  exact ⟨by rw [hcalls, Verdict.calls, if_neg hkind]; rfl, hgives⟩

/-- **Every request that extraction has looked at has a verdict by the table**, if the router speaks text and no
callable raises. Behind extraction, which runs the policy's own extractor at most, what runs is what the verdict
says, and the router gives what the verdict gives. -/
theorem exists_verdict (hr : build (.dict entries) options = .ok r) (htext : r.SpeaksText host)
    (hanswers : ∀ c arguments, ∃ v, host.outcome c arguments = .ok v)
    (hfound : ((Extractor.ofPolicy r.policy).extract host request).result = .ok found) :
    ∃ v : Verdict, v.Follows entries r.policy request found ∧
      v.Ends r host request ((Extractor.ofPolicy r.policy).extract host request).trace.calls
        (r.dispatch host request) ∧
      ∀ c ∈ ((Extractor.ofPolicy r.policy).extract host request).trace.calls,
        r.policy.custom = some c := by
  have hroutes := routes_of_build hr
  have hcustom : ∀ c ∈ ((Extractor.ofPolicy r.policy).extract host request).trace.calls,
      r.policy.custom = some c := by
    intro c hc
    obtain ⟨event, hevent, hcallee⟩ := List.mem_filterMap.mp hc
    obtain ⟨c', hc', rfl⟩ := Extractor.called_of_mem_extract hevent
    exact hc'.trans hcallee
  -- every way through dispatch is a row of the table
  cases found with
  | none =>
    rw [dispatch_of_extract_none hfound]
    by_cases hrequire : r.policy.requireVersion.isTruthy = true
    · rw [if_pos hrequire]
      exact ⟨.refused r.missing, Verdict.follows_of_missing hrequire rfl,
        ends_behind (ends_refused (inText_missing htext) nofun hanswers) _, hcustom⟩
    · rw [if_neg hrequire]
      obtain ⟨v, hfollows, hends⟩ := exists_verdict_of_unmatched hroutes htext hanswers
        (.inl ⟨rfl, Bool.eq_false_iff.mpr hrequire⟩)
      exact ⟨v, hfollows, ends_behind hends _, hcustom⟩
  | some x =>
    rw [dispatch_of_extract_some hfound]
    cases hparse : Version.parse? x.version with
    | none =>
      rw [answerVersion_of_parse_none hparse]
      exact ⟨.refused (r.invalid x.version), Verdict.follows_of_invalid hparse rfl,
        ends_behind (ends_refused (inText_invalid _) nofun hanswers) _, hcustom⟩
    | some client =>
      cases hmatch : r.routes.findMatch client with
      | some route =>
        rw [answerVersion_of_findMatch hparse hmatch]
        refine ⟨_, Verdict.follows_of_admitted hparse ?_ seenAs_prepare,
          ends_behind (ends_served _ (by simp) hanswers) _, hcustom⟩
        exact RouteTable.isBest_of_findMatch (hroutes ▸ hmatch)
      | none =>
        rw [answerVersion_of_findMatch_none hparse hmatch]
        obtain ⟨v, hfollows, hends⟩ := exists_verdict_of_unmatched hroutes htext hanswers
          (.inr ⟨x, client, rfl, hparse, RouteTable.findMatch_eq_none_iff.mp (hroutes ▸ hmatch)⟩)
        exact ⟨v, hfollows, ends_behind hends _, hcustom⟩

/-- A request of version 2, which a header says. -/
def ofSecondVersion : Request :=
  .build (.text "GET") (.text "/users") (.ofPairs [("accept-version", .text "2")]) (.ofText []) .null

/-- A version beyond the only key. Where falling back is forbidden it is refused, and nothing at all is called.
Else the handler of the key runs, and sees that the version came from a header. -/
theorem exists_verdict_of_beyond :
    (∃ r : Router, build (.dict [(.text "1.0", .function 0)])
        (.dict [(.text "fallback_strategy", .text "none")]) = .ok r ∧
      ∃ v : Verdict, v.Refuses .versionNotFound ∧
        v.Ends r (.direct fun _ _ => .ok .null) ofSecondVersion []
          (r.dispatch (.direct fun _ _ => .ok .null) ofSecondVersion)) ∧
    ∃ r : Router, build (.dict [(.text "1.0", .function 0)]) .null = .ok r ∧
      (Verdict.served "1.0" (.function 0)
        { ofSecondVersion with versionInfo := some ⟨.text "2", .text "1.0", .text "header"⟩ }).Ends r
          (.direct fun _ _ => .ok .null) ofSecondVersion []
          (r.dispatch (.direct fun _ _ => .ok .null) ofSecondVersion) := by
  have hnone : (RouteTable.ofUsableEntries [(.text "1.0", .function 0)]).findMatch
      ⟨2, 0, 0, "2"⟩ = none := rfl
  have hparse : Version.parse? "2" = some ⟨2, 0, 0, "2"⟩ := by decide
  have hbeyond := RouteTable.findMatch_eq_none_iff.mp hnone
  constructor
  · obtain ⟨r, hr, hmissing, hnotFound, hfallback, hextract⟩ : ∃ r : Router,
        build (.dict [(.text "1.0", .function 0)])
          (.dict [(.text "fallback_strategy", .text "none")]) = .ok r ∧
        r.policy.missingMessage = .text "API version is required" ∧
        r.policy.notFoundMessage = .text "No handler found for the requested API version" ∧
        r.policy.fallback = .none ∧
        (Extractor.ofPolicy r.policy).extract (.direct fun _ _ => .ok .null) ofSecondVersion =
          ⟨[], .ok (some ⟨"2", .source .header⟩)⟩ := ⟨_, rfl, rfl, rfl, rfl, rfl⟩
    obtain ⟨v, hfollows, hends, -⟩ := exists_verdict hr ⟨⟨_, hmissing⟩, .inl ⟨_, hnotFound⟩⟩
      (fun _ _ => ⟨.null, rfl⟩) (congrArg Run.result hextract)
    rw [hextract] at hends
    exact ⟨r, hr, v, hfollows.notFound.mpr ⟨hfallback, .inr ⟨_, _, rfl, hparse, hbeyond⟩⟩, hends⟩
  · obtain ⟨r, hr, hmissing, hnotFound, hfallback, hdefault, hattach, hextract⟩ : ∃ r : Router,
        build (.dict [(.text "1.0", .function 0)]) .null = .ok r ∧
        r.policy.missingMessage = .text "API version is required" ∧
        r.policy.notFoundMessage = .text "No handler found for the requested API version" ∧
        r.policy.fallback = .default ∧ r.policy.defaultHandler = none ∧
        r.policy.attachVersionInfo.isTruthy = true ∧
        (Extractor.ofPolicy r.policy).extract (.direct fun _ _ => .ok .null) ofSecondVersion =
          ⟨[], .ok (some ⟨"2", .source .header⟩)⟩ := ⟨_, rfl, rfl, rfl, rfl, rfl, rfl, rfl⟩
    obtain ⟨v, hfollows, hends, -⟩ := exists_verdict hr ⟨⟨_, hmissing⟩, .inl ⟨_, hnotFound⟩⟩
      (fun _ _ => ⟨.null, rfl⟩) (congrArg Run.result hextract)
    rw [hextract] at hends
    obtain ⟨matched, handler, seen, rfl, hseen, hback⟩ :=
      hfollows.fellBack (by rw [hfallback]; nofun) (.inr ⟨_, _, rfl, hparse, hbeyond⟩)
    have honly : Registration.WrittenBy
        ⟨"1.0", ⟨.exact, ⟨1, 0, 0, "1.0"⟩, "1.0", 2⟩, .function 0⟩ (.text "1.0", .function 0) :=
      ⟨rfl, by decide, rfl⟩
    obtain ⟨rfl, rfl⟩ := hback.eq_of_singleton hdefault honly
    have hattached := hseen.2 _ rfl
    rw [if_pos hattach] at hattached
    obtain ⟨tag, htag, rfl⟩ := hattached
    cases htag
    exact ⟨r, hr, hends⟩

end Router

end SemverDispatch
