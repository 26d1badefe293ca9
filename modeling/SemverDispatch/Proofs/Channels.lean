import SemverDispatch.Proofs.Fields
import SemverDispatch.Proofs.Verdict

/-!
# A version through any channel

A version text comes with a request in a header, in the query, or set beforehand, and what a server hands over may
hold it in its headers or in its state. A `Channel` is one of these ways. Each writes the text in its own manner:
names folded, bytes of Latin-1, bytes of UTF-8 with digits for most of them, or the text as it is.

The argument has two halves. Whichever channel the text is put into, it is read there and nothing is read anywhere
else (`Channel.exists_carries`). What dispatch does for a text that was read, a `Decision`, depends on the text and
not on where it was read (`Router.ends_decisionOf`). So all channels lead to one decision (`Router.exists_decision`).
-/

namespace SemverDispatch

/-! ## Decisions -/

/-- What dispatch comes to for a version text or for none. -/
inductive Decision where
  /-- a handler runs for a version text, under the key that it is said to match -/
  | serve (requested : Option Text) (matched : Text) (handler : Callable)
  /-- an error is reported, behind what happens until it is made -/
  | refuse (before : Trace) (e : VersioningError)
  /-- making the message of the error fails -/
  | fail (before : Trace) (e : Failure)

namespace Decision

/-- A run is what a decision leads to, for a request whose version text was found at an origin. The handler that
serves is the only callable to run, and sees the request with the version text, the key and the origin if the policy
says so. -/
def Ends (r : Router) (host : Host) (request : Request) (origin : Origin) (run : Run Value) : Decision → Prop
  | serve requested matched handler => ∃ line, run =
      ⟨.logged line ::
          host.steps handler [.request (r.prepare matched (requested.map (⟨·, origin⟩)) request)],
        host.answer handler [.request (r.prepare matched (requested.map (⟨·, origin⟩)) request)]⟩
  | refuse before e =>
    run = ⟨before ++ (r.answerError host request e).trace, (r.answerError host request e).result⟩
  | fail before e => run = ⟨before, .error e⟩

end Decision

namespace Router

variable {r : Router} {host : Host} {request : Request} {origin : Origin}

/-- The decision where no route answers. -/
def fallbackDecision (r : Router) (host : Host) (requested : Option Text) : Decision :=
  match r.fallbackHandler? with
  | some (matched, handler) => .serve requested matched handler
  | none =>
    let made := (r.notFound host requested).inCoroutine
    let before := .logged (r.fallbackLine requested) :: made.trace
    match made.result with
    | .ok e => .refuse before e
    | .error e => .fail before e

/-- The decision for a version text or for none. -/
def decisionOf (r : Router) (host : Host) : Option Text → Decision
  | none =>
    if r.policy.requireVersion.isTruthy then .refuse [] r.missing else r.fallbackDecision host none
  | some version =>
    match Version.parse? version with
    | none => .refuse [] (r.invalid version)
    | some client =>
      match r.routes.findMatch client with
      | some route => .serve (some version) route.key route.handler
      | none => r.fallbackDecision host (some version)

/-- A fallback whose error cannot be made fails as the making of it does in a coroutine. -/
theorem fallBack_of_error {found : Option Extracted} {e : Failure} (h : r.fallbackHandler? = none)
    (he : (r.notFound host (found.map (·.version))).result = .error e) :
    r.fallBack host request found =
      ⟨.logged (r.fallbackLine (found.map (·.version))) :: (r.notFound host (found.map (·.version))).trace,
        .error e.outOfCoroutine⟩ := by
  simp only [fallBack, h, Run.bind_of_error (Run.result_inCoroutine_of_error he)]
  rfl

/-- Falling back follows the decision for the version text that was found. -/
theorem ends_fallbackDecision {found : Option Extracted}
    (horigin : (found.map (·.version)).map (⟨·, origin⟩) = found) :
    (r.fallbackDecision host (found.map (·.version))).Ends r host request origin
      (r.fallBack host request found) := by
  cases hhandler : r.fallbackHandler? with
  | some served =>
    obtain ⟨matched, handler⟩ := served
    simp only [fallbackDecision, hhandler, Decision.Ends, horigin]
    exact ⟨_, fallBack_of_some hhandler⟩
  | none =>
    cases hmade : (r.notFound host (found.map (·.version))).result with
    | ok e =>
      simp only [fallbackDecision, hhandler, Run.result_inCoroutine_of_ok hmade]
      exact fallBack_of_none hhandler hmade
    | error e =>
      simp only [fallbackDecision, hhandler, Run.result_inCoroutine_of_error hmade]
      exact fallBack_of_error hhandler hmade

/-- **Dispatch follows the decision for the version text that extraction finds.** -/
theorem ends_decisionOf {version? : Option Text}
    (h : (Extractor.ofPolicy r.policy).extract host request = pure (version?.map (⟨·, origin⟩))) :
    (r.decisionOf host version?).Ends r host request origin (r.dispatch host request) := by
  cases version? with
  | none =>
    have hdispatch : r.dispatch host request =
        if r.policy.requireVersion.isTruthy then r.answerError host request r.missing
        else r.fallBack host request none := by
      rw [dispatch, h]
      exact Run.pure_bind ..
    rw [hdispatch, decisionOf]
    split
    · exact rfl
    · exact ends_fallbackDecision rfl
  | some version =>
    have hdispatch : r.dispatch host request = r.answerVersion host request ⟨version, origin⟩ := by
      rw [dispatch, h]
      exact Run.pure_bind ..
    rw [hdispatch]
    cases hclient : Version.parse? version with
    | none =>
      simp only [decisionOf, hclient]
      exact answerVersion_of_parse_none hclient
    | some client =>
      cases hroute : r.routes.findMatch client with
      | some route =>
        simp only [decisionOf, hclient, hroute]
        exact ⟨_, answerVersion_of_findMatch hclient hroute⟩
      | none =>
        simp only [decisionOf, hclient, hroute]
        rw [answerVersion_of_findMatch_none hclient hroute]
        exact ends_fallbackDecision rfl

end Router

/-! ## Reading from one place -/

/-- A request carries a version text, if any, at one origin. It is read there, and nothing is read at any other origin
that would be looked at. -/
structure Request.Carries (request : Request) (p : Policy) (version? : Option Text) (origin : Origin) : Prop where
  /-- what was set beforehand -/
  preset : Reader.cleanValue request.version = if origin = .request then version? else none
  /-- what the header holds, if nothing was set -/
  header : Reader.cleanValue request.version = none →
    (request.headers.getAll p.header).head?.bind Reader.cleanValue =
      if origin = .source .header then version? else none
  /-- the query is text -/
  not_inBuffer : request.query.inBuffer = false
  /-- what the parameter holds, if nothing was set -/
  query : Reader.cleanValue request.version = none →
    (request.query.get? p.query).bind Reader.clean =
      if origin = .source .query then version? else none

/-- A parameter of a query that is text is read by its first value. -/
theorem Reader.read_query {request : Request} (h : request.query.inBuffer = false) (host : Host) (name : Text) :
    (query (.text name)).read host request = pure ((request.query.get? name).bind clean) := by
  have hcomponent : request.query.component = Value.text := by
    funext t
    rw [Query.component, h]
    rfl
  rw [read, Query.getOf_text, h, hcomponent]
  cases request.query.get? name <;> rfl

namespace Extractor

variable {p : Policy} {host : Host} {request : Request} {readers : Extractor} {origin : Origin}
  {version? : Option Text}

/-- Where only one source has anything to read, the first reader of it finds it, if it is a version text at all. -/
theorem firstOf_of_reads {source : Source}
    (hreads : ∀ reader ∈ readers, reader.read host request =
      pure (if reader.source = source then version? else none))
    (hsource : version? = none ∨ ∃ reader ∈ readers, reader.source = source) :
    firstOf host request readers = pure (version?.map (⟨·, .source source⟩)) := by
  induction readers with
  | nil =>
    rcases hsource with rfl | ⟨_, hmem, -⟩
    · rfl
    · cases hmem
  | cons reader rest ih =>
    obtain ⟨hread, hrest⟩ := List.forall_mem_cons.mp hreads
    rw [firstOf, hread, pure_bind]
    by_cases heq : reader.source = source
    · rw [if_pos heq]
      cases version? with
      | some version =>
        subst heq
        rfl
      | none => exact ih hrest (.inl rfl)
    · rw [if_neg heq]
      refine ih hrest (hsource.imp_right ?_)
      rintro ⟨reader', hmem, hsource'⟩
      rcases List.mem_cons.mp hmem with rfl | hmem
      · exact absurd hsource' heq
      · exact ⟨reader', hmem, hsource'⟩

/-- **Extraction finds what a request carries**, where a header and the query are all that is looked at and the
origin is one of the places. -/
theorem extract_of_carries (h : request.Carries p version? origin)
    (honly : ∀ s ∈ p.sources, s = .header ∨ s = .query)
    (horigin : ∀ s, origin = .source s → s ∈ p.sources) :
    (ofPolicy p).extract host request = pure (version?.map (⟨·, origin⟩)) := by
  have hreads (hpreset : Reader.cleanValue request.version = none) : ∀ reader ∈ ofPolicy p,
      reader.read host request = pure (if origin = .source reader.source then version? else none) := by
    intro reader hreader
    obtain ⟨source, hsource, hof⟩ := List.mem_filterMap.mp hreader
    rcases honly source hsource with rfl | rfl
    · obtain rfl := Option.some.inj hof
      exact congrArg pure (h.header hpreset)
    · obtain rfl := Option.some.inj hof
      exact (Reader.read_query h.not_inBuffer _ _).trans (congrArg pure (h.query hpreset))
  cases origin with
  | request =>
    rw [extract, h.preset, if_pos rfl]
    cases version? with
    | some version => rfl
    | none =>
      have hnone : (none : Option Text) = none ∨ ∃ reader ∈ ofPolicy p, reader.source = .header := .inl rfl
      exact firstOf_of_reads (by simpa using hreads h.preset) hnone
  | source s =>
    rw [extract, h.preset, if_neg nofun]
    refine firstOf_of_reads (by simpa [eq_comm] using hreads h.preset) (.inr ?_)
    have hsource : s ∈ p.sources := horigin s rfl
    rcases honly s hsource with rfl | rfl
    · exact ⟨_, List.mem_filterMap.mpr ⟨_, hsource, rfl⟩, rfl⟩
    · exact ⟨_, List.mem_filterMap.mpr ⟨_, hsource, rfl⟩, rfl⟩

end Extractor

/-! ## Channels -/

/-- The one header is found under its name. -/
theorem Headers.getAll_ofPairs_singleton (name : Text) (value : Value) :
    (ofPairs [(name, value)]).getAll name = [value] := by
  simp [getAll, ofPairs, Multimap.getAll]

theorem Headers.head?_getAll_of_not_contains {h : Headers} {name : Text} (hnot : h.contains name = false) :
    (h.getAll name).head? = none := by
  rwa [contains, Multimap.contains_eq_isSome, Option.isSome_eq_false_iff, Option.isNone_iff_eq_none,
    Multimap.get?_eq_head?] at hnot

theorem Query.get?_of_not_contains {q : Query} {name : Text} (hnot : q.contains name = false) :
    q.get? name = none := by
  rwa [contains, Multimap.contains_eq_isSome, Option.isSome_eq_false_iff, Option.isNone_iff_eq_none] at hnot

/-- A state that holds a text is not empty, so the text is what it presets. -/
theorem Request.presetVersion_of_entry {entries : List (Value × Value)} {t : Text}
    (h : Value.entry? entries stateKey = some (.text t)) : presetVersion (.dict entries) = .ok (.text t) := by
  cases entries with
  | nil => cases h
  | cons entry rest =>
    rw [presetVersion, h]
    rfl

/-- A way in which a version text comes with a request. -/
inductive Channel where
  /-- as the value of the header -/
  | header
  /-- as the value of the query parameter -/
  | query
  /-- set beforehand -/
  | preset
  /-- in the state of a scope, beside whatever else is in the scope -/
  | state (names : List (Bytes × Bytes)) (fields : Bytes) (entries : List (Value × Value))
    (others : List (Text × Value))
  /-- as the value of the header in a scope, both in bytes, beside what nothing looks at -/
  | wire (others : List (Text × Value))

namespace Channel

/-- Where a version text is found that came through a channel. -/
def origin : Channel → Origin
  | header | wire .. => .source .header
  | query => .source .query
  | preset | state .. => .request

/-- A channel can carry a text. On the wire the header and the text are in Latin-1. A state holds the text, and beside a
blank one the scope holds nothing else that could be read. -/
def Fits (p : Policy) (t : Text) : Channel → Prop
  | header | query | preset => True
  | state names fields entries _ =>
    Value.entry? entries Request.stateKey = some (.text t) ∧ (Reader.clean t = none →
      (Headers.ofRaw names).contains p.header = false ∧ (Query.ofBytes fields).contains p.query = false)
  | wire _ => p.header.IsLatin1 ∧ t.IsLatin1

/-- The request that carries a text through a channel. -/
def request (p : Policy) (t : Text) (method path : Value) : Channel → Except Failure Request
  | header => do
    return .build method path (← Headers.ofValues [(.text p.header, .text t)]) (← Query.ofEntries []) .null
  | query => do
    return .build method path (← Headers.ofValues []) (← Query.ofEntries [(.text p.query, .text t)]) .null
  | preset => do return .build method path (← Headers.ofValues []) (← Query.ofEntries []) (.text t)
  | state names fields entries others =>
    Request.ofScope {
      kind := some (.text "http"), method := some method, path := some path
      headers := names, query := .bytes fields, state := .dict entries, others }
  | wire others => do
    Request.ofScope {
      kind := some (.text "http"), method := some method, path := some path
      headers := [(← p.header.latin1, ← t.latin1)], query := .bytes [], state := .null, others }

variable {p : Policy} {t : Text}

/-- **What comes through a channel is read where it was put, and nothing is read anywhere else.** -/
theorem exists_carries (ht : t.isScalar = true) (hname : p.query.isScalar = true) (channel : Channel)
    (hfits : channel.Fits p t) (method path : Value) :
    ∃ request, channel.request p t method path = .ok request ∧
      request.Carries p (Reader.clean t) channel.origin := by
  cases channel with
  | header =>
    have hread := Headers.getAll_ofPairs_singleton p.header (.text t)
    refine ⟨_, rfl, rfl, fun _ => ?_, rfl, fun _ => rfl⟩
    exact congrArg (fun values => values.head?.bind Reader.cleanValue) hread
  | query =>
    obtain ⟨raw, hraw⟩ := Query.exists_ofEntries_singleton hname ht
    have hget : Query.get? ⟨.text raw, [(p.query, t)]⟩ p.query = some t := List.lookup_cons_self
    have hrequest : query.request p t method path =
        .ok (.build method path ∅ ⟨.text raw, [(p.query, t)]⟩ .null) := by
      rw [request, hraw]
      rfl
    exact ⟨_, hrequest, rfl, fun _ => rfl, rfl, fun _ => congrArg (Option.bind · Reader.clean) hget⟩
  | preset => exact ⟨_, rfl, rfl, fun _ => rfl, rfl, fun _ => rfl⟩
  | state names fields entries others =>
    obtain ⟨hentry, hnothing⟩ := hfits
    have hrequest : ∃ scope, (state names fields entries others).request p t method path =
        .ok { Request.build method path (.ofRaw names) (.ofBytes fields) (.text t) with scope } := by
      simp only [request, Request.ofScope, Request.presetVersion_of_entry hentry]
      exact ⟨_, rfl⟩
    obtain ⟨_, hrequest⟩ := hrequest
    refine ⟨_, hrequest, rfl, fun hblank => ?_, rfl, fun hblank => ?_⟩
    · exact congrArg (Option.bind · Reader.cleanValue) (Headers.head?_getAll_of_not_contains (hnothing hblank).1)
    · exact congrArg (Option.bind · Reader.clean) (Query.get?_of_not_contains (hnothing hblank).2)
  | wire others =>
    obtain ⟨hheader, htext⟩ := hfits
    have hraw : Headers.ofRaw [(Message.ascii p.header, Message.ascii t)] = .ofPairs [(p.header, .text t)] := by
      simp only [Headers.ofRaw, List.map_cons, List.map_nil, Latin1.decode_ascii hheader, Latin1.decode_ascii htext]
    have hrequest : ∃ scope, (wire others).request p t method path =
        .ok { Request.build method path (.ofPairs [(p.header, .text t)]) ∅ .null with scope } := by
      rw [request, Text.latin1_eq_ok_iff.mpr ⟨hheader, rfl⟩, Text.latin1_eq_ok_iff.mpr ⟨htext, rfl⟩, ← hraw]
      exact ⟨_, rfl⟩
    obtain ⟨_, hrequest⟩ := hrequest
    have hread := Headers.getAll_ofPairs_singleton p.header (.text t)
    refine ⟨_, hrequest, rfl, fun _ => ?_, rfl, fun _ => rfl⟩
    exact congrArg (fun values => values.head?.bind Reader.cleanValue) hread

end Channel

namespace Router

/-- **A version text means the same through every channel.** -/
theorem exists_decision (r : Router) (host : Host) (t : Text)
    (hheader : Source.header ∈ r.policy.sources) (hquery : Source.query ∈ r.policy.sources)
    (honly : ∀ s ∈ r.policy.sources, s = .header ∨ s = .query)
    (ht : t.isScalar = true) (hname : r.policy.query.isScalar = true) :
    ∃ decision : Decision, ∀ (channel : Channel) (method path : Value), channel.Fits r.policy t →
      ∃ request, channel.request r.policy t method path = .ok request ∧
        decision.Ends r host request channel.origin (r.dispatch host request) := by
  refine ⟨r.decisionOf host (Reader.clean t), fun channel method path hfits => ?_⟩
  obtain ⟨request, hrequest, hcarries⟩ := Channel.exists_carries ht hname channel hfits method path
  have horigin : ∀ s, channel.origin = .source s → s ∈ r.policy.sources := by
    intro s hs
    cases channel <;> cases hs <;> assumption
  exact ⟨request, hrequest, ends_decisionOf (Extractor.extract_of_carries hcarries honly horigin)⟩

/-- Options with names that every channel has to write in its own manner. -/
def markedNames : Value :=
  .dict [(.text "extraction", .dict [(.text "header", .dict [(.text "name", .text "X-Vérsion")]),
    (.text "query", .dict [(.text "name", .text "v&= ∀")])])]

/-- A text with blanks around it and marks in it goes through all five channels to one decision. -/
theorem exists_decision_marked : ∃ r : Router,
    build (.dict [(.text "^1", .function 0)]) markedNames = .ok r ∧
      ∃ decision : Decision,
        ∀ channel ∈ [Channel.header, .query, .preset,
          .state [] [] [(.text Request.stateKey, .text " 1.0+é%3D&x=1 ")] [], .wire []],
        ∃ request, channel.request r.policy " 1.0+é%3D&x=1 " (.text "GET") (.text "/") = .ok request ∧
          decision.Ends r (.direct fun c _ => .ok c.value) request channel.origin
            (r.dispatch (.direct fun c _ => .ok c.value) request) := by
  obtain ⟨r, hr, hsources, hheader, hquery⟩ : ∃ r : Router,
      build (.dict [(.text "^1", .function 0)]) markedNames = .ok r ∧
        r.policy.sources = [.header, .query] ∧ r.policy.header = "X-Vérsion" ∧ r.policy.query = "v&= ∀" :=
    ⟨_, rfl, rfl, rfl, rfl⟩
  obtain ⟨decision, hdecision⟩ := exists_decision r (.direct fun c _ => .ok c.value) " 1.0+é%3D&x=1 "
    (by simp [hsources]) (by simp [hsources]) (by simp [hsources]) (by decide) (by rw [hquery]; decide)
  refine ⟨r, hr, decision, fun channel hchannel => hdecision channel _ _ ?_⟩
  simp only [List.mem_cons, List.not_mem_nil, or_false] at hchannel
  rcases hchannel with rfl | rfl | rfl | rfl | rfl
  · trivial
  · trivial
  · trivial
  · exact ⟨rfl, nofun⟩
  · exact ⟨by rw [hheader]; decide, by decide⟩

end Router

end SemverDispatch
