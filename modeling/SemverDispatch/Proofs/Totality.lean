import SemverDispatch.Proofs.Leaves
import SemverDispatch.Proofs.Verdict

/-!
# When dispatch gives a value

A router checks its options when it is built. What the checks leave open is met by the requests: the messages of
errors are not checked, and not every value has JSON, so an error whose message has none has no response
(`exists_answerError_iff`). The pattern of the path is checked for a group, which is always there then, but not
for what the group does, and not for being a pattern of text at all (`exists_extract_error`).

Nothing else can go wrong: the main result `exists_dispatch_iff` says exactly when a request has a value, as long as
no callable raises.
-/

namespace SemverDispatch

/-! ## Paths -/

namespace Pattern

variable {engine : Engine} {p : Pattern} {t : Text} {m : Match}

/-- A match has the groups of its pattern. -/
theorem groups_of_search (h : p.search engine t = some m) : m.groups = p.groups := by
  have hfrom (position : Nat) (behind ahead : Text)
      (h : p.searchFrom engine position behind ahead = some m) : m.groups = p.groups := by
    induction ahead generalizing position behind with
    | nil =>
      rw [searchFrom] at h
      split at h
      · exact Option.some.inj h ▸ rfl
      · cases h
    | cons c rest ih =>
      rw [searchFrom] at h
      split at h
      · exact Option.some.inj h ▸ rfl
      · exact ih _ _ h
  exact hfrom 0 [] t h

end Pattern

namespace Reader

variable {engine : Engine} {p : Pattern} {t : Text} {e : Failure}

/-- A search for a pattern that has a group fails only where some group ends before it begins. -/
theorem crossed_of_pathVersion_error (hgroups : p.groups ≠ 0) (h : pathVersion engine p t = .error e) :
    e = .crossedGroup ∧ ∃ m, p.search engine t = some m ∧ m.isCrossed = true := by
  have h := Result.map_eq_error_iff.mp h
  unfold firstGroup at h
  split at h
  · cases h
  · rename_i m hm
    by_cases hcrossed : m.isCrossed = true
    · rw [if_pos hcrossed] at h
      exact ⟨(Except.error.inj h).symm, m, hm, hcrossed⟩
    · have hle : 1 ≤ m.groups := by
        rw [Pattern.groups_of_search hm]
        exact Nat.one_le_iff_ne_zero.mpr hgroups
      rw [if_neg hcrossed, Match.group?, if_pos hle] at h
      cases h

/-- How text is searched in vain: for a pattern of bytes, or with a group that ends before it begins. -/
theorem pathValueVersion_text_eq_error (hgroups : p.groups ≠ 0)
    (h : pathValueVersion engine p (.text t) = .error e) :
    (e = .textSearched ∧ ∃ b, p.source = .bytes b) ∨
      e = .crossedGroup ∧ ∃ m, p.search engine t = some m ∧ m.isCrossed = true := by
  cases hsource : p.source with
  | text source =>
    simp only [pathValueVersion, hsource] at h
    exact .inr (crossed_of_pathVersion_error hgroups h)
  | bytes source =>
    simp only [pathValueVersion, hsource] at h
    exact .inl ⟨(Except.error.inj h).symm, source, rfl⟩

end Reader

namespace Policy

/-- The pattern of checked options has a group. -/
theorem groups_ne_zero_of_resolve {options defaults : Value} {policy : Policy}
    (h : resolve options defaults = .ok policy) : policy.pattern.groups ≠ 0 := by
  obtain ⟨config, -, h⟩ := Result.bind_eq_ok_iff.mp h
  exact (ofRecord_eq_ok_iff.mp h).1.pattern

end Policy

namespace Router

variable {r : Router} {host : Host} {request : Request} {e : VersioningError}
  {entries : List (Value × Value)} {options : Value} {found : Option Extracted}

/-- **Extraction from a path of text fails only where the pattern is one of bytes, or some group of it ends before it
begins**, as long as no callable raises. -/
theorem exists_extract_error {t : Text} {failure : Failure}
    (hr : build (.dict entries) options = .ok r)
    (hanswers : ∀ c arguments, ∃ v, host.outcome c arguments = .ok v) (hpath : request.path = .text t)
    (h : ((Extractor.ofPolicy r.policy).extract host request).result = .error failure) :
    Source.path ∈ r.policy.sources ∧
      ((failure = .textSearched ∧ ∃ b, r.policy.pattern.source = .bytes b) ∨
        failure = .crossedGroup ∧
          ∃ m, r.policy.pattern.search host.engine t = some m ∧ m.isCrossed = true) := by
  have hgroups := Policy.groups_ne_zero_of_resolve (build_eq_ok_iff.mp hr).1
  have hfails : Extractor.FailsInPathOnly host.engine r.policy request
      ((Extractor.ofPolicy r.policy).extract host request) :=
    Extractor.failsInPathOnly_extract hanswers
  rcases hfails with ⟨_, hok⟩ | ⟨hsource, e, he, herror⟩
  · rw [h] at hok
    cases hok
  · obtain rfl := Except.error.inj (h.symm.trans herror)
    rw [hpath] at he
    exact ⟨hsource, Reader.pathValueVersion_text_eq_error hgroups he⟩

/-! ## Errors -/

/-- An error is answered: by the hook, or by its response, if its message has JSON that fits into an object. -/
def HasAnswer (r : Router) (host : Host) (request : Request) (e : VersioningError) : Prop :=
  (∃ hook v, r.policy.onError = some hook ∧
    host.outcome hook [.error e, .request request] = .ok v ∧ v ≠ .null) ∨
    Json.WritableIn (host.room - 1) e.message

/-- **An error in text but for its message gives a value exactly if it is answered**, by the hook or by its response. -/
theorem exists_answerError_iff (he : e.InTextButMessage)
    (hanswers : ∀ c arguments, ∃ v, host.outcome c arguments = .ok v) :
    (∃ v, (r.answerError host request e).result = .ok v) ↔ r.HasAnswer host request e := by
  have hresponse : (∃ v, (r.errorResponse host.room e).map Response.toValue = .ok v) ↔
      Json.WritableIn (host.room - 1) e.message := by
    rw [← exists_errorResponse_iff (r := r) host.two_le_room he]
    cases r.errorResponse host.room e <;> simp [Except.map]
  cases hhook : r.policy.onError with
  | none =>
    rw [answerError_of_noHook hhook, hresponse]
    refine ⟨.inr, ?_⟩
    rintro (⟨hook, _, hsome, -⟩ | h)
    · rw [hhook] at hsome
      cases hsome
    · exact h
  | some hook =>
    obtain ⟨v, hv⟩ := hanswers hook [.error e, .request request]
    rw [answerError_of_hook hhook hv]
    dsimp only
    by_cases hnull : v.isNull = true
    · rw [if_pos hnull, hresponse]
      refine ⟨.inr, ?_⟩
      rintro (⟨hook', v', hsome, hv', hne⟩ | h)
      · obtain rfl : hook = hook' := Option.some.inj (hhook.symm.trans hsome)
        obtain rfl : v = v' := Except.ok.inj (hv.symm.trans hv')
        exact absurd (Value.isNull_iff.mp hnull) hne
      · exact h
    · rw [if_neg hnull]
      exact ⟨fun _ => .inl ⟨hook, v, hhook, hv, fun h => hnull (Value.isNull_iff.mpr h)⟩,
        fun _ => ⟨v, rfl⟩⟩

/-- Whatever the message is, the error for a version that nothing answers can be made of it. -/
theorem exists_notFound (hanswers : ∀ c arguments, ∃ v, host.outcome c arguments = .ok v)
    (requested : Option Text) :
    ∃ e, (r.notFound host requested).result = .ok e ∧ e.InTextButMessage := by
  have htext (message : Value) : (VersioningError.versionNotFound (.ofText? requested)
      (requested.getD VersioningError.unknownLabel) (r.available.map .text) message
      (.int r.policy.notFoundStatus)).InTextButMessage :=
    ⟨⟨_, rfl⟩, Value.ofText?_eq_null_or requested, .inr ⟨r.available, rfl⟩⟩
  unfold notFound
  dsimp only
  split
  · rename_i c _
    obtain ⟨message, hmessage⟩ := Host.exists_call hanswers c
      [.value (.text (requested.getD VersioningError.unknownLabel))]
    exact ⟨_, congrArg Run.result (Run.bind_of_ok hmessage _), htext message⟩
  · exact ⟨_, rfl, htext _⟩

/-! ## Requests -/

/-- A request that no route answers gives a value, unless falling back is forbidden and the error has no answer. -/
theorem exists_fallBack_iff (hr : build (.dict entries) options = .ok r)
    (hanswers : ∀ c arguments, ∃ v, host.outcome c arguments = .ok v) :
    (∃ v, (r.fallBack host request found).result = .ok v) ↔ (r.policy.fallback = .none →
      ∃ e, (r.notFound host (found.map (·.version))).result = .ok e ∧ r.HasAnswer host request e) := by
  by_cases hstrict : r.policy.fallback = .none
  · obtain ⟨e, he, htext⟩ := exists_notFound (r := r) hanswers (found.map (·.version))
    rw [fallBack_of_none (fallbackHandler?_of_strict hstrict) he, exists_answerError_iff htext hanswers]
    refine ⟨fun h _ => ⟨e, he, h⟩, fun h => ?_⟩
    obtain ⟨e', he', h⟩ := h hstrict
    exact Except.ok.inj (he.symm.trans he') ▸ h
  · obtain ⟨matched, handler, hhandler, -⟩ := exists_fallbackHandler? (routes_of_build hr) hstrict
    rw [fallBack_of_some hhandler]
    exact ⟨fun _ h => absurd h hstrict, fun _ => Host.exists_answer hanswers _ _⟩

theorem inTextButMessage_missing : r.missing.InTextButMessage := ⟨⟨_, rfl⟩, .inl rfl, .inl rfl⟩

/-- **A request gives a value exactly if its version can be looked for and every error on its way is answered**, as
long as no callable raises. There are two such errors: the one for want of a version, where versions are required, and
the one for a version that nothing answers, where falling back is forbidden. Both carry a message that the
options hold unchecked. The looking itself fails for nothing but the pattern of the path: because it is one of bytes,
or because some group of it ends before it begins. -/
theorem exists_dispatch_iff {t : Text} (hr : build (.dict entries) options = .ok r)
    (hanswers : ∀ c arguments, ∃ v, host.outcome c arguments = .ok v) (hpath : request.path = .text t) :
    ((∃ v, (r.dispatch host request).result = .ok v) ↔
      ∃ found, ((Extractor.ofPolicy r.policy).extract host request).result = .ok found ∧
        (found = none → r.policy.requireVersion.isTruthy = true → r.HasAnswer host request r.missing) ∧
        (Unmatched entries r.policy found → r.policy.fallback = .none →
          ∃ e, (r.notFound host (found.map (·.version))).result = .ok e ∧
            r.HasAnswer host request e)) ∧
    ∀ failure, ((Extractor.ofPolicy r.policy).extract host request).result = .error failure →
      Source.path ∈ r.policy.sources ∧
        ((failure = .textSearched ∧ ∃ b, r.policy.pattern.source = .bytes b) ∨
          failure = .crossedGroup ∧
            ∃ m, r.policy.pattern.search host.engine t = some m ∧ m.isCrossed = true) := by
  refine ⟨?_, fun failure h => exists_extract_error hr hanswers hpath h⟩
  have hroutes := routes_of_build hr
  cases hextract : ((Extractor.ofPolicy r.policy).extract host request).result with
  | error failure =>
    rw [dispatch, Run.bind_of_error (Run.result_inCoroutine_of_error hextract)]
    exact ⟨nofun, fun ⟨_, h, _⟩ => nomatch h⟩
  | ok found =>
    have hfound (P : Option Extracted → Prop) :
        (∃ other, (Except.ok found : Except Failure _) = .ok other ∧ P other) ↔ P found :=
      ⟨fun ⟨_, h, hP⟩ => Except.ok.inj h ▸ hP, fun hP => ⟨found, rfl, hP⟩⟩
    rw [hfound]
    -- every way through dispatch meets one of the two errors, or none
    cases found with
    | none =>
      rw [dispatch_of_extract_none hextract]
      by_cases hrequire : r.policy.requireVersion.isTruthy = true
      · rw [if_pos hrequire, exists_answerError_iff inTextButMessage_missing hanswers]
        exact ⟨fun h => ⟨fun _ _ => h, fun hun => absurd ⟨rfl, hrequire⟩ hun.not_missing⟩,
          fun h => h.1 rfl hrequire⟩
      · have hun : Unmatched entries r.policy none := .inl ⟨rfl, Bool.eq_false_iff.mpr hrequire⟩
        rw [if_neg hrequire, exists_fallBack_iff hr hanswers]
        exact ⟨fun h => ⟨fun _ htrue => absurd htrue hrequire, fun _ => h⟩, fun h => h.2 hun⟩
    | some x =>
      rw [dispatch_of_extract_some hextract]
      cases hparse : Version.parse? x.version with
      | none =>
        obtain ⟨-, v, hv, -⟩ := answerError_of_inText (r := r) request (inText_invalid x.version) hanswers
        rw [answerVersion_of_parse_none hparse]
        exact ⟨fun _ => ⟨nofun, fun hun => absurd ⟨x, rfl, hparse⟩ hun.not_invalid⟩, fun _ => ⟨v, hv⟩⟩
      | some client =>
        cases hmatch : r.routes.findMatch client with
        | some route =>
          have hbest := RouteTable.isBest_of_findMatch (hroutes ▸ hmatch)
          obtain ⟨_, entry, _, hsplit, hwritten, -⟩ := hbest.ahead
          rw [answerVersion_of_findMatch hparse hmatch]
          refine ⟨fun _ => ⟨nofun, fun hun => ?_⟩, fun _ => Host.exists_answer hanswers _ _⟩
          exact absurd ⟨entry, by rw [hsplit]; simp, _, hwritten, hbest.passes⟩
            (hun.not_admitted rfl hparse)
        | none =>
          have hun : Unmatched entries r.policy (some x) :=
            .inr ⟨x, client, rfl, hparse, RouteTable.findMatch_eq_none_iff.mp (hroutes ▸ hmatch)⟩
          rw [answerVersion_of_findMatch_none hparse hmatch, exists_fallBack_iff hr hanswers]
          exact ⟨fun h => ⟨nofun, fun _ => h⟩, fun h => h.2 hun⟩

/-- The default message for want of a version is text, so this is answered. -/
theorem exists_dispatch_of_missing : ∃ r : Router,
    build (.dict [(.text "^1", .function 0)]) .null = .ok r ∧
    ∃ v, (r.dispatch (.direct fun _ _ => .ok .null)
      (.build (.text "GET") (.text "/users") ∅ (.ofText []) .null)).result = .ok v := by
  obtain ⟨r, hr, hmessage, hfallback⟩ : ∃ r : Router,
      build (.dict [(.text "^1", .function 0)]) .null = .ok r ∧
      r.policy.missingMessage = .text "API version is required" ∧ r.policy.fallback ≠ .none :=
    ⟨_, rfl, rfl, nofun⟩
  have hextract : ((Extractor.ofPolicy r.policy).extract (.direct fun _ _ => .ok .null)
      (.build (.text "GET") (.text "/users") ∅ (.ofText []) .null)).result = .ok none := by
    obtain rfl := Except.ok.inj hr
    rfl
  refine ⟨r, hr, ((exists_dispatch_iff hr (fun _ _ => ⟨.null, rfl⟩) rfl).1.mpr
    ⟨none, hextract, fun _ _ => .inr ?_, fun _ h => absurd h hfallback⟩)⟩
  rw [missing, VersioningError.missingVersion, hmessage]
  exact Json.writableIn_text _

/-- A function in place of the message for want of a version passes all checks, and fails a request that has
none. -/
theorem dispatch_of_callable_message : ∃ r : Router,
    build (.dict [(.text "^1", .function 0)])
      (.dict [(.text "error_response",
        .dict [(.text "missing_version_message", .function 1)])]) = .ok r ∧
    (r.dispatch (.direct fun _ _ => .ok .null)
      (.build (.text "GET") (.text "/users") ∅ (.ofText []) .null)).result =
        .error (.notWritable (.unsupported "function")) :=
  ⟨_, rfl, rfl⟩

end Router

end SemverDispatch
