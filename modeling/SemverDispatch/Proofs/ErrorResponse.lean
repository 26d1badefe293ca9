import SemverDispatch.Router
import SemverDispatch.Proofs.Writable

/-!
# Responses of errors

The response of an error is JSON, and not every value has any. What dispatch puts into an error itself is
text (`VersioningError.InTextButMessage`), so whether there is a response depends on the message alone
(`exists_errorResponse_iff`). An error in text (`VersioningError.InText`) always has one.
-/

namespace SemverDispatch

namespace Json

variable {depth : Nat}

theorem writableIn_text (t : Text) : WritableIn depth (.text t) := ⟨.text t, Nat.zero_le _⟩

/-- A row of texts has JSON. -/
theorem writableIn_texts (ts : List Text) : WritableIn (depth + 1) (.list (ts.map .text)) :=
  ⟨.list (List.forall_mem_map.mpr fun t _ => .text t),
    Nat.succ_le_succ (Value.nestingAll_le_iff.mpr (List.forall_mem_map.mpr fun _ _ => Nat.zero_le _))⟩

end Json

/-- A value makes a response exactly if it has JSON. -/
theorem Response.exists_ofJson_iff {depth : Nat} {data status : Value} :
    (∃ response, ofJson depth data status = .ok response) ↔ Json.WritableIn depth data := by
  rw [← Json.exists_write_iff, ofJson]
  cases Json.write depth data with
  | ok t => simp
  | error e => simp

namespace VersioningError

/-- An error whose parts are text, as far as they are there. -/
structure InText (e : VersioningError) : Prop where
  /-- its code -/
  code : ∃ t, e.code = .text t
  /-- its message -/
  message : ∃ t, e.message = .text t
  /-- the version asked for -/
  requested : e.requestedVersion = .null ∨ ∃ t, e.requestedVersion = .text t
  /-- the versions there are -/
  available : e.availableVersions = .null ∨
    ∃ ts : List Text, e.availableVersions = .tuple (ts.map .text)

/-- An error whose parts are text, as far as they are there, whatever its message is. -/
structure InTextButMessage (e : VersioningError) : Prop where
  /-- its code -/
  code : ∃ t, e.code = .text t
  /-- the version asked for -/
  requested : e.requestedVersion = .null ∨ ∃ t, e.requestedVersion = .text t
  /-- the versions there are -/
  available : e.availableVersions = .null ∨
    ∃ ts : List Text, e.availableVersions = .tuple (ts.map .text)

theorem InText.inTextButMessage {e : VersioningError} (h : e.InText) : e.InTextButMessage :=
  ⟨h.code, h.requested, h.available⟩

end VersioningError

namespace Router

variable {r : Router} {e : VersioningError} {room : Nat}

/-- **An error in text but for its message has a response exactly if the message has JSON**, whatever the policy
says about its content. The message stands in an object. -/
theorem exists_errorResponse_iff (hroom : 2 ≤ room) (h : e.InTextButMessage) :
    (∃ response, r.errorResponse room e = .ok response) ↔ Json.WritableIn (room - 1) e.message := by
  obtain ⟨⟨code, hcode⟩, hrequested, havailable⟩ := h
  obtain ⟨inner, rfl⟩ := Nat.exists_eq_add_of_le' hroom
  -- the version asked for is left out if it is empty
  have hsecond : ∀ entry ∈ (if r.policy.includeRequested.isTruthy && e.requestedVersion.isTruthy then
      [((.text "requestedVersion" : Value), e.requestedVersion)] else []),
      Json.IsKey entry.1 ∧ Json.WritableIn (inner + 1) entry.2 := by
    split
    · rename_i htruthy
      refine List.forall_mem_singleton.mpr ⟨.text _, ?_⟩
      rcases hrequested with hnone | ⟨t, ht⟩
      · rw [hnone]
        exact ⟨.null, Nat.zero_le _⟩
      · rw [ht]
        exact Json.writableIn_text t
    · exact List.forall_mem_nil _
  have hfirst : (∀ entry ∈ [((.text "error" : Value), e.code), (.text "message", e.message)],
      Json.IsKey entry.1 ∧ Json.WritableIn (inner + 1) entry.2) ↔ Json.WritableIn (inner + 1) e.message := by
    rw [hcode, List.forall_mem_cons, List.forall_mem_singleton]
    exact ⟨fun h => h.2.2, fun h => ⟨⟨.text _, Json.writableIn_text _⟩, .text _, h⟩⟩
  by_cases htruthy : e.availableVersions.isTruthy = true
  · rcases havailable with hnone | ⟨ts, hts⟩
    · rw [hnone] at htruthy
      cases htruthy
    · simp only [errorResponse, if_pos htruthy]
      rw [hts]
      refine Response.exists_ofJson_iff.trans ?_
      rw [Json.writableIn_dict_iff, List.forall_mem_append, List.forall_mem_append, hfirst,
        and_iff_left hsecond]
      exact and_iff_left (List.forall_mem_singleton.mpr ⟨.text _, Json.writableIn_texts ts⟩)
  · simp only [errorResponse, if_neg htruthy]
    refine Response.exists_ofJson_iff.trans ?_
    rw [Json.writableIn_dict_iff, List.append_nil, List.forall_mem_append, hfirst]
    exact and_iff_left hsecond

/-- **An error in text has a response**, whatever the policy says about its content. -/
theorem exists_errorResponse (hroom : 2 ≤ room) (h : e.InText) :
    ∃ response, r.errorResponse room e = .ok response := by
  obtain ⟨t, ht⟩ := h.message
  exact (exists_errorResponse_iff hroom h.inTextButMessage).mpr (ht ▸ Json.writableIn_text t)

end Router

end SemverDispatch
