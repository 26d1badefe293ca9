import SemverDispatch.Proofs.Framing

/-!
# Sending a response as a whole

A response whose fields have the types that they are declared with is sent as a whole or not at all. It is not sent
exactly if one of its texts has no bytes: the content type, the name of a header in lower case or its value, none of
which may leave Latin-1, or the content, which may hold no surrogate. The content only matters where the status allows
any; where it does not, the content is dropped, whatever it is (`send_wholly_or_not`).
-/

namespace SemverDispatch

/-- The bytes of a content, unless it is text that has none. -/
def Body.bytes? : Body → Option Bytes
  | text t => Utf8.encode? t
  | bytes b => some b

namespace Response

variable {r : Response} {body : Body} {status : Int} {contentType : Text} {headers : List (Text × Text)}

/-- The fields of a response have the types that they are declared with. -/
structure Carries (r : Response) (body : Body) (status : Int) (contentType : Text)
    (headers : List (Text × Text)) : Prop where
  /-- the content is text or bytes -/
  body : r.body = body.toValue
  /-- the status is an integer -/
  status : r.status.integer? = some status
  /-- the content type is text -/
  contentType : r.contentType = .text contentType
  /-- the headers are pairs of texts -/
  headers : r.headers = .tuple (headers.map headerValue)

/-! ## Statuses -/

/-- A status that allows no content. -/
def IsBodiless (status : Int) : Prop := (100 ≤ status ∧ status < 200) ∨ status = 204 ∨ status = 304

instance (status : Int) : Decidable (IsBodiless status) := by
  unfold IsBodiless
  infer_instance

theorem number?_of_integer? {v : Value} {n : Int} (h : v.integer? = some n) : v.number? = some (.inl n) := by
  cases v with
  | int m => exact congrArg (fun k => some (Sum.inl k)) (Option.some.inj h)
  | bool b => exact congrArg (fun k => some (Sum.inl k)) (Option.some.inj h)
  | _ => cases h

/-- An integer status tells whether content is sent. -/
theorem allowsBody_of_integer? {v : Value} (h : v.integer? = some status) :
    allowsBody v = .ok !(decide (IsBodiless status)) := by
  simp only [allowsBody, number?_of_integer? h, Value.ltNumber, Value.sameNumber]
  refine congrArg (fun b => Except.ok !b) (Bool.eq_iff_iff.mpr ?_)
  simp only [Bool.or_eq_true, Bool.and_eq_true, decide_eq_true_eq, beq_iff_eq]
  unfold IsBodiless
  omega

/-! ## Parts that have bytes -/

/-- The content that is sent: none where the status allows none, and its bytes elsewhere. -/
def Sends (body : Body) (status : Int) (sent : Bytes) : Prop :=
  (IsBodiless status → sent = []) ∧ (¬ IsBodiless status → body.bytes? = some sent)

theorem bodyBytes_of_carries (h : r.Carries body status contentType headers) {v : Value} :
    r.bodyBytes = .ok v ↔ ∃ b, body.bytes? = some b ∧ v = .bytes b := by
  rw [bodyBytes, h.body]
  cases body with
  | bytes b => simp [Body.toValue, Body.bytes?, eq_comm]
  | text t => cases hencode : Utf8.encode? t <;> simp [Body.toValue, Body.bytes?, hencode, eq_comm]

theorem sentBody_of_carries (h : r.Carries body status contentType headers) {v : Value} :
    r.sentBody = .ok v ↔ ∃ sent, Sends body status sent ∧ v = .bytes sent := by
  rw [sentBody, allowsBody_of_integer? h.status, Result.ok_bind]
  by_cases hbodiless : IsBodiless status
  · simp [Sends, hbodiless, pure, Except.pure, eq_comm]
  · simp [Sends, hbodiless, bodyBytes_of_carries h]

/-- A content has bytes to send unless it is text with a surrogate and the status allows content. -/
theorem exists_sends_iff : (∃ sent, Sends body status sent) ↔
    (¬ IsBodiless status → ∀ t, body = .text t → t.isScalar = true) := by
  by_cases hbodiless : IsBodiless status
  · exact iff_of_true ⟨[], fun _ => rfl, fun hnot => absurd hbodiless hnot⟩ fun hnot => absurd hbodiless hnot
  · simp only [Sends, hbodiless, false_implies, true_and, not_false_eq_true, forall_const]
    cases body with
    | bytes b => simp [Body.bytes?]
    | text t => simp [Body.bytes?, Utf8.exists_encode?_iff]

/-- A header on the wire: its name in lower case and its value. -/
def wired (header : Text × Text) : Bytes × Bytes := (Message.ascii header.1.lower, Message.ascii header.2)

theorem wireHeader_headerValue {header : Text × Text} {pair : Bytes × Bytes} :
    Message.wireHeader (headerValue header) = .ok pair ↔
      header.1.lower.IsLatin1 ∧ header.2.IsLatin1 ∧ pair = wired header := by
  rw [Message.wireHeader_eq_ok_iff]
  constructor
  · rintro ⟨name, value, hparts, hname, hvalue, rfl⟩
    obtain ⟨rfl, rfl⟩ : header.1 = name ∧ header.2 = value := by simpa [headerValue, Value.parts?] using hparts
    exact ⟨hname, hvalue, rfl⟩
  · rintro ⟨hname, hvalue, rfl⟩
    exact ⟨header.1, header.2, rfl, hname, hvalue, rfl⟩

/-- Headers have bytes exactly if all of their names and values are in Latin-1. -/
theorem mapM_wireHeader_headerValue {own : List (Bytes × Bytes)} :
    (headers.map headerValue).mapM Message.wireHeader = .ok own ↔
      (∀ header ∈ headers, header.1.lower.IsLatin1 ∧ header.2.IsLatin1) ∧ own = headers.map wired := by
  rw [Result.mapM_eq_ok_iff, List.forall₂_map_left_iff]
  simp only [wireHeader_headerValue]
  induction headers generalizing own with
  | nil => simp
  | cons header rest ih =>
    rw [List.forall₂_cons_left_iff, List.forall_mem_cons, List.map_cons]
    constructor
    · rintro ⟨_, others, ⟨hname, hvalue, rfl⟩, hothers, rfl⟩
      obtain ⟨hrest, rfl⟩ := ih.mp hothers
      exact ⟨⟨⟨hname, hvalue⟩, hrest⟩, rfl⟩
    · rintro ⟨⟨⟨hname, hvalue⟩, hrest⟩, rfl⟩
      exact ⟨_, _, ⟨hname, hvalue, rfl⟩, ih.mpr ⟨hrest, rfl⟩, rfl⟩

/-! ## Messages -/

/-- Every text of a response has the bytes that it is sent as. -/
structure HasBytes (body : Body) (status : Int) (contentType : Text) (headers : List (Text × Text)) :
    Prop where
  /-- the content type is in Latin-1 -/
  contentType : contentType.IsLatin1
  /-- the headers are in Latin-1, their names in lower case -/
  headers : ∀ header ∈ headers, header.1.lower.IsLatin1 ∧ header.2.IsLatin1
  /-- content that is text holds no surrogate, if it is sent at all -/
  body : ¬ IsBodiless status → ∀ t, body = .text t → t.isScalar = true

/-- The two messages of a response whose content is sent as some bytes. -/
def messages (r : Response) (contentType : Text) (headers : List (Text × Text)) (sent : Bytes) :
    List Message :=
  [.responseStart r.status
      ((Message.ascii "content-type", Message.ascii contentType) :: headers.map wired ++
        [(Message.ascii "content-length", Message.ascii (Decimal.ofNat sent.length))]),
    .responseBody (.bytes sent)]

/-- **A response has messages exactly if all of its texts have bytes**, and these are the two that they are. -/
theorem ofResponse_of_carries (h : r.Carries body status contentType headers) {sending : List Message} :
    Message.ofResponse r = .ok sending ↔ HasBytes body status contentType headers ∧
      ∃ sent, Sends body status sent ∧ sending = r.messages contentType headers sent := by
  have hparts : r.headers.parts? = some (headers.map headerValue) := by rw [h.headers]; rfl
  have hsize (b : Bytes) : (Value.bytes b).size = .ok b.length := by simp [Value.size, Value.parts?]
  rw [Message.ofResponse_eq_ok_iff]
  constructor
  · rintro ⟨v, t, items, own, length, hbody, htype, hlatin, hitems, hown, hlength, rfl⟩
    obtain ⟨sent, hsent, rfl⟩ := (sentBody_of_carries h).mp hbody
    obtain rfl := Value.text.inj (h.contentType.symm.trans htype)
    obtain rfl := Option.some.inj (hparts.symm.trans hitems)
    obtain ⟨hheaders, rfl⟩ := mapM_wireHeader_headerValue.mp hown
    obtain rfl := Except.ok.inj ((hsize sent).symm.trans hlength)
    exact ⟨⟨hlatin, hheaders, exists_sends_iff.mp ⟨sent, hsent⟩⟩, sent, hsent, rfl⟩
  · rintro ⟨hbytes, sent, hsent, rfl⟩
    exact ⟨_, _, _, _, _, (sentBody_of_carries h).mpr ⟨sent, hsent, rfl⟩, h.contentType, hbytes.contentType,
      hparts, mapM_wireHeader_headerValue.mpr ⟨hbytes.headers, rfl⟩, hsize sent, rfl⟩

end Response

namespace Gateway

open Response

variable {r : Response} {body : Body} {status : Int} {contentType : Text} {headers : List (Text × Text)}

/-- **A response is sent as a whole or not at all.** It is not sent, and the failure escapes, exactly if its content
type, the name of one of its headers in lower case or the value of one leaves Latin-1, or if its status allows content
and its content is text with a surrogate. Otherwise there are two messages. The first has the status and the
headers: the content type, then the response's own headers in their order with names in lower case, then the length of
what the second one holds. That is nothing, if the status allows no content, or else the bytes of the content. -/
theorem send_wholly_or_not (h : r.Carries body status contentType headers) :
    ((∃ e, (send r).result = .error e) ↔
      ¬ contentType.IsLatin1 ∨
        (∃ header ∈ headers, ¬ header.1.lower.IsLatin1 ∨ ¬ header.2.IsLatin1) ∨
        (¬ IsBodiless status ∧ ∃ t, body = .text t ∧ t.isScalar = false)) ∧
    (∀ e, (send r).result = .error e → (send r).trace = []) ∧
    ((send r).result = .ok () → ∃ sent,
      (send r).trace =
        [.sent (.responseStart r.status
            ((Message.ascii "content-type", Message.ascii contentType) ::
              headers.map (fun header => (Message.ascii header.1.lower, Message.ascii header.2)) ++
              [(Message.ascii "content-length", Message.ascii (Decimal.ofNat sent.length))])),
          .sent (.responseBody (.bytes sent))] ∧
      (IsBodiless status → sent = []) ∧ (¬ IsBodiless status → body.bytes? = some sent)) := by
  have hfails : (¬ HasBytes body status contentType headers) ↔
      ¬ contentType.IsLatin1 ∨
        (∃ header ∈ headers, ¬ header.1.lower.IsLatin1 ∨ ¬ header.2.IsLatin1) ∨
        (¬ IsBodiless status ∧ ∃ t, body = .text t ∧ t.isScalar = false) := by
    have hiff : HasBytes body status contentType headers ↔ contentType.IsLatin1 ∧
        (∀ header ∈ headers, header.1.lower.IsLatin1 ∧ header.2.IsLatin1) ∧
        (¬ IsBodiless status → ∀ t, body = .text t → t.isScalar = true) :=
      ⟨fun ⟨ht, hh, hb⟩ => ⟨ht, hh, hb⟩, fun ⟨ht, hh, hb⟩ => ⟨ht, hh, hb⟩⟩
    rw [hiff]
    simp only [not_and_or, not_forall, exists_prop, Bool.not_eq_true]
  rw [← hfails]
  cases hof : Message.ofResponse r with
  | ok sending =>
    obtain ⟨hbytes, sent, hsent, rfl⟩ := (ofResponse_of_carries h).mp hof
    rw [send_of_ok hof]
    refine ⟨iff_of_false nofun (not_not_intro hbytes), nofun, fun _ => ⟨sent, rfl, hsent⟩⟩
  | error e =>
    have hnot : ¬ HasBytes body status contentType headers := by
      intro hbytes
      obtain ⟨sent, hsent⟩ := exists_sends_iff.mpr hbytes.body
      have hok := (ofResponse_of_carries h).mpr ⟨hbytes, sent, hsent, rfl⟩
      rw [hof] at hok
      cases hok
    rw [send_of_error hof]
    exact ⟨iff_of_true ⟨e, rfl⟩ hnot, fun _ _ => rfl, nofun⟩

/-- The Kelvin sign is beyond Latin-1 but its lower case is not, and a status that allows no content drops a
surrogate, so this response is sent. With a status that allows content it is not. -/
theorem send_kelvin : ∃ r r' : Response,
    r.Carries (.text [.lone 0]) 204 "text/plain" [("X-\u212A", "\u00E9")] ∧
    r'.Carries (.text [.lone 0]) 200 "text/plain" [("X-\u212A", "\u00E9")] ∧
    (send r).trace =
      [.sent (.responseStart (.int 204)
          [(Message.ascii "content-type", Message.ascii "text/plain"), (Message.ascii "x-k", [0xE9]),
            (Message.ascii "content-length", Message.ascii "0")]),
        .sent (.responseBody (.bytes []))] ∧
    (send r').trace = [] := by
  have hr (status : Int) : (plain (.text [.lone 0]) status "text/plain" [("X-\u212A", "\u00E9")]).Carries
      (.text [.lone 0]) status "text/plain" [("X-\u212A", "\u00E9")] := ⟨rfl, rfl, rfl, rfl⟩
  refine ⟨_, _, hr 204, hr 200, ?_, ?_⟩
  · obtain ⟨-, -, hsent⟩ := send_wholly_or_not (hr 204)
    obtain ⟨sent, htrace, hempty, -⟩ := hsent rfl
    obtain rfl := hempty (by decide)
    have hname : Message.ascii (Text.lower "X-\u212A") = Message.ascii "x-k" := by decide +kernel
    have hvalue : Message.ascii "\u00E9" = [0xE9] := by decide
    rw [htrace, List.map_singleton]
    dsimp only
    rw [hname, hvalue]
    rfl
  · obtain ⟨hiff, hnone, -⟩ := send_wholly_or_not (hr 200)
    obtain ⟨e, he⟩ := hiff.mpr (.inr (.inr ⟨by decide, _, rfl, rfl⟩))
    exact hnone e he

end Gateway

end SemverDispatch
