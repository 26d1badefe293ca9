import SemverDispatch.Gateway
import SemverDispatch.Proofs.Result
import SemverDispatch.Proofs.Encoding

/-!
# The framing of responses

When a response can be framed (`Response.Framable`), and what its header list is then: content type first, then
the response's own headers, then the length of the content. Own headers are passed on as they are, so an own
header may repeat a name that the gateway sets. The main result `trace_send_of_ok` says which entries there
are of the two names that matter to a client: one of the gateway's, and those that the response brings along.
-/

namespace SemverDispatch

/-! ## Headers -/

/-- A value that can be sent as a header: a pair of texts that are in Latin-1, the name in lower case. -/
def Value.IsHeader (v : Value) : Prop :=
  ∃ name value, v.parts? = some [.text name, .text value] ∧ name.lower.IsLatin1 ∧ value.IsLatin1

/-- The value that a header carries under a name; upper and lower case are the same. -/
def Value.headerUnder? (name : Text) (v : Value) : Option Text :=
  match v.parts? with
  | some [.text own, .text value] => if own.lower = name then some value else none
  | _ => none

/-- The values that a response's own headers carry under a name, in order. -/
def Response.ownUnder (name : Text) (r : Response) : List Text :=
  (r.headers.parts?.getD []).filterMap (Value.headerUnder? name)

namespace Message

/-- The values that a header list on the wire carries under a name, in order. -/
def under (name : Text) (headers : List (Bytes × Bytes)) : List Bytes :=
  (headers.filter fun header => header.1 = ascii name).map Prod.snd

@[simp] theorem under_append (name : Text) (headers headers' : List (Bytes × Bytes)) :
    under name (headers ++ headers') = under name headers ++ under name headers' := by
  simp [under]

theorem under_singleton {name : Text} {header : Bytes × Bytes} :
    under name [header] = if header.1 = ascii name then [header.2] else [] := by
  by_cases h : header.1 = ascii name <;> simp [under, h]

/-- Only text names a header. -/
theorem wireName_eq_ok_iff {v : Value} {b : Bytes} :
    wireName v = .ok b ↔ ∃ t, v = .text t ∧ t.lower.IsLatin1 ∧ b = ascii t.lower := by
  cases v with
  | text t => simp [wireName, Text.latin1_eq_ok_iff]
  | bytes b => simp [wireName, Value.latin1]
  | buffer b => simp [wireName, Value.latin1]
  | _ => simp [wireName]

theorem pair_eq_ok_iff {v a b : Value} : v.pair = .ok (a, b) ↔ v.parts? = some [a, b] := by
  unfold Value.pair
  split <;> simp_all

/-- **A header on the wire has the bytes of its name, in lower case, and of its value.** -/
theorem wireHeader_eq_ok_iff {v : Value} {header : Bytes × Bytes} :
    wireHeader v = .ok header ↔ ∃ name value, v.parts? = some [.text name, .text value] ∧
      name.lower.IsLatin1 ∧ value.IsLatin1 ∧ header = (ascii name.lower, ascii value) := by
  simp only [wireHeader, Result.bind_eq_ok_iff, Prod.exists, pair_eq_ok_iff, wireName_eq_ok_iff,
    Value.latin1_eq_ok_iff]
  constructor
  · rintro ⟨-, -, hparts, _, ⟨name, rfl, hname, rfl⟩, _, ⟨value, rfl, hvalue, rfl⟩, hheader⟩
    exact ⟨name, value, hparts, hname, hvalue, (Except.ok.inj hheader).symm⟩
  · rintro ⟨name, value, hparts, hname, hvalue, rfl⟩
    exact ⟨_, _, hparts, _, ⟨name, rfl, hname, rfl⟩, _, ⟨value, rfl, hvalue, rfl⟩, rfl⟩

theorem exists_wireHeader_iff {v : Value} : (∃ header, wireHeader v = .ok header) ↔ v.IsHeader := by
  simp only [wireHeader_eq_ok_iff, Value.IsHeader]
  constructor
  · rintro ⟨_, name, value, hparts, hname, hvalue, -⟩
    exact ⟨name, value, hparts, hname, hvalue⟩
  · rintro ⟨name, value, hparts, hname, hvalue⟩
    exact ⟨_, name, value, hparts, hname, hvalue, rfl⟩

/-- A header stands under the name that it gives itself. -/
theorem under_wireHeader {v : Value} {header : Bytes × Bytes} {name : Text} (hname : name.IsLatin1)
    (h : wireHeader v = .ok header) : under name [header] = (v.headerUnder? name).toList.map ascii := by
  obtain ⟨own, value, hparts, hown, -, rfl⟩ := wireHeader_eq_ok_iff.mp h
  have hunder : v.headerUnder? name = if own.lower = name then some value else none := by
    rw [Value.headerUnder?, hparts]
  rw [under_singleton, hunder]
  simp only [ascii_inj hown hname]
  split <;> rfl

/-- Headers stand on the wire under the names that they give themselves. -/
theorem under_of_mapM {items : List Value} {headers : List (Bytes × Bytes)} {name : Text}
    (hname : name.IsLatin1) (h : items.mapM wireHeader = .ok headers) :
    under name headers = (items.filterMap (Value.headerUnder? name)).map ascii := by
  induction Result.mapM_eq_ok_iff.mp h with
  | nil => rfl
  | @cons v header rest tail hv hrest ih =>
    rw [← List.singleton_append, under_append, under_wireHeader hname hv,
      ih (Result.mapM_eq_ok_iff.mpr hrest), List.filterMap_cons]
    cases v.headerUnder? name with
    | none => rfl
    | some value => rfl

/-! ## Whole responses -/

/-- The header list of a response, from its content type, own headers and content length. -/
def framed (contentType : Bytes) (own : List (Bytes × Bytes)) (length : Nat) : List (Bytes × Bytes) :=
  (ascii "content-type", contentType) :: own ++ [(ascii "content-length", ascii (Decimal.ofNat length))]

/-- Under a name stand the content type, if the name is its, then what own headers carry, and then the content
length, if the name is its. -/
theorem under_framed {name : Text} {contentType : Bytes} {own : List (Bytes × Bytes)} {length : Nat} :
    under name (framed contentType own length) =
      (if ascii "content-type" = ascii name then [contentType] else []) ++ under name own ++
        (if ascii "content-length" = ascii name then [ascii (Decimal.ofNat length)] else []) := by
  rw [framed, ← List.singleton_append, under_append, under_append, under_singleton, under_singleton]

/-- A response is framed where each of its parts has bytes. -/
theorem ofResponse_eq_ok_iff {r : Response} {messages : List Message} :
    ofResponse r = .ok messages ↔ ∃ body contentType items own length,
      r.sentBody = .ok body ∧ r.contentType = .text contentType ∧ contentType.IsLatin1 ∧
      r.headers.parts? = some items ∧ items.mapM wireHeader = .ok own ∧ body.size = .ok length ∧
      messages = [.responseStart r.status (framed (ascii contentType) own length),
        .responseBody body] := by
  have hparts (items : List Value) : r.headers.parts = .ok items ↔ r.headers.parts? = some items := by
    unfold Value.parts
    cases r.headers.parts? <;> simp
  simp only [ofResponse, Result.bind_eq_ok_iff, Value.latin1_eq_ok_iff, hparts]
  constructor
  · rintro ⟨body, hbody, _, ⟨contentType, htype, hlatin, rfl⟩, items, hitems, own, hown, length, hlength,
      hmessages⟩
    exact ⟨body, contentType, items, own, length, hbody, htype, hlatin, hitems, hown, hlength,
      (Except.ok.inj hmessages).symm⟩
  · rintro ⟨body, contentType, items, own, length, hbody, htype, hlatin, hitems, hown, hlength, rfl⟩
    exact ⟨body, hbody, _, ⟨contentType, htype, hlatin, rfl⟩, items, hitems, own, hown, length, hlength,
      rfl⟩

end Message

/-! ## When a response can be framed -/

namespace Response

variable {r : Response}

/-- A response that can be framed. -/
structure Framable (r : Response) : Prop where
  /-- its status is a number -/
  status : r.status.number?.isSome = true
  /-- content that is sent has a length, and has UTF-8 bytes if it is text -/
  content : allowsBody r.status = .ok true →
    r.body.parts?.isSome = true ∧ ∀ t, r.body = .text t → t.isScalar = true
  /-- its content type is text in Latin-1 -/
  contentType : ∃ t, r.contentType = .text t ∧ t.IsLatin1
  /-- its headers are pairs of texts in Latin-1 -/
  headers : ∃ items, r.headers.parts? = some items ∧ ∀ v ∈ items, v.IsHeader

theorem exists_allowsBody_iff {status : Value} :
    (∃ b, allowsBody status = .ok b) ↔ status.number?.isSome = true := by
  unfold allowsBody
  cases status.number? <;> simp

/-- Content has bytes, unless it is text with a surrogate; what is neither text nor bytes is left as it is. -/
theorem exists_bodyBytes_size_iff : (∃ body length, r.bodyBytes = .ok body ∧ body.size = .ok length) ↔
    r.body.parts?.isSome = true ∧ ∀ t, r.body = .text t → t.isScalar = true := by
  have hsize (v : Value) : (∃ length, v.size = .ok length) ↔ v.parts?.isSome = true := by
    unfold Value.size
    cases v.parts? <;> simp
  cases hbody : r.body with
  | text t =>
    have hscalar := Utf8.exists_encode?_iff (t := t)
    cases hencode : Utf8.encode? t with
    | none => simpa [bodyBytes, hbody, hencode, Value.parts?] using hscalar
    | some b =>
      have ht : t.isScalar = true := hscalar.mp ⟨b, hencode⟩
      simp [bodyBytes, hbody, hencode, hsize, Value.parts?, ht]
  | _ => simp [bodyBytes, hbody, hsize]

/-- What is sent has a length, if the status tells whether content is sent, and content has a length. -/
theorem exists_sentBody_size_iff : (∃ body length, r.sentBody = .ok body ∧ body.size = .ok length) ↔
    r.status.number?.isSome = true ∧ (allowsBody r.status = .ok true →
      r.body.parts?.isSome = true ∧ ∀ t, r.body = .text t → t.isScalar = true) := by
  rw [← exists_allowsBody_iff, ← exists_bodyBytes_size_iff]
  cases hallows : allowsBody r.status with
  | error e => simp [sentBody, hallows]
  | ok allowed =>
    cases allowed with
    | true => simp [sentBody, hallows]
    | false =>
      have hempty : r.sentBody = .ok (.bytes []) := by
        rw [sentBody, hallows]
        rfl
      simp only [hempty]
      exact ⟨fun _ => ⟨⟨false, rfl⟩, nofun⟩, fun _ => ⟨_, 0, rfl, rfl⟩⟩

/-- **A response has messages exactly if it can be framed.** -/
theorem exists_ofResponse_iff : (∃ messages, Message.ofResponse r = .ok messages) ↔ r.Framable := by
  constructor
  · rintro ⟨messages, h⟩
    obtain ⟨body, contentType, items, own, length, hbody, htype, hlatin, hitems, hown, hlength, -⟩ :=
      Message.ofResponse_eq_ok_iff.mp h
    obtain ⟨hstatus, hcontent⟩ := exists_sentBody_size_iff.mp ⟨body, length, hbody, hlength⟩
    exact ⟨hstatus, hcontent, ⟨contentType, htype, hlatin⟩, items, hitems, fun v hv =>
      Message.exists_wireHeader_iff.mp (Result.exists_mapM_iff.mp ⟨own, hown⟩ v hv)⟩
  · rintro ⟨hstatus, hcontent, ⟨contentType, htype, hlatin⟩, items, hitems, hheaders⟩
    obtain ⟨body, length, hbody, hlength⟩ := exists_sentBody_size_iff.mpr ⟨hstatus, hcontent⟩
    obtain ⟨own, hown⟩ := Result.exists_mapM_iff.mpr fun v hv =>
      Message.exists_wireHeader_iff.mpr (hheaders v hv)
    exact ⟨_, Message.ofResponse_eq_ok_iff.mpr ⟨body, contentType, items, own, length, hbody, htype,
      hlatin, hitems, hown, hlength, rfl⟩⟩

end Response

/-! ## What is sent -/

namespace Gateway

variable {r : Response} {messages : List Message}

/-- Messages are sent in their order, and nothing else happens. -/
theorem sendAll_eq (messages : List Message) : sendAll messages = ⟨messages.map .sent, .ok ()⟩ := by
  induction messages with
  | nil => rfl
  | cons m rest ih => rw [sendAll, ih]; rfl

theorem send_of_ok (h : Message.ofResponse r = .ok messages) :
    send r = ⟨messages.map .sent, .ok ()⟩ := by
  rw [send, h, ← sendAll_eq]
  rfl

theorem send_of_error {e : Failure} (h : Message.ofResponse r = .error e) : send r = ⟨[], .error e⟩ := by
  rw [send, h]
  rfl

/-- **A response that is sent is two messages**, and its header list says what comes with it. Under the name
of the content length stand the values of the response's own headers of that name, and behind them the length of
the content that is sent; under the name of the content type stands the response's content type, and behind it
the values of its own headers of that name. So there is exactly one of each, unless the response brings one
along. -/
theorem trace_send_of_ok (h : (send r).result = .ok ()) : ∃ headers body contentType length,
    (send r).trace = [.sent (.responseStart r.status headers), .sent (.responseBody body)] ∧
    body.size = .ok length ∧ r.contentType = .text contentType ∧
    Message.under "content-length" headers =
      (r.ownUnder "content-length").map Message.ascii ++ [Message.ascii (Decimal.ofNat length)] ∧
    Message.under "content-type" headers =
      Message.ascii contentType :: (r.ownUnder "content-type").map Message.ascii ∧
    ((Message.under "content-length" headers).length = 1 ↔ r.ownUnder "content-length" = []) ∧
    ((Message.under "content-type" headers).length = 1 ↔ r.ownUnder "content-type" = []) := by
  obtain ⟨messages, hmessages⟩ : ∃ messages, Message.ofResponse r = .ok messages := by
    cases hof : Message.ofResponse r with
    | ok messages => exact ⟨messages, rfl⟩
    | error e =>
      rw [send_of_error hof] at h
      cases h
  obtain ⟨body, contentType, items, own, length, -, htype, -, hitems, hown, hlength, rfl⟩ :=
    Message.ofResponse_eq_ok_iff.mp hmessages
  have hunder {name : Text} (hname : name.IsLatin1) :
      Message.under name own = (r.ownUnder name).map Message.ascii := by
    rw [Response.ownUnder, hitems]
    exact Message.under_of_mapM hname hown
  have hcontentLength : Message.under "content-length"
      (Message.framed (Message.ascii contentType) own length) =
        (r.ownUnder "content-length").map Message.ascii ++ [Message.ascii (Decimal.ofNat length)] := by
    rw [Message.under_framed, hunder (by decide), if_neg (by decide), if_pos rfl, List.nil_append]
  have hcontentType : Message.under "content-type"
      (Message.framed (Message.ascii contentType) own length) =
        Message.ascii contentType :: (r.ownUnder "content-type").map Message.ascii := by
    rw [Message.under_framed, hunder (by decide), if_pos rfl, if_neg (by decide), List.append_nil]
    rfl
  refine ⟨_, body, contentType, length, by rw [send_of_ok hmessages]; rfl, hlength, htype,
    hcontentLength, hcontentType, ?_, ?_⟩
  · rw [hcontentLength]
    simp
  · rw [hcontentType]
    simp

/-- A header of another name stays apart from both. -/
theorem trace_send_versioned :
    (send (.plain (.text "ok") 200 Response.plainType [("X-Version", "2")])).result = .ok () ∧
    ∃ headers body length,
      (send (.plain (.text "ok") 200 Response.plainType [("X-Version", "2")])).trace =
        [.sent (.responseStart (.int 200) headers), .sent (.responseBody body)] ∧
      body.size = .ok length ∧
      Message.under "content-length" headers = [Message.ascii (Decimal.ofNat length)] ∧
      Message.under "content-type" headers = [Message.ascii Response.plainType] := by
  have hlengths : (Response.plain (.text "ok") 200 Response.plainType
      [("X-Version", "2")]).ownUnder "content-length" = [] := by decide
  have htypes : (Response.plain (.text "ok") 200 Response.plainType
      [("X-Version", "2")]).ownUnder "content-type" = [] := by decide
  obtain ⟨headers, body, contentType, length, htrace, hsize, hcontentType, hlength, htype, -⟩ :=
    trace_send_of_ok (r := .plain (.text "ok") 200 Response.plainType [("X-Version", "2")]) rfl
  obtain rfl : Response.plainType = contentType := Value.text.inj hcontentType
  exact ⟨rfl, headers, body, length, htrace, hsize, by rw [hlength, hlengths]; rfl,
    by rw [htype, htypes]; rfl⟩

/-- A response that brings a content length along is sent with two of them, and they contradict each other. -/
theorem two_contentLengths : ∃ r headers,
    (Response.ofBody (.text "ok") Response.plainType).withHeader (.text "Content-Length") (.text "5") =
      .ok r ∧
    (send r).result = .ok () ∧
    (send r).trace =
      [.sent (.responseStart (.int 200) headers), .sent (.responseBody (.bytes (Message.ascii "ok")))] ∧
    Message.under "content-length" headers = [Message.ascii "5", Message.ascii "2"] :=
  ⟨_, _, rfl, rfl, rfl, by decide⟩

end Gateway

end SemverDispatch
