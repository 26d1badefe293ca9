import SemverDispatch.Proofs.JsonAscii
import SemverDispatch.Proofs.JsonValues

/-!
# JSON in responses

A response that carries a value as JSON gives this value back, if JSON loses nothing of it and it is not too deep, and
its content is ASCII whatever the value holds (`Response.ofJson_roundTrips`). On the way from the content back to the
value stand the bytes: the content is sent in UTF-8, and the reader has to find out the encoding from the first bytes.
As all bytes are printable ASCII, there is neither a mark nor a zero among them.
-/

namespace SemverDispatch

variable {t : Text} {v : Value} {depth : Nat}

/-! ## Bytes -/

namespace Utf8

/-- ASCII has one byte for each character. -/
theorem encode?_of_isPrintableAscii (h : t.IsPrintableAscii) : encode? t = some (Message.ascii t) := by
  induction t with
  | nil => rfl
  | cons c rest ih =>
    obtain ⟨hc, hrest⟩ := List.forall_mem_cons.mp h
    cases c with
    | char c =>
      have hlt : c.toNat < 0x80 := Nat.lt_succ_of_lt hc.2
      rw [encode?_char_cons, ih hrest, encodeScalar, if_pos hlt]
      rfl
    | lone half =>
      have hlt : 0xD800 + half.val < 0x7F := hc.2
      omega

end Utf8

namespace Json

/-- Each mark has a byte that is zero or beyond ASCII. -/
theorem marks_spec : ∀ entry ∈ marks, ∃ b ∈ entry.1, ¬ (b ≠ 0 ∧ b < 0x80) := by decide

/-- Where no byte is zero or beyond ASCII, there is no mark, and nothing but UTF-8 is given away. -/
theorem encodingOf_of_ascii {bs : Bytes} (h : ∀ b ∈ bs, b ≠ 0 ∧ b < 0x80) : encodingOf bs = .utf8 0 := by
  have hmark : marks.find? (fun entry => entry.1.isPrefixOf bs) = none := by
    refine List.find?_eq_none.mpr fun entry hentry hprefix => ?_
    obtain ⟨b, hb, hnot⟩ := marks_spec entry hentry
    exact hnot (h b ((List.isPrefixOf_iff_prefix.mp hprefix).subset hb))
  rw [encodingOf, hmark]
  dsimp only
  unfold unmarkedEncoding
  split
  · rw [if_neg (h _ (List.mem_cons_self ..)).1, if_neg (h _ (List.mem_cons_of_mem _ (List.mem_cons_self ..))).1]
  · rw [if_neg (h _ (List.mem_cons_self ..)).1, if_neg (h _ (List.mem_cons_of_mem _ (List.mem_cons_self ..))).1]
  · rfl

theorem encodingOf_ascii (h : t.IsPrintableAscii) : encodingOf (Message.ascii t) = .utf8 0 := by
  refine encodingOf_of_ascii fun b hb => ?_
  obtain ⟨c, hc, rfl⟩ := List.mem_map.mp hb
  have hvalue := h c hc
  have hlt : c.value < 256 := by omega
  have htoNat : (UInt8.ofNat c.value).toNat = c.value := UInt8.toNat_ofNat_of_lt' hlt
  refine ⟨fun hzero => ?_, UInt8.lt_iff_toNat_lt.mpr ?_⟩
  · have hzero' : (UInt8.ofNat c.value).toNat = 0 := congrArg UInt8.toNat hzero
    omega
  · rw [htoNat]
    exact Nat.lt_succ_of_lt hvalue.2

/-- A text that is read as a value anywhere is read as it alone. -/
theorem Reads.read_eq (h : Reads t v) (hdepth : v.nesting ≤ depth) : Json.read depth t = .ok v := by
  obtain ⟨c, tail, hcons, hstart⟩ := h.start
  have hskip : skipBlanks t = t := by rw [hcons, skipBlanks_cons hstart.1]
  have hread := h.read .nil hdepth (Nat.le_refl _)
  rw [List.append_nil] at hread
  rw [Json.read, hskip, hread]
  rfl

/-- Text that is printable ASCII is read from its bytes. -/
theorem readBytes_ascii (h : t.IsPrintableAscii) : readBytes depth (Message.ascii t) = Json.read depth t := by
  have hdecode := Utf8.decode?_of_encode? true (Utf8.encode?_of_isPrintableAscii h)
  rw [readBytes, encodingOf_ascii h, Encoding.decode?, List.drop_zero, hdecode]

end Json

namespace Response

variable {r : Response}

theorem ofJson_of_write (h : Json.write depth v = .ok t) (status : Value) :
    ofJson depth v status = .ok ⟨.text t, status, .text jsonType, .tuple []⟩ := by
  rw [ofJson, h]

theorem bodyBytes_of_isPrintableAscii (hbody : r.body = .text t) (ht : t.IsPrintableAscii) :
    r.bodyBytes = .ok (.bytes (Message.ascii t)) := by
  rw [bodyBytes, hbody]
  dsimp only
  rw [Utf8.encode?_of_isPrintableAscii ht]

/-- The content is read as the text that it is. -/
theorem bodyJson_eq_ok_iff (hbody : r.body = .text t) (ht : t.IsPrintableAscii) :
    r.bodyJson depth = .ok v ↔ Json.read depth t = .ok v := by
  rw [bodyJson, bodyBytes_of_isPrintableAscii hbody ht, Result.ok_bind]
  dsimp only
  rw [Json.readBytes_ascii ht]
  cases Json.read depth t <;> simp [Except.mapError]

/-- A value of which JSON loses nothing is written where it may be as deep, and read where it may be as deep. -/
theorem exists_ofJson_of_lossless (hv : Json.Lossless v) (hdepth : v.nesting ≤ depth) (status : Value) :
    ∃ r, ofJson depth v status = .ok r ∧ ∀ opened, r.bodyJson opened = .ok v ↔ v.nesting ≤ opened := by
  obtain ⟨t, hwrite, hread⟩ := hv.exists_write hdepth
  have hprintable := Json.isPrintable_write hv.writable hwrite
  refine ⟨_, ofJson_of_write hwrite status, fun opened => ?_⟩
  rw [bodyJson_eq_ok_iff rfl hprintable]
  exact ⟨Json.nesting_le_of_read, hread.read_eq⟩

theorem ofJson_of_lossless_tooDeep (hv : Json.Lossless v) (hdepth : depth < v.nesting) (status : Value) :
    ofJson depth v status = .error (.notWritable .tooDeep) := by
  rw [ofJson, hv.writable.write_eq_tooDeep hdepth]
  rfl

/-- **What a response carries as JSON is what was put into it.** A value of which JSON loses nothing is given back,
exactly if arrays and objects may be read that are nested as deep. It has to be written before, and what is nested
deeper than is allowed is not. The content is printable ASCII for every value that is written, so it always has bytes,
one for each of its characters. -/
theorem ofJson_roundTrips (depth : Nat) (status : Value) :
    (∀ v, Json.Lossless v → v.nesting ≤ depth → ∃ r, ofJson depth v status = .ok r ∧
      ∀ opened, r.bodyJson opened = .ok v ↔ v.nesting ≤ opened) ∧
    (∀ v, Json.Lossless v → depth < v.nesting → ofJson depth v status = .error (.notWritable .tooDeep)) ∧
    ∀ v, Json.WritableIn depth v → ∃ r t b, ofJson depth v status = .ok r ∧ r.body = .text t ∧
      t.IsPrintableAscii ∧ r.bodyBytes = .ok (.bytes b) ∧ b.length = t.length := by
  refine ⟨fun v hv hdepth => exists_ofJson_of_lossless hv hdepth status,
    fun v hv hdepth => ofJson_of_lossless_tooDeep hv hdepth status, fun v hv => ?_⟩
  obtain ⟨t, hwrite⟩ := Json.exists_write_iff.mpr hv
  have hprintable := Json.isPrintable_write hv.writable hwrite
  exact ⟨_, t, Message.ascii t, ofJson_of_write hwrite status, rfl, hprintable,
    bodyBytes_of_isPrintableAscii rfl hprintable, List.length_map ..⟩

/-- A mapping whose texts take escapes of every kind. -/
def escapesSample : Value :=
  .dict (Value.underTexts [("\"\\\n😀", .list [.null, .bool true, .int (-70), .text "é\x01"]), ("", .list [])])

theorem lossless_escapesSample : Json.Lossless escapesSample := by
  refine .dict (by decide) (by decide) ?_
  simp only [List.forall_mem_cons]
  refine ⟨.list ?_, .list (List.forall_mem_nil _), List.forall_mem_nil _⟩
  simp only [List.forall_mem_cons]
  exact ⟨.null, .bool true, .int (by decide +kernel), .text (Text.unpaired_of_isScalar (by decide)),
    List.forall_mem_nil _⟩

theorem ofJson_roundTrips_escapesSample :
    (∃ r, ofJson depthLimit escapesSample (.int 200) = .ok r ∧
      ∀ opened, r.bodyJson opened = .ok escapesSample ↔ 2 ≤ opened) ∧
    ofJson 1 escapesSample (.int 200) = .error (.notWritable .tooDeep) ∧
    ∃ r t b, ofJson 0 (.text [.lone 0x600]) (.int 200) = .ok r ∧ r.body = .text t ∧ t.IsPrintableAscii ∧
      r.bodyBytes = .ok (.bytes b) ∧ b.length = t.length :=
  ⟨(ofJson_roundTrips depthLimit (.int 200)).1 escapesSample lossless_escapesSample (by decide),
    (ofJson_roundTrips 1 (.int 200)).2.1 escapesSample lossless_escapesSample (by decide),
    (ofJson_roundTrips 0 (.int 200)).2.2 (.text [.lone 0x600]) ⟨.text _, Nat.zero_le _⟩⟩

/-- Lists inside each other. -/
def nestedLists : (depth : Nat) → Value
  | 0 => .null
  | depth + 1 => .list [nestedLists depth]

theorem lossless_nestedLists (depth : Nat) : Json.Lossless (nestedLists depth) := by
  induction depth with
  | zero => exact .null
  | succ depth ih => exact .list (List.forall_mem_singleton.mpr ih)

theorem nesting_nestedLists (depth : Nat) : (nestedLists depth).nesting = depth := by
  induction depth with
  | zero => rfl
  | succ depth ih =>
    rw [nestedLists, Value.nesting, Value.nesting.nestingAll, Value.nesting.nestingAll, ih, Nat.max_zero]

/-- Three thousand lists inside each other are neither written nor read where there is a limit, though JSON loses
nothing of them. -/
theorem not_json_nestedLists : Json.Lossless (nestedLists 3000) ∧
    ofJson depthLimit (nestedLists 3000) (.int 200) = .error (.notWritable .tooDeep) ∧
    ∃ r, ofJson 3000 (nestedLists 3000) (.int 200) = .ok r ∧ r.json ≠ .ok (nestedLists 3000) := by
  have hlossless := lossless_nestedLists 3000
  have hnesting := nesting_nestedLists 3000
  obtain ⟨r, hr, hread⟩ := exists_ofJson_of_lossless hlossless (Nat.le_of_eq hnesting) (.int 200)
  have htooDeep : depthLimit < (nestedLists 3000).nesting := by
    rw [hnesting]
    decide
  exact ⟨hlossless, ofJson_of_lossless_tooDeep hlossless htooDeep _, r, hr,
    mt (hread depthLimit).mp (Nat.not_le.mpr htooDeep)⟩

end Response

end SemverDispatch
