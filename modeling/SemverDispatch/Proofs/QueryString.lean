import SemverDispatch.Proofs.Fields
import SemverDispatch.Proofs.Views

/-!
# Query strings

Reading a query string takes `&` between two of them to the fields of one and then those of the other, so that looking a
name up gives the values from both in a row (`Query.lookedUp_joined`). Writing is undone by reading: a query made of a
mapping has the entries of the mapping as its fields, and whatever a query string was, the query made of its names and
first values is the same query (`Query.exists_ofEntries_reads`). Such a query can always be made, since nothing that is
read holds a surrogate.
-/

namespace SemverDispatch

namespace Query

variable {q : Query} {s a b ab : Value} {m : Multimap Text} {name : Text}

/-! ## Strings -/

/-- A query string: text or bytes. -/
inductive IsString : Value → Prop where
  /-- text, which may hold anything -/
  | text (t : Text) : IsString (.text t)
  /-- bytes -/
  | bytes (bs : Bytes) : IsString (.bytes bs)

/-- A query string without surrogates. Bytes are read in Latin-1, which has none. -/
inductive IsScalarString : Value → Prop where
  /-- text without surrogates -/
  | text (t : Text) (h : t.isScalar = true) : IsScalarString (.text t)
  /-- bytes -/
  | bytes (bs : Bytes) : IsScalarString (.bytes bs)

/-- Two query strings of one type, and the one that has a `&` between them. -/
inductive Joined : (a b ab : Value) → Prop where
  /-- in text -/
  | text (t u : Text) : Joined (.text t) (.text u) (.text (t ++ .char '&' :: u))
  /-- in bytes -/
  | bytes (bs cs : Bytes) : Joined (.bytes bs) (.bytes cs) (.bytes (bs ++ 0x26 :: cs))

/-- A query string is read, whatever it holds. -/
theorem IsString.exists_ofValue (h : IsString s) : ∃ q, ofValue s = .ok q ∧ q.inBuffer = false := by
  cases h with
  | text t => exact ⟨_, rfl, rfl⟩
  | bytes bs => exact ⟨_, rfl, rfl⟩

/-- A query string without surrogates is read, and no field holds one. -/
theorem IsScalarString.exists_ofValue (h : IsScalarString s) : ∃ q, ofValue s = .ok q ∧ q.inBuffer = false ∧
    ∀ name value, (name, value) ∈ q.fields → name.isScalar = true ∧ value.isScalar = true := by
  cases h with
  | text t ht => exact ⟨_, rfl, rfl, fun _ _ => Form.isScalar_of_mem_parse ht⟩
  | bytes bs => exact ⟨_, rfl, rfl, fun _ _ => Form.isScalar_of_mem_parse (Latin1.isScalar_decode bs)⟩

/-- The fields of two query strings stand in a row, if a `&` is between them. -/
theorem Joined.exists_ofValue (h : Joined a b ab) : ∃ qa qb q, ofValue a = .ok qa ∧ ofValue b = .ok qb ∧
    ofValue ab = .ok q ∧ q.fields = qa.fields ++ qb.fields ∧ qa.inBuffer = false ∧ q.inBuffer = false := by
  cases h with
  | text t u => exact ⟨_, _, _, rfl, rfl, rfl, Form.parse_append t u, rfl, rfl⟩
  | bytes bs cs =>
    have hdecode : Latin1.decode (bs ++ 0x26 :: cs) = Latin1.decode bs ++ .char '&' :: Latin1.decode cs :=
      List.map_append
    refine ⟨_, _, _, rfl, rfl, rfl, ?_, rfl, rfl⟩
    show Form.parse (Latin1.decode _) = _
    rw [hdecode, Form.parse_append]
    rfl

/-! ## Reading what was written -/

/-- Queries in text are the same where their names have the same first values. -/
theorem same_of_get?_eq {p q : Query} (hp : p.inBuffer = false) (hq : q.inBuffer = false)
    (h : ∀ name, p.get? name = q.get? name) : p.same q = true := by
  have hcomponent {r : Query} (hr : r.inBuffer = false) (t : Text) : r.component t = .text t := by
    rw [component, hr]
    rfl
  have hsame (t : Text) : ((p.component t).same (q.component t)) = true := by
    rw [hcomponent hp, hcomponent hq, Value.same]
    exact beq_self_eq_true t
  refine Multimap.agrees_iff.mpr fun name => ?_
  have hget : p.fields.get? name = q.fields.get? name := h name
  rw [hget]
  cases q.fields.get? name with
  | none => exact .none
  | some v => exact .some (hsame v)

/-- **Writing a query is undone by reading.** A mapping of texts without surrogates can be made into a query. This has
the names of the mapping, in their order, each with its value and no other. And whatever a query string is, if it holds
no surrogate, a query can be made of its names and their first values, and it is the same as the query that was read. -/
theorem exists_ofEntries_reads :
    (∀ m : Multimap Text, (m.map Prod.fst).Nodup →
      (∀ name value, (name, value) ∈ m → name.isScalar = true ∧ value.isScalar = true) →
      ∃ q, ofEntries m.entries = .ok q ∧ q.names = m.map Prod.fst ∧ q.size = m.length ∧
        ∀ name value, (name, value) ∈ m → q.getAllOf (.text name) = .ok [value]) ∧
    ∀ s, IsScalarString s → ∃ q q', ofValue s = .ok q ∧ ofEntries (Multimap.entries q.items) = .ok q' ∧
      q'.same q = true := by
  refine ⟨fun m hnodup hscalar => ?_, fun s hs => ?_⟩
  · obtain ⟨raw, hq⟩ := exists_ofEntries hscalar
    have hnames : m.names = m.map Prod.fst := Multimap.names_eq_of_nodup hnodup
    refine ⟨_, hq, hnames, (congrArg List.length hnames).trans (List.length_map ..), fun name value hmem => ?_⟩
    obtain ⟨-, hall, -⟩ := of_text (q := ⟨.text raw, m⟩) rfl name
    exact hall.trans (congrArg Except.ok (Multimap.getAll_of_nodup hnodup hmem))
  · obtain ⟨q, hq, hbuffer, hscalar⟩ := hs.exists_ofValue
    obtain ⟨raw, hq'⟩ := exists_ofEntries (m := q.items) fun name value hmem =>
      hscalar name value (Multimap.mem_of_get? (Multimap.mem_items_iff.mp hmem))
    have hget (name : Text) : Query.get? ⟨.text raw, q.items⟩ name = q.get? name := q.fields.get?_items name
    exact ⟨q, _, hq, hq', same_of_get?_eq rfl hbuffer hget⟩

/-- Marks, blanks and nothing at all are written and read back, and so is what some bytes that are no text are read
as. -/
theorem exists_ofEntries_reads_marks : ∃ q p p', ofEntries (Multimap.entries [("", ""), ("a&=+% é", "∀")]) = .ok q ∧
    q.names = ["", "a&=+% é"] ∧ q.getAllOf (.text "a&=+% é") = .ok ["∀"] ∧
    ofValue (.bytes (Message.ascii "%ED%A0%80=%zz&&%ff&%FF=1")) = .ok p ∧ p.size = 2 ∧
    ofEntries (Multimap.entries p.items) = .ok p' ∧ p'.same p = true := by
  obtain ⟨hwritten, hread⟩ := exists_ofEntries_reads
  obtain ⟨q, hq, hnames, -, hvalues⟩ := hwritten [("", ""), ("a&=+% é", "∀")] (by decide) fun name value hmem => by
    simp only [List.mem_cons, Prod.mk.injEq, List.not_mem_nil, or_false] at hmem
    obtain ⟨rfl, rfl⟩ | ⟨rfl, rfl⟩ := hmem
    · decide
    · decide
  obtain ⟨p, p', hp, hp', hsame⟩ := hread _ (.bytes (Message.ascii "%ED%A0%80=%zz&&%ff&%FF=1"))
  refine ⟨q, p, p', hq, hnames, hvalues _ _ (List.mem_cons_of_mem _ (List.mem_cons_self ..)), hp, ?_, hp', hsame⟩
  obtain rfl := Except.ok.inj hp
  decide +kernel

/-! ## Looking up -/

/-- A name in a query that is text is found in every way or in none. -/
theorem lookedUp (h : q.inBuffer = false) (name : Text) :
    Multimap.LookedUp name (name ∈ q.names) (q.containsOf (.text name)) (q.getAllOf (.text name))
      (q.getOf (.text name)) (q.get (.text name)) := by
  obtain ⟨hfirst, hall, hoccurs⟩ := of_text h name
  have hitem : q.get (.text name) = q.fields.item name name := by
    rw [get, hfirst, Result.ok_bind, get?, Multimap.item]
    cases q.fields.get? name with
    | some v => rfl
    | none => rfl
  rw [hoccurs, hall, hfirst, hitem]
  exact q.fields.lookedUp name name

/-- **A query is a coherent multimap, and reading is a homomorphism.** In the query of a string, a name is listed and
found in every way, with the first value counting, or not listed and found in none; names are listed once each and
counted. If two strings are joined by `&`, the values under a name are those in the first and then those in the second,
and so are the names, as far as they are new. So what is appended never changes the first value under a name that is
there. -/
theorem lookedUp_joined :
    (∀ s, IsString s → ∃ q, ofValue s = .ok q ∧ q.names.Nodup ∧ q.size = q.names.length ∧
      ∀ name, Multimap.LookedUp name (name ∈ q.names) (q.containsOf (.text name)) (q.getAllOf (.text name))
        (q.getOf (.text name)) (q.get (.text name))) ∧
    ∀ a b ab, Joined a b ab → ∃ qa qb q, ofValue a = .ok qa ∧ ofValue b = .ok qb ∧ ofValue ab = .ok q ∧
      (∀ name, q.getAllOf (.text name) = .ok (qa.getAll name ++ qb.getAll name)) ∧
      q.names = qa.names ++ qb.names.filter (· ∉ qa.names) ∧
      ∀ name ∈ qa.names, q.getOf (.text name) = qa.getOf (.text name) := by
  refine ⟨fun s hs => ?_, fun a b ab h => ?_⟩
  · obtain ⟨q, hq, hbuffer⟩ := hs.exists_ofValue
    exact ⟨q, hq, q.fields.nodup_names, rfl, lookedUp hbuffer⟩
  · obtain ⟨qa, qb, q, ha, hb, hab, hfields, hbuffer, hbuffer'⟩ := h.exists_ofValue
    refine ⟨qa, qb, q, ha, hb, hab, fun name => ?_, ?_, fun name hname => ?_⟩
    · rw [(of_text hbuffer' name).2.1, getAll, hfields, Multimap.getAll_append]
      rfl
    · rw [names, hfields, Multimap.names_append]
      rfl
    · obtain ⟨v, hv⟩ := Option.isSome_iff_exists.mp (Multimap.isSome_get?_iff.mpr hname)
      rw [(of_text hbuffer' name).1, (of_text hbuffer name).1, get?, get?, hfields, Multimap.get?_append, hv]
      rfl

/-- Two fields that are spelled differently stand under one name, the first of them blank. -/
theorem lookedUp_joined_spellings : ∃ qa qb q, ofValue (.text "a+b=&x") = .ok qa ∧
    ofValue (.text "&a%20b=1&%78=&y") = .ok qb ∧ ofValue (.text "a+b=&x&&a%20b=1&%78=&y") = .ok q ∧
    q.getAllOf (.text "a b") = .ok ["", "1"] ∧ q.getOf (.text "a b") = qa.getOf (.text "a b") ∧
    q.names = ["a b", "x", "y"] ∧ q.size = 3 := by
  obtain ⟨hstrings, hjoined⟩ := lookedUp_joined
  obtain ⟨qa, qb, q, ha, hb, hq, hall, hnames, hfirst⟩ :=
    hjoined _ _ _ (.text "a+b=&x" "&a%20b=1&%78=&y")
  obtain ⟨q', hq', -, hsize, -⟩ := hstrings _ (.text "a+b=&x&&a%20b=1&%78=&y")
  obtain rfl := Except.ok.inj (hq.symm.trans hq')
  obtain ⟨rfl, rfl⟩ : ofText "a+b=&x" = qa ∧ ofText "&a%20b=1&%78=&y" = qb :=
    ⟨Except.ok.inj ha, Except.ok.inj hb⟩
  have hlisted : q.names = ["a b", "x", "y"] := hnames.trans (by decide +kernel)
  refine ⟨_, _, q, ha, hb, hq, (hall _).trans (congrArg Except.ok (by decide +kernel)), hfirst _ (by decide +kernel),
    hlisted, ?_⟩
  rw [hsize, hlisted]
  rfl

end Query

end SemverDispatch
