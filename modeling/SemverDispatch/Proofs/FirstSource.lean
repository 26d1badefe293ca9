import Mathlib.Data.List.DropRight
import SemverDispatch.Proofs.Channels
import SemverDispatch.Proofs.Totality

/-!
# The first source with a version

Which source the version text of a request comes from. What a request holds at a source is a value or nothing
(`Source.holds`), and a value is a version text if it is text that is not blank (`Value.CleansTo`). A version that was
set beforehand comes before every source. After that the sources are tried in their order, as often as they occur, up
to the first that does not give nothing: its version text is what extraction finds, or its failure is what
extraction fails with (`extract_findsFirst`).

The argument is one step and one induction: a source that gives nothing is passed over and leaves behind the call that
it made (`firstOf_cons_of_nothing`), and so does a row of them (`firstOf_append_of_nothing`).
-/

namespace SemverDispatch

/-! ## Texts without blanks around them -/

/-- A text with no blank at either end. -/
structure Text.IsTrimmed (t : Text) : Prop where
  /-- it begins with no blank -/
  head : ∀ c, t.head? = some c → c.isBlank = false
  /-- it ends with no blank -/
  last : ∀ c, t.getLast? = some c → c.isBlank = false

theorem Text.isTrimmed_strip (t : Text) : t.strip.IsTrimmed := by
  have hstrip : t.strip = t.stripLeft.rdropWhile CodePoint.isBlank := rfl
  constructor
  · intro c hc
    -- what is dropped at the end leaves the beginning as it is
    obtain ⟨dropped, hdropped⟩ := List.rdropWhile_prefix CodePoint.isBlank t.stripLeft
    have hhead : (t.dropWhile CodePoint.isBlank).head? = some c := by
      rw [← stripLeft, ← hdropped, List.head?_append, ← hstrip, hc]
      rfl
    have hnot := List.head?_dropWhile_not CodePoint.isBlank t
    rwa [hhead] at hnot
  · intro c hc
    have hne : t.strip ≠ [] := by
      rintro hnil
      rw [hnil] at hc
      cases hc
    rw [List.getLast?_eq_some_getLast hne] at hc
    have hnot := List.rdropWhile_last_not CodePoint.isBlank t.stripLeft hne
    rw [Bool.not_eq_true] at hnot
    exact Option.some.inj hc ▸ hnot

/-- A value is a version text: it is text, and this is left of it without the blanks around it. -/
def Value.CleansTo (v : Value) (t : Text) : Prop := ∃ raw, v = .text raw ∧ raw.strip ≠ [] ∧ t = raw.strip

theorem Value.CleansTo.isTrimmed {v : Value} {t : Text} (h : v.CleansTo t) : t ≠ [] ∧ t.IsTrimmed := by
  obtain ⟨raw, -, hne, rfl⟩ := h
  exact ⟨hne, raw.isTrimmed_strip⟩

theorem Reader.cleanValue_eq_some_iff {v : Value} {t : Text} : cleanValue v = some t ↔ v.CleansTo t := by
  rw [cleanValue, Option.bind_eq_some_iff]
  simp only [Value.text?_eq_some_iff, clean, Value.CleansTo]
  constructor
  · rintro ⟨raw, hraw, h⟩
    split at h
    · cases h
    · rename_i hne
      exact ⟨raw, hraw, hne, (Option.some.inj h).symm⟩
  · rintro ⟨raw, hraw, hne, rfl⟩
    exact ⟨raw, hraw, if_neg hne⟩

theorem Reader.cleanValue_eq_none_iff {v : Value} : cleanValue v = none ↔ ∀ t, ¬ v.CleansTo t := by
  simp only [Option.eq_none_iff_forall_ne_some, ne_eq, cleanValue_eq_some_iff]

/-! ## What a request holds at a source -/

namespace Source

variable (p : Policy) (host : Host) (request : Request)

/-- What the first group of the pattern keeps of a subject. A search cannot be read in which some group ends before it
begins. -/
def kept (subject : Text) : Except Failure (Option Text) :=
  match p.pattern.search host.engine subject with
  | none => .ok none
  | some found => if found.isCrossed then .error .crossedGroup else .ok (found.edges.text? 1)

/-- What a request holds at a source: the first value of the header, the first value of the parameter, what the first
group of the pattern keeps of the path, and what the callable gives for the request, which is not awaited. A query in a
buffer has no text among its names. A pattern of text searches text, and one of bytes searches bytes; nothing else can
be searched. The search may end without a result, and the callable may raise. -/
def holds : Source → Except Failure (Option Value)
  | header => .ok (request.headers.getAll p.header).head?
  | query => .ok (if request.query.inBuffer then none else (request.query.get? p.query).map .text)
  | path =>
    match p.pattern.source, request.path with
    | .text _, .text t => (kept p host t).map (·.map .text)
    | .bytes _, .text _ => .error .textSearched
    | .text _, .bytes _ | .text _, .buffer _ => .error .bytesSearched
    | .bytes _, .bytes b | .bytes _, .buffer b =>
      (kept p host (Reader.subjectOf b)).map (·.map fun t => .bytes (t.map fun c => UInt8.ofNat c.value))
    | _, v => .error (.notSearchable v.qualifiedTypeName)
  | custom =>
    match p.custom with
    | some c => (host.call c [.request request]).result.map some
    | none => .ok none

/-- A source gives a version text. -/
def Gives (s : Source) (t : Text) : Prop := ∃ v, s.holds p host request = .ok (some v) ∧ v.CleansTo t

/-- A source gives nothing: there is no value, or it is no version text. -/
def GivesNothing (s : Source) : Prop :=
  ∃ v?, s.holds p host request = .ok v? ∧ ∀ v t, v? = some v → ¬ v.CleansTo t

end Source

namespace Policy

/-- What happens when a source is tried: the callable is called, if it is the source. -/
def callsOf (p : Policy) : Source → Trace
  | .custom =>
    match p.custom with
    | some c => [.called c]
    | none => []
  | _ => []

/-- What happens when a row of sources is tried: a call for every time that the callable is a source. -/
def calls (p : Policy) (row : List Source) : Trace := row.flatMap p.callsOf

theorem calls_cons (p : Policy) (s : Source) (row : List Source) :
    p.calls (s :: row) = p.callsOf s ++ p.calls row := List.flatMap_cons

theorem calls_append_singleton (p : Policy) (row : List Source) (s : Source) :
    p.calls (row ++ [s]) = p.calls row ++ p.callsOf s := by
  rw [calls, List.flatMap_append, List.flatMap_singleton]
  rfl

theorem callsOf_custom {p : Policy} {c : Callable} (hcustom : p.custom = some c) (host : Host)
    (arguments : List Argument) : p.callsOf .custom = (host.call c arguments).trace := by
  rw [callsOf, hcustom, Host.call_eq]

/-- Where the callable is a source, there is one. -/
theorem exists_custom_of_resolve {options defaults : Value} {p : Policy} (h : resolve options defaults = .ok p)
    (hmem : Source.custom ∈ p.sources) : ∃ c, p.custom = some c := by
  obtain ⟨config, -, h⟩ := Result.bind_eq_ok_iff.mp h
  exact Option.ne_none_iff_exists'.mp ((ofRecord_eq_ok_iff.mp h).1.custom hmem)

end Policy

/-! ## Reading a source -/

section Reading

variable {p : Policy} {host : Host} {request : Request} {s : Source} {e : Failure} {t : Text}

/-- A source gives nothing exactly if what it holds is nothing once it is cleaned. -/
theorem Source.givesNothing_iff : s.GivesNothing p host request ↔
    (s.holds p host request).map (·.bind Reader.cleanValue) = .ok none := by
  simp only [GivesNothing, Result.map_eq_ok_iff, Option.bind_eq_none_iff, Reader.cleanValue_eq_none_iff]
  refine exists_congr fun v? => and_congr_right fun _ => ?_
  exact ⟨fun h v hv t => h v t hv, fun h v t hv => h v hv t⟩

/-- It gives a version text exactly if that is what it holds once it is cleaned. -/
theorem Source.gives_iff : s.Gives p host request t ↔
    (s.holds p host request).map (·.bind Reader.cleanValue) = .ok (some t) := by
  simp only [Gives, Result.map_eq_ok_iff, Option.bind_eq_some_iff, Reader.cleanValue_eq_some_iff]
  constructor
  · rintro ⟨v, hv, ht⟩
    exact ⟨_, hv, v, rfl, ht⟩
  · rintro ⟨_, hv, v, rfl, ht⟩
    exact ⟨v, hv, ht⟩

theorem Source.Gives.not_givesNothing (h : s.Gives p host request t) : ¬ s.GivesNothing p host request := by
  rw [givesNothing_iff, gives_iff.mp h]
  nofun

/-- What the first group keeps is what is read of it, if there is one. -/
theorem Reader.firstGroup_eq_kept (hgroups : p.pattern.groups ≠ 0) (subject : Text) :
    firstGroup host.engine p.pattern subject = Source.kept p host subject := by
  unfold firstGroup Source.kept
  cases hsearch : p.pattern.search host.engine subject with
  | none => rfl
  | some found =>
    have hle : 1 ≤ found.groups := by
      rw [Pattern.groups_of_search hsearch]
      exact Nat.one_le_iff_ne_zero.mpr hgroups
    simp only [Match.group?, if_pos hle]

/-- What a request holds in its path is what is read there, if the pattern has a group. -/
theorem Source.map_holds_path (hgroups : p.pattern.groups ≠ 0) :
    (path.holds p host request).map (·.bind Reader.cleanValue) =
      Reader.pathValueVersion host.engine p.pattern request.path := by
  have htext (t : Text) : ((kept p host t).map (·.map Value.text)).map (·.bind Reader.cleanValue) =
      Reader.pathVersion host.engine p.pattern t := by
    rw [Reader.pathVersion, Reader.firstGroup_eq_kept hgroups]
    cases kept p host t with
    | ok kept? => cases kept? <;> rfl
    | error e => rfl
  -- bytes are no version text, whichever are kept
  have hbytes (subject : Text) (f : Text → Bytes) :
      ((kept p host subject).map (·.map fun t => Value.bytes (f t))).map (·.bind Reader.cleanValue) =
        (Reader.firstGroup host.engine p.pattern subject).map fun _ => none := by
    rw [Reader.firstGroup_eq_kept hgroups]
    cases kept p host subject with
    | ok kept? => cases kept? <;> rfl
    | error e => rfl
  cases hsource : p.pattern.source <;> cases hpath : request.path <;>
    simp only [holds, hsource, hpath, Reader.pathValueVersion, htext, hbytes] <;> rfl

/-- **A reader calls what its source says and finds what the source holds**, cleaned. -/
theorem Extractor.read_of_readerOf {reader : Reader} (hgroups : p.pattern.groups ≠ 0)
    (h : readerOf? p s = some reader) : reader.source = s ∧ reader.read host request =
      ⟨p.callsOf s, (s.holds p host request).map (·.bind Reader.cleanValue)⟩ := by
  cases s with
  | header =>
    obtain rfl := Option.some.inj h
    exact ⟨rfl, rfl⟩
  | query =>
    obtain rfl := Option.some.inj h
    refine ⟨rfl, ?_⟩
    rw [Source.holds]
    cases hbuffer : request.query.inBuffer with
    | true =>
      rw [Reader.read, Query.getOf_text, hbuffer]
      rfl
    | false =>
      rw [Reader.read_query hbuffer]
      cases request.query.get? p.query <;> rfl
  | path =>
    obtain rfl := Option.some.inj h
    rw [Source.map_holds_path hgroups]
    exact ⟨rfl, rfl⟩
  | custom =>
    obtain ⟨c, hcustom, rfl⟩ := Option.map_eq_some_iff.mp h
    refine ⟨rfl, ?_⟩
    have hholds : Source.custom.holds p host request = (host.call c [.request request]).result.map some := by
      rw [Source.holds, hcustom]
    rw [Policy.callsOf_custom hcustom host [.request request], hholds, Reader.read_custom]
    cases hcall : (host.call c [.request request]).result with
    | ok v =>
      rw [Run.bind_of_ok hcall, Run.trace_pure, List.append_nil]
      rfl
    | error e =>
      rw [Run.bind_of_error hcall]
      rfl

/-! ## Trying a row of sources -/

namespace Extractor

/-- The readers of a row of sources. -/
def ofSources (p : Policy) (row : List Source) : Extractor := row.filterMap (readerOf? p)

variable {row before : List Source}

/-- One step: the first source is read, and ends the row if it gives a version text. -/
theorem firstOf_ofSources_cons (hgroups : p.pattern.groups ≠ 0) (s : Source) (row : List Source) :
    firstOf host request (ofSources p (s :: row)) =
      (⟨p.callsOf s, (s.holds p host request).map (·.bind Reader.cleanValue)⟩ : Run (Option Text)) >>=
        fun found =>
          match found with
          | some t => pure (some ⟨t, .source s⟩)
          | none => firstOf host request (ofSources p row) := by
  cases hreader : readerOf? p s with
  | some reader =>
    obtain ⟨hsource, hread⟩ := read_of_readerOf hgroups hreader
    rw [ofSources, List.filterMap_cons_some hreader, firstOf, hread, hsource]
    rfl
  | none =>
    -- only a callable can be missing, and then there is nothing to call
    cases s with
    | custom =>
      have hcustom : p.custom = none := Option.map_eq_none_iff.mp hreader
      have hcalls : p.callsOf .custom = [] := by rw [Policy.callsOf, hcustom]
      rw [ofSources, List.filterMap_cons_none hreader, hcalls, Source.holds, hcustom]
      exact (pure_bind _ _).symm
    | _ => cases hreader

/-- A source that gives a version text ends the row. -/
theorem firstOf_cons_of_gives (hgroups : p.pattern.groups ≠ 0) (h : s.Gives p host request t) :
    firstOf host request (ofSources p (s :: row)) = ⟨p.callsOf s, .ok (some ⟨t, .source s⟩)⟩ := by
  rw [firstOf_ofSources_cons hgroups, Run.bind_of_ok (Source.gives_iff.mp h)]
  simp

/-- So does a source that fails. -/
theorem firstOf_cons_of_error (hgroups : p.pattern.groups ≠ 0) (h : s.holds p host request = .error e) :
    firstOf host request (ofSources p (s :: row)) = ⟨p.callsOf s, .error e⟩ := by
  rw [firstOf_ofSources_cons hgroups, Run.bind_of_error (Result.map_eq_error_iff.mpr h)]

/-- A source that gives nothing is passed over. -/
theorem firstOf_cons_of_nothing (hgroups : p.pattern.groups ≠ 0) (h : s.GivesNothing p host request) :
    firstOf host request (ofSources p (s :: row)) =
      ⟨p.callsOf s ++ (firstOf host request (ofSources p row)).trace,
        (firstOf host request (ofSources p row)).result⟩ := by
  rw [firstOf_ofSources_cons hgroups, Run.bind_of_ok (Source.givesNothing_iff.mp h)]

/-- So is a row of them, call by call. -/
theorem firstOf_append_of_nothing (hgroups : p.pattern.groups ≠ 0)
    (h : ∀ s ∈ before, s.GivesNothing p host request) :
    firstOf host request (ofSources p (before ++ row)) =
      ⟨p.calls before ++ (firstOf host request (ofSources p row)).trace,
        (firstOf host request (ofSources p row)).result⟩ := by
  induction before with
  | nil => rfl
  | cons s rest ih =>
    obtain ⟨hs, hrest⟩ := List.forall_mem_cons.mp h
    rw [List.cons_append, firstOf_cons_of_nothing hgroups hs, ih hrest, p.calls_cons, List.append_assoc]

end Extractor

/-- A source gives a version text, or it gives nothing, or it fails. -/
theorem Source.gives_or_fails (h : ¬ s.GivesNothing p host request) :
    (∃ t, s.Gives p host request t) ∨ ∃ e, s.holds p host request = .error e := by
  rw [givesNothing_iff] at h
  simp only [gives_iff]
  cases hholds : s.holds p host request with
  | error e => exact .inr ⟨e, rfl⟩
  | ok v? =>
    rw [hholds] at h
    cases hclean : v?.bind Reader.cleanValue with
    | some t => exact .inl ⟨t, congrArg Except.ok hclean⟩
    | none => exact absurd (congrArg Except.ok hclean) h

end Reading

/-! ## The first source -/

/-- A source of a policy, with those before it and behind it, is reached: none of those before it gives anything. -/
structure Policy.Reaches (p : Policy) (host : Host) (request : Request) (before : List Source) (s : Source)
    (behind : List Source) : Prop where
  /-- they are the sources of the policy, in their order -/
  sources : p.sources = before ++ s :: behind
  /-- those before it give nothing -/
  nothing : ∀ s' ∈ before, s'.GivesNothing p host request

/-- A run finds the version text of the first source that gives one, and calls no more than it takes to get there. -/
structure Policy.FindsFirst (p : Policy) (host : Host) (request : Request) (run : Run (Option Extracted)) :
    Prop where
  /-- what is found is what a source gives that is reached -/
  found_iff : ∀ found, run.result = .ok (some found) ↔ ∃ before s behind,
    p.Reaches host request before s behind ∧ s.Gives p host request found.version ∧ found.origin = .source s
  /-- nothing is found exactly if no source gives anything -/
  none_iff : run.result = .ok none ↔ ∀ s ∈ p.sources, s.GivesNothing p host request
  /-- it fails with what a source fails with that is reached -/
  error_iff : ∀ e, run.result = .error e ↔ ∃ before s behind,
    p.Reaches host request before s behind ∧ s.holds p host request = .error e
  /-- the callable is called for the sources up to the one that is reached and does not give nothing -/
  calls : ∀ before s behind, p.Reaches host request before s behind → ¬ s.GivesNothing p host request →
    run.trace = p.calls (before ++ [s])
  /-- the callable is called for every source, if none gives anything -/
  calls_all : (∀ s ∈ p.sources, s.GivesNothing p host request) → run.trace = p.calls p.sources

namespace Extractor

variable {p : Policy} {host : Host} {request : Request} {s : Source} {before behind : List Source} {e : Failure}
  {t : Text} {options defaults : Value}

theorem firstOf_of_gives (hgroups : p.pattern.groups ≠ 0) (h : p.Reaches host request before s behind)
    (hs : s.Gives p host request t) :
    firstOf host request (ofPolicy p) = ⟨p.calls (before ++ [s]), .ok (some ⟨t, .source s⟩)⟩ := by
  have hpolicy : ofPolicy p = ofSources p (before ++ s :: behind) := congrArg (ofSources p) h.sources
  rw [hpolicy, firstOf_append_of_nothing hgroups h.nothing, firstOf_cons_of_gives hgroups hs,
    p.calls_append_singleton]

theorem firstOf_of_error (hgroups : p.pattern.groups ≠ 0) (h : p.Reaches host request before s behind)
    (hs : s.holds p host request = .error e) :
    firstOf host request (ofPolicy p) = ⟨p.calls (before ++ [s]), .error e⟩ := by
  have hpolicy : ofPolicy p = ofSources p (before ++ s :: behind) := congrArg (ofSources p) h.sources
  rw [hpolicy, firstOf_append_of_nothing hgroups h.nothing, firstOf_cons_of_error hgroups hs,
    p.calls_append_singleton]

theorem firstOf_of_nothing (hgroups : p.pattern.groups ≠ 0)
    (h : ∀ s ∈ p.sources, s.GivesNothing p host request) :
    firstOf host request (ofPolicy p) = ⟨p.calls p.sources, .ok none⟩ := by
  have hpolicy : ofPolicy p = ofSources p (p.sources ++ []) := by rw [List.append_nil]; rfl
  rw [hpolicy, firstOf_append_of_nothing hgroups h]
  exact Run.ext (List.append_nil _) rfl

/-- Either no source gives anything, or one is reached that gives a version text or fails. -/
theorem nothing_or_reaches (p : Policy) (host : Host) (request : Request) :
    (∀ s ∈ p.sources, s.GivesNothing p host request) ∨ ∃ before s behind,
      p.Reaches host request before s behind ∧
        ((∃ t, s.Gives p host request t) ∨ ∃ e, s.holds p host request = .error e) := by
  classical
  cases hfind : p.sources.find? fun s => ¬ s.GivesNothing p host request with
  | none => exact .inl fun s hs => by simpa using List.find?_eq_none.mp hfind s hs
  | some s =>
    obtain ⟨hs, before, behind, hsplit, hbefore⟩ := List.find?_eq_some_iff_append.mp hfind
    have hreaches : p.Reaches host request before s behind :=
      ⟨hsplit, fun s' hs' => by simpa using hbefore s' hs'⟩
    exact .inr ⟨before, s, behind, hreaches, Source.gives_or_fails (by simpa using hs)⟩

/-- **Trying the sources of a policy finds the first that has a version.** -/
theorem findsFirst_firstOf (hgroups : p.pattern.groups ≠ 0) :
    p.FindsFirst host request (firstOf host request (ofPolicy p)) where
  found_iff found := by
    constructor
    · intro h
      obtain hnothing | ⟨before, s, behind, hreaches, ⟨t, ht⟩ | ⟨e, he⟩⟩ := nothing_or_reaches p host request
      · rw [firstOf_of_nothing hgroups hnothing] at h
        cases h
      · rw [firstOf_of_gives hgroups hreaches ht] at h
        obtain rfl := Option.some.inj (Except.ok.inj h)
        exact ⟨before, s, behind, hreaches, ht, rfl⟩
      · rw [firstOf_of_error hgroups hreaches he] at h
        cases h
    · rintro ⟨before, s, behind, hreaches, ht, horigin⟩
      rw [firstOf_of_gives hgroups hreaches ht, ← horigin]
  none_iff := by
    refine ⟨fun h => ?_, fun h => by rw [firstOf_of_nothing hgroups h]⟩
    obtain hnothing | ⟨before, s, behind, hreaches, ⟨t, ht⟩ | ⟨e, he⟩⟩ := nothing_or_reaches p host request
    · exact hnothing
    · rw [firstOf_of_gives hgroups hreaches ht] at h
      cases h
    · rw [firstOf_of_error hgroups hreaches he] at h
      cases h
  error_iff e := by
    constructor
    · intro h
      obtain hnothing | ⟨before, s, behind, hreaches, ⟨t, ht⟩ | ⟨e', he'⟩⟩ := nothing_or_reaches p host request
      · rw [firstOf_of_nothing hgroups hnothing] at h
        cases h
      · rw [firstOf_of_gives hgroups hreaches ht] at h
        cases h
      · rw [firstOf_of_error hgroups hreaches he'] at h
        obtain rfl := Except.error.inj h
        exact ⟨before, s, behind, hreaches, he'⟩
    · rintro ⟨before, s, behind, hreaches, he⟩
      rw [firstOf_of_error hgroups hreaches he]
  calls before s behind hreaches hs := by
    obtain ⟨t, ht⟩ | ⟨e, he⟩ := Source.gives_or_fails hs
    · rw [firstOf_of_gives hgroups hreaches ht]
    · rw [firstOf_of_error hgroups hreaches he]
  calls_all h := by rw [firstOf_of_nothing hgroups h]

/-- **Extraction finds what was set beforehand, and otherwise the version text of the first source that gives one.**
What was set beforehand is found whatever else is in the request, and nothing is called. A source that fails, because
the path cannot be searched or the callable raises, fails extraction, unless a source before it gives a version
text. -/
theorem extract_findsFirst (hp : Policy.resolve options defaults = .ok p) (host : Host) (request : Request) :
    (Source.custom ∈ p.sources → ∃ c, p.custom = some c) ∧
    (∀ t, request.version.CleansTo t → ∀ other : Request, other.version = request.version →
      (ofPolicy p).extract host other = pure (some ⟨t, .request⟩)) ∧
    ((∀ t, ¬ request.version.CleansTo t) →
      p.FindsFirst host request ((ofPolicy p).extract host request)) ∧
    ∀ found, ((ofPolicy p).extract host request).result = .ok (some found) →
      found.version ≠ [] ∧ found.version.IsTrimmed := by
  have hgroups := Policy.groups_ne_zero_of_resolve hp
  have hpreset {t : Text} (ht : request.version.CleansTo t) (other : Request)
      (hother : other.version = request.version) :
      (ofPolicy p).extract host other = pure (some ⟨t, .request⟩) := by
    rw [extract, hother, Reader.cleanValue_eq_some_iff.mpr ht]
  have hfirst (hnot : ∀ t, ¬ request.version.CleansTo t) :
      p.FindsFirst host request ((ofPolicy p).extract host request) := by
    rw [extract, Reader.cleanValue_eq_none_iff.mpr hnot]
    exact findsFirst_firstOf hgroups
  refine ⟨Policy.exists_custom_of_resolve hp, fun t ht => hpreset ht, hfirst, fun found hfound => ?_⟩
  by_cases hset : ∃ t, request.version.CleansTo t
  · obtain ⟨t, ht⟩ := hset
    rw [hpreset ht request rfl] at hfound
    obtain rfl := Option.some.inj (Except.ok.inj hfound)
    exact ht.isTrimmed
  · obtain ⟨before, s, behind, -, ⟨v, -, hv⟩, -⟩ := ((hfirst (not_exists.mp hset)).found_iff found).mp hfound
    exact hv.isTrimmed

/-- Options that name the callable twice. -/
def repeatedSources : Value :=
  .dict [(.text "extraction", .dict
    [(.text "sources", .list [.text "custom", .text "header", .text "custom", .text "query", .text "path"]),
      (.text "custom", .function 7)])]

/-- A request with a blank header, a version in the query and a path that cannot be searched. -/
def blankHeader : Request :=
  .build (.text "GET") (.int 5) (.ofPairs [("Accept-Version", .text "\t")]) (.ofText "v=+2") .null

/-- Blank sources are passed over, the callable is called for both of its entries on the way, and the path is not
searched. -/
theorem extract_repeatedSources : ∃ p, Policy.resolve repeatedSources defaultOptions = .ok p ∧
    ((ofPolicy p).extract (.direct fun _ _ => .ok (.text " ")) blankHeader).result =
      .ok (some ⟨"2", .source .query⟩) ∧
    ((ofPolicy p).extract (.direct fun _ _ => .ok (.text " ")) blankHeader).trace =
      [.called (.function 7), .called (.function 7)] := by
  obtain ⟨p, hp, hsources, hheader, hquery, hcustom⟩ : ∃ p, Policy.resolve repeatedSources defaultOptions = .ok p ∧
      p.sources = [.custom, .header, .custom, .query, .path] ∧ p.header = "accept-version" ∧
      p.query = "v" ∧ p.custom = some (.function 7) := ⟨_, rfl, rfl, rfl, rfl, rfl⟩
  have hfirst := (extract_findsFirst hp (.direct fun _ _ => .ok (.text " ")) blankHeader).2.2.1 (by
    rintro t ⟨raw, hraw, -⟩
    cases hraw)
  have hblank {v : Value} {raw t : Text} (hv : v = .text raw) (hraw : raw.strip = []) : ¬ v.CleansTo t := by
    rintro ⟨raw', hraw', hne, -⟩
    obtain rfl := Value.text.inj (hv.symm.trans hraw')
    exact hne hraw
  have hcustomNothing : Source.custom.GivesNothing p (.direct fun _ _ => .ok (.text " ")) blankHeader := by
    refine ⟨some (.text " "), by rw [Source.holds, hcustom]; rfl, fun v t hv => ?_⟩
    exact hblank (Option.some.inj hv).symm (by decide)
  have hheaderNothing : Source.header.GivesNothing p (.direct fun _ _ => .ok (.text " ")) blankHeader := by
    refine ⟨some (.text "\t"), by rw [Source.holds, hheader]; rfl, fun v t hv => ?_⟩
    exact hblank (Option.some.inj hv).symm (by decide)
  have hreaches : p.Reaches (.direct fun _ _ => .ok (.text " ")) blankHeader [.custom, .header, .custom] .query
      [.path] := ⟨hsources, by simp [hcustomNothing, hheaderNothing]⟩
  have hvalue : blankHeader.query.get? "v" = some " 2" := by decide +kernel
  have hgives : Source.query.Gives p (.direct fun _ _ => .ok (.text " ")) blankHeader "2" :=
    ⟨.text " 2", by rw [Source.holds, hquery, hvalue]; rfl, " 2", rfl, by decide, by decide⟩
  refine ⟨p, hp, (hfirst.found_iff _).mpr ⟨_, _, _, hreaches, hgives, rfl⟩, ?_⟩
  rw [hfirst.calls _ _ _ hreaches hgives.not_givesNothing]
  simp [Policy.calls, Policy.callsOf, hcustom]

/-- Options whose pattern has a second group that one repetition sets and a later one leaves behind. -/
def crossingPath : Value :=
  .dict [(.text "extraction", .dict
    [(.text "sources", .list [.text "path"]), (.text "path", .dict [(.text "pattern", .text "((x)|y|z)++")])])]

/-- Options whose pattern is one of bytes. -/
def bytesPath : Value :=
  .dict [(.text "extraction", .dict
    [(.text "sources", .list [.text "path"]), (.text "path", .dict [(.text "pattern", .pattern
      ⟨.bytes (Message.ascii "/v(\\d+)/"), [], 1, .sequence
        [.point (.char '/'), .point (.char 'v'), .group 1 Pattern.digits, .point (.char '/')]⟩)])])]

/-- Both options pass the checks. The first pattern is found in a path of text, but one of its groups ends there before
it begins, and a path that is no text cannot be searched. Nor can text be searched for the second. So extraction fails,
though no callable is a source. -/
theorem extract_crossingPath : (∃ p, Policy.resolve crossingPath defaultOptions = .ok p ∧
    p.sources = [.path] ∧
    ((ofPolicy p).extract (.direct fun _ _ => .ok .null)
      (.build (.text "GET") (.text "xyz") ∅ (.ofText []) .null)).result = .error .crossedGroup ∧
    ((ofPolicy p).extract (.direct fun _ _ => .ok .null)
      (.build (.text "GET") (.int 5) ∅ (.ofText []) .null)).result = .error (.notSearchable "int")) ∧
    ∃ p, Policy.resolve bytesPath defaultOptions = .ok p ∧ p.sources = [.path] ∧
      ((ofPolicy p).extract (.direct fun _ _ => .ok .null)
        (.build (.text "GET") (.text "/v2/users") ∅ (.ofText []) .null)).result = .error .textSearched := by
  refine ⟨?_, _, rfl, rfl, rfl⟩
  have hresolved : (Policy.resolve crossingPath defaultOptions).toOption.any (fun p =>
      p.sources = [.path] && p.pattern.source = .text "((x)|y|z)++" &&
        (p.pattern.search .exact "xyz").any Match.isCrossed) = true := by decide +kernel
  cases hp : Policy.resolve crossingPath defaultOptions with
  | error e =>
    rw [hp] at hresolved
    cases hresolved
  | ok p =>
    rw [hp] at hresolved
    have hgroups := Policy.groups_ne_zero_of_resolve hp
    obtain ⟨⟨hsources, hsource⟩, hcrossed⟩ :
        (p.sources = [.path] ∧ p.pattern.source = .text "((x)|y|z)++") ∧
          (p.pattern.search .exact "xyz").any Match.isCrossed = true := by
      simpa [Except.toOption] using hresolved
    obtain ⟨found, hfound, hcrossed⟩ := (Option.any_eq_true _ _).mp hcrossed
    have hextract {path : Value} {e : Failure}
        (h : Source.path.holds p (.direct fun _ _ => .ok .null)
          (.build (.text "GET") path ∅ (.ofText []) .null) = .error e) :
        ((ofPolicy p).extract (.direct fun _ _ => .ok .null)
          (.build (.text "GET") path ∅ (.ofText []) .null)).result = .error e :=
      congrArg Run.result (firstOf_of_error hgroups ⟨hsources, List.forall_mem_nil _⟩ h)
    refine ⟨p, rfl, hsources, hextract ?_, hextract ?_⟩
    · simp only [Source.holds, Source.kept, Request.build, Host.direct, hsource, hfound, if_pos hcrossed]
      rfl
    · simp only [Source.holds, Request.build, hsource]
      rfl

end Extractor

end SemverDispatch
