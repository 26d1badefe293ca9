import SemverDispatch.Proofs.Compilation

/-!
# Strict and lenient tables

A mapping is compiled strictly, so that an entry without use is an error, or leniently, so that it is left out. The two
differ in nothing else. An entry is refused for one of two reasons (`Registration.Refused`), and strict compilation ends
with the report of the first entry that is refused (`compile_eq_error_iff`); without such an entry both tables are the
same. Lenient compilation always gives a table, which is that of the entries that are left: the others leave no trace
in it, neither in its order nor in the width of its priorities (`compile_strict_iff_lenient`).

The report shows the key of the entry. An integer with too many digits cannot be shown, and then it is this that fails
(`Registration.Reports`).
-/

namespace SemverDispatch

namespace Registration

variable {entry : Value × Value} {reason : Text} {e : Failure}

/-- An entry of a mapping is refused for a reason. -/
inductive Refused (entry : Value × Value) : (reason : Text) → Prop where
  /-- the value cannot be called, whatever the key is -/
  | handler (h : entry.2.callable? = none) : Refused entry badHandler
  /-- the value can be called, but the key writes no range -/
  | key (h : entry.2.callable?.isSome) (hkey : VersionRange.ofValue? entry.1 = none) : Refused entry badKey

/-- An error reports what is wrong with the entry of a key. -/
inductive Reports (key : Value) (reason : Text) : Failure → Prop where
  /-- it is an error of a handler, and names the key -/
  | named {shown : Text} (h : key.shown = .ok shown) :
    Reports key reason (.versioning (.invalidHandler shown reason))
  /-- the key cannot be shown -/
  | unnamed {e : Failure} (h : key.shown = .error e) : Reports key reason e

/-- What is wrong with an entry is reported in one way. -/
theorem reports_iff {key : Value} : Reports key reason e ↔ e = .handler key reason := by
  rw [Failure.handler]
  constructor
  · intro h
    cases h with
    | named h => rw [h]
    | unnamed h => rw [h]
  · rintro rfl
    cases h : key.shown with
    | ok shown => exact .named h
    | error e => exact .unnamed h

/-- An entry fails to register a handler where it is refused. -/
theorem ofEntry_eq_error_iff :
    ofEntry entry = .error e ↔ ∃ reason, Refused entry reason ∧ Reports entry.1 reason e := by
  simp only [reports_iff]
  obtain ⟨key, handler⟩ := entry
  constructor
  · intro h
    unfold ofEntry at h
    dsimp only at h
    split at h
    · rename_i hhandler
      exact ⟨_, .handler hhandler, (Except.error.inj h).symm⟩
    · cases h
    · rename_i c hhandler hnot
      refine ⟨_, .key (Option.isSome_iff_exists.mpr ⟨c, hhandler⟩) ?_, (Except.error.inj h).symm⟩
      refine Option.eq_none_iff_forall_ne_some.mpr fun r hr => ?_
      -- a key that writes a range is text
      obtain ⟨t, ht, -⟩ := Option.bind_eq_some_iff.mp hr
      exact hnot t r ht hr
  · rintro ⟨reason, hrefused, rfl⟩
    cases hrefused with
    | handler hhandler =>
      dsimp only at hhandler
      simp only [ofEntry, hhandler]
    | key hhandler hkey =>
      obtain ⟨c, hc⟩ := Option.isSome_iff_exists.mp hhandler
      dsimp only at hc hkey
      simp only [ofEntry, hc, hkey]
      cases key.text? <;> rfl

/-- An entry is refused exactly if its value cannot be called or its key writes no range. -/
theorem exists_refused_iff :
    (∃ reason, Refused entry reason) ↔ entry.2.callable? = none ∨ VersionRange.ofValue? entry.1 = none := by
  constructor
  · rintro ⟨_, h | ⟨-, h⟩⟩
    · exact .inl h
    · exact .inr h
  · intro h
    by_cases hhandler : entry.2.callable? = none
    · exact ⟨_, .handler hhandler⟩
    · exact ⟨_, .key (Option.isSome_iff_ne_none.mpr hhandler) (h.resolve_left hhandler)⟩

/-- An entry is refused, or it is usable. -/
theorem not_usable_iff :
    (¬ ∃ reg : Registration, reg.WrittenBy entry) ↔ ∃ reason, Refused entry reason := by
  have herror : (∃ e, ofEntry entry = .error e) ↔ ∃ reason, Refused entry reason := by
    simp only [ofEntry_eq_error_iff, reports_iff]
    exact ⟨fun ⟨_, reason, h, _⟩ => ⟨reason, h⟩, fun ⟨reason, h⟩ => ⟨_, reason, h, rfl⟩⟩
  rw [← herror]
  simp only [← ofEntry_eq_ok_iff]
  cases ofEntry entry <;> simp

end Registration

namespace RouteTable

variable {entries : List (Value × Value)} {e : Failure} {table : RouteTable}

/-- **Strict compilation fails with the report of the first entry that is refused.** -/
theorem compile_eq_error_iff : compile true entries = .error e ↔
    ∃ before entry after reason, entries = before ++ entry :: after ∧
      (∀ other ∈ before, ∃ reg : Registration, reg.WrittenBy other) ∧
      Registration.Refused entry reason ∧ Registration.Reports entry.1 reason e := by
  have hcompile : compile true entries = (entries.mapM Registration.ofEntry).map ofRegistrations := rfl
  rw [hcompile, Result.map_eq_error_iff, Result.mapM_eq_error_iff]
  simp only [Registration.ofEntry_eq_ok_iff, Registration.ofEntry_eq_error_iff]
  constructor
  · rintro ⟨before, entry, after, hsplit, hbefore, reason, h⟩
    exact ⟨before, entry, after, reason, hsplit, hbefore, h⟩
  · rintro ⟨before, entry, after, reason, hsplit, hbefore, h⟩
    exact ⟨before, entry, after, hsplit, hbefore, reason, h⟩

/-- Strict compilation fails exactly if an entry is refused. -/
theorem exists_compile_eq_error_iff : (∃ e, compile true entries = .error e) ↔
    ∃ entry ∈ entries, ∃ reason, Registration.Refused entry reason := by
  constructor
  · rintro ⟨e, h⟩
    obtain ⟨before, entry, after, reason, rfl, -, hrefused, -⟩ := compile_eq_error_iff.mp h
    exact ⟨entry, List.mem_append_right _ (List.mem_cons_self ..), reason, hrefused⟩
  · rintro ⟨entry, hentry, hrefused⟩
    cases hcompile : compile true entries with
    | ok table =>
      -- a mapping that compiles strictly has no entry that is refused
      obtain ⟨written, hwritten, -⟩ := Result.map_eq_ok_iff.mp hcompile
      obtain ⟨reg, hreg⟩ := Result.exists_mapM_iff.mp ⟨written, hwritten⟩ entry hentry
      exact absurd ⟨reg, Registration.ofEntry_eq_ok_iff.mp hreg⟩ (Registration.not_usable_iff.mpr hrefused)
    | error e => exact ⟨e, rfl⟩

/-- Where all keys can be shown, strict compilation fails for no other reason than a handler. -/
theorem exists_compile_eq_invalidHandler_iff (hshown : ∀ entry ∈ entries, ∃ t, entry.1.shown = .ok t) :
    (∃ key reason, compile true entries = .error (.versioning (.invalidHandler key reason))) ↔
      ∃ entry ∈ entries, ∃ reason, Registration.Refused entry reason := by
  rw [← exists_compile_eq_error_iff]
  refine ⟨fun ⟨_, _, h⟩ => ⟨_, h⟩, fun ⟨e, h⟩ => ?_⟩
  obtain ⟨before, entry, after, reason, rfl, -, -, hreports⟩ := compile_eq_error_iff.mp h
  obtain ⟨t, ht⟩ := hshown entry (List.mem_append_right _ (List.mem_cons_self ..))
  cases hreports with
  | named _ => exact ⟨_, reason, h⟩
  | unnamed hkey =>
    rw [ht] at hkey
    cases hkey

/-- Entries that are refused register nothing. -/
theorem registrations_filter (entries : List (Value × Value)) :
    registrations (entries.filter fun entry => ∃ reg : Registration, reg.WrittenBy entry) =
      registrations entries := by
  rw [registrations, List.filterMap_filter]
  refine List.filterMap_congr fun entry _ => ?_
  split
  · rfl
  · rename_i hnot
    refine (Option.eq_none_iff_forall_ne_some.mpr fun reg hreg => hnot ?_).symm
    exact decide_eq_true ⟨reg, Registration.toOption_ofEntry_eq_some.mp hreg⟩

/-- **Strict and lenient compilation agree.** Strict compilation fails exactly if a value cannot be called or a key
writes no range, and reports the first such entry, of two faults that of the value. If its key can be shown, the error
is one of a handler and names the key. Otherwise the table is that of lenient compilation. This never fails, and its
table is the one that the usable entries have alone, strictly or not. -/
theorem compile_strict_iff_lenient (entries : List (Value × Value)) :
    (∀ e, compile true entries = .error e ↔ ∃ before entry after reason, entries = before ++ entry :: after ∧
      (∀ other ∈ before, ∃ reg : Registration, reg.WrittenBy other) ∧
      Registration.Refused entry reason ∧ Registration.Reports entry.1 reason e) ∧
    ((∃ e, compile true entries = .error e) ↔
      ∃ entry ∈ entries, entry.2.callable? = none ∨ VersionRange.ofValue? entry.1 = none) ∧
    ((∀ entry ∈ entries, ∃ t, entry.1.shown = .ok t) →
      ((∃ key reason, compile true entries = .error (.versioning (.invalidHandler key reason))) ↔
        ∃ entry ∈ entries, entry.2.callable? = none ∨ VersionRange.ofValue? entry.1 = none)) ∧
    (∀ table, compile true entries = .ok table → compile false entries = .ok table) ∧
    ∃ table, compile false entries = .ok table ∧ ∀ strict : Bool,
      compile strict (entries.filter fun entry => ∃ reg : Registration, reg.WrittenBy entry) = .ok table := by
  refine ⟨fun e => compile_eq_error_iff, ?_, fun hshown => ?_, fun table h => ?_, _, rfl, fun strict => ?_⟩
  · simp only [exists_compile_eq_error_iff, Registration.exists_refused_iff]
  · simp only [exists_compile_eq_invalidHandler_iff hshown, Registration.exists_refused_iff]
  · exact congrArg Except.ok (eq_ofUsableEntries_of_compile h).symm
  · have husable : ∀ entry ∈ entries.filter fun entry => ∃ reg : Registration, reg.WrittenBy entry,
        ∃ reg : Registration, reg.WrittenBy entry :=
      fun entry hentry => of_decide_eq_true (List.mem_filter.mp hentry).2
    rw [compile_of_usable strict husable, registrations_filter]
    rfl

/-- Of two faulty entries the first is reported, of its two faults that of the value, and its key is named, which is no
text. -/
theorem compile_twoFaults :
    (∃ key reason, compile true [(.text "^1", .function 0), (.int 2, .null), (.text "two", .null)] =
      .error (.versioning (.invalidHandler key reason))) ∧
    compile true [(.text "^1", .function 0), (.int 2, .null), (.text "two", .null)] =
      .error (.versioning (.invalidHandler "2" "handler must be callable")) := by
  have hshown : (Value.int 2).shown = .ok "2" := if_neg (by decide +kernel)
  obtain ⟨hreports, -, hhandler, -, -⟩ :=
    compile_strict_iff_lenient [(.text "^1", .function 0), (.int 2, .null), (.text "two", .null)]
  refine ⟨(hhandler ?_).mpr ⟨(.int 2, .null), by simp, .inl rfl⟩,
    (hreports _).mpr ⟨[(.text "^1", .function 0)], (.int 2, .null), [(.text "two", .null)], _, rfl, ?_,
      .handler rfl, .named hshown⟩⟩
  · intro entry hentry
    simp only [List.mem_cons, List.not_mem_nil, or_false] at hentry
    rcases hentry with rfl | rfl | rfl
    · exact ⟨_, rfl⟩
    · exact ⟨_, hshown⟩
    · exact ⟨_, rfl⟩
  · exact List.forall_mem_singleton.mpr (by decide)

/-- A key that is an integer of too many digits is refused, but the error is not one of a handler. -/
theorem compile_hugeInteger :
    compile true [(.int (10 ^ 5000 : Nat), .function 0)] = .error .tooLarge ∧
    ¬ ∃ key reason, compile true [(.int (10 ^ 5000 : Nat), .function 0)] =
      .error (.versioning (.invalidHandler key reason)) := by
  have hshown : (Value.int (10 ^ 5000 : Nat)).shown = .error .tooLarge := if_pos (by decide +kernel)
  have h : compile true [(.int (10 ^ 5000 : Nat), .function 0)] = .error .tooLarge :=
    compile_eq_error_iff.mpr
      ⟨[], (.int (10 ^ 5000 : Nat), .function 0), [], _, rfl, List.forall_mem_nil _, .key rfl rfl, .unnamed hshown⟩
  refine ⟨h, fun ⟨_, _, hhandler⟩ => ?_⟩
  rw [h] at hhandler
  cases hhandler

end RouteTable

end SemverDispatch
