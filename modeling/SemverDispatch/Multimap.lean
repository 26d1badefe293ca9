import SemverDispatch.Text.Basic

/-!
# Multimaps

Values under names, in order of arrival; a name may come more than once. The first value counts where
one is asked for, and names are listed in order of first arrival. Headers and query parameters are
read through these views.
-/

namespace SemverDispatch

/-- Names and values in order of arrival. -/
abbrev Multimap (ν : Type) := List (Text × ν)

namespace Multimap

variable {ν μ : Type}

/-- Every value under a name, in order of arrival. -/
def getAll (m : Multimap ν) (name : Text) : List ν :=
  m.filterMap fun (n, value) => if n = name then some value else none

/-- The first value under a name. -/
def get? (m : Multimap ν) (name : Text) : Option ν := m.lookup name

/-- Does a name occur? -/
def contains (m : Multimap ν) (name : Text) : Bool := m.any fun (n, _) => n == name

/-- The distinct names, in order of first arrival. -/
def names (m : Multimap ν) : List Text := distinct [] (m.map Prod.fst)
where
  /-- The texts that are not among `seen` and not repeated, in order. -/
  distinct (seen : List Text) : List Text → List Text
    | [] => []
    | t :: rest => if t ∈ seen then distinct seen rest else t :: distinct (t :: seen) rest

/-- The distinct names with their first values. -/
def items (m : Multimap ν) : List (Text × ν) :=
  m.names.filterMap fun name => (m.get? name).map (name, ·)

/-- Do two multimaps have the same names, with the same first values? -/
def agrees (same : ν → μ → Bool) (m : Multimap ν) (other : Multimap μ) : Bool :=
  m.names.length == other.names.length && m.items.all fun (name, value) =>
    (other.get? name).any (same value)

@[simp] theorem getAll_nil (name : Text) : getAll ([] : Multimap ν) name = [] := rfl

theorem getAll_append (m other : Multimap ν) (name : Text) :
    getAll (m ++ other) name = getAll m name ++ getAll other name := by
  simp [getAll]

/-- The value that counts is the first of all values. -/
theorem get?_eq_head? (m : Multimap ν) (name : Text) : get? m name = (getAll m name).head? := by
  induction m with
  | nil => rfl
  | cons entry rest ih =>
    obtain ⟨n, value⟩ := entry
    by_cases h : name = n
    · subst h
      simp [get?, getAll]
    · have hb : (name == n) = false := by simpa using h
      have hn : ¬ n = name := fun e => h e.symm
      rw [get?, List.lookup_cons, hb, getAll, List.filterMap_cons]
      simpa [hn, get?, getAll] using ih

/-- A name occurs where it has a value. -/
theorem contains_eq_isSome (m : Multimap ν) (name : Text) :
    contains m name = (get? m name).isSome := by
  induction m with
  | nil => rfl
  | cons entry rest ih =>
    obtain ⟨n, value⟩ := entry
    by_cases h : name = n
    · subst h
      simp [contains, get?]
    · have hb : (name == n) = false := by simpa using h
      have hn : (n == name) = false := by simpa using fun e => h e.symm
      simp only [contains, get?] at ih
      simp only [contains, get?, List.any_cons, hn, List.lookup_cons, hb, Bool.false_or]
      exact ih

end Multimap

end SemverDispatch
