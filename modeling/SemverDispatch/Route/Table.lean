import SemverDispatch.Route.Basic

/-!
# Tables of routes

The routes of a router by falling priority; routes of one priority keep the order in which they were
registered. The first route whose range admits a version is the one that answers it, so the order of the
table is the rule of dispatch: exact routes come first, then tilde, then caret, each kind by falling
base version.
-/

namespace SemverDispatch

/-- Routes by falling priority. -/
abbrev RouteTable := List Route

namespace RouteTable

/-! ## Building -/

/-- Puts a route behind all that have at least its priority. -/
def insert (table : RouteTable) (r : Route) : RouteTable :=
  match table with
  | [] => [r]
  | s :: rest => if s.priority < r.priority then r :: s :: rest else s :: insert rest r

/-- Inserting adds the route and loses none. -/
theorem insert_perm (table : RouteTable) (r : Route) : (insert table r).Perm (r :: table) := by
  induction table with
  | nil => exact .refl _
  | cons s rest ih =>
    rw [insert]
    split
    · exact .refl _
    · exact (ih.cons s).trans (.swap r s rest)

/-- The table of registrations, given in the order of registration. -/
def ofRegistrations (rs : List Registration) : RouteTable :=
  (rs.map (Route.ofRegistration (Registration.width rs))).foldl insert []

/-- The table of the entries of a mapping, every one of which must be usable. -/
def ofEntries (entries : List (Value × Value)) : Except Failure RouteTable :=
  (entries.mapM Registration.ofEntry).map ofRegistrations

/-- The table of the usable entries of a mapping. -/
def ofUsableEntries (entries : List (Value × Value)) : RouteTable :=
  ofRegistrations (entries.filterMap fun entry => (Registration.ofEntry entry).toOption)

/-- The table of the entries of a mapping; `strict` says whether an unusable one is an error. -/
def compile (strict : Bool) (entries : List (Value × Value)) : Except Failure RouteTable :=
  if strict then ofEntries entries else .ok (ofUsableEntries entries)

/-- The table of a value, which has to have entries. -/
def ofValue (strict : Bool) : Value → Except Failure RouteTable
  | .dict entries => compile strict entries
  | v => .error (.noAttribute v.qualifiedTypeName "items")

/-! ## Searching -/

/-- The first route that admits a version. -/
def findMatch (table : RouteTable) (client : Version) : Option Route :=
  table.find? fun r => r.range.admits client

/-- The later of a route found so far and another; on a tie the earlier one stays. -/
def later (found : Option Route) (r : Route) : Option Route :=
  match found with
  | none => some r
  | some s => if s.range.version < r.range.version then some r else some s

/-- The first route of the highest base version. -/
def findLatest (table : RouteTable) : Option Route := table.foldl later none

/-- The keys of the routes, in the order of the table. -/
def keys (table : RouteTable) : List Text := table.map fun r => r.key

end RouteTable

end SemverDispatch
