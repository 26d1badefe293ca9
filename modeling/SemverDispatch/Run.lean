import SemverDispatch.Message
import SemverDispatch.Pattern.Repetition
import SemverDispatch.Request

/-!
# Runs

Handling a request has effects: callables of the user run, lines are logged, messages are received and
sent. A `Run` is the list of these events in their order, together with the result or the failure that
ended them. Runs form a monad, in which a failure cuts off what would have followed it.
-/

namespace SemverDispatch

/-- Something that happens while a request is handled. -/
inductive Event where
  /-- a callable is called -/
  | called (c : Callable)
  /-- what a callable gave back is awaited -/
  | awaited (c : Callable)
  /-- dispatch logs a step -/
  | logged (line : Text)
  /-- the gateway logs a failure that it hides from the client -/
  | hidden (line : Text) (cause : Failure)
  /-- a message of a kind comes from the server -/
  | received (kind : Text)
  /-- a message goes to the server -/
  | sent (m : Message)

/-- Events in their order. -/
abbrev Trace := List Event

/-- What happened, and how it ended. -/
structure Run (α : Type) where
  /-- what happened -/
  trace : Trace
  /-- how it ended -/
  result : Except Failure α

namespace Run

variable {α β : Type}

theorem ext {r s : Run α} (ht : r.trace = s.trace) (hr : r.result = s.result) : r = s := by
  cases r; cases s; simp_all

/-- Nothing happens, and a value comes out. -/
protected def pure (a : α) : Run α := ⟨[], .ok a⟩

/-- One run and then another, unless the first fails. -/
protected def bind (r : Run α) (f : α → Run β) : Run β :=
  match r.result with
  | .ok a => ⟨r.trace ++ (f a).trace, (f a).result⟩
  | .error e => ⟨r.trace, .error e⟩

instance : Monad Run where
  pure := Run.pure
  bind := Run.bind

theorem id_map (r : Run α) : id <$> r = r := by
  obtain ⟨t, r⟩ := r
  cases r <;> simp [Functor.map, Run.bind, Run.pure]

theorem pure_bind (a : α) (f : α → Run β) : pure a >>= f = f a := by
  simp [pure, bind, Run.pure, Run.bind]

theorem bind_assoc {γ : Type} (r : Run α) (f : α → Run β) (g : β → Run γ) :
    r >>= f >>= g = r >>= fun a => f a >>= g := by
  obtain ⟨t, r⟩ := r
  cases r with
  | error e => simp [bind, Run.bind]
  | ok a =>
    simp only [bind, Run.bind]
    cases (f a).result <;> simp

instance : LawfulMonad Run := LawfulMonad.mk' Run id_map pure_bind bind_assoc

@[simp] theorem trace_pure (a : α) : (pure a : Run α).trace = [] := rfl

@[simp] theorem result_pure (a : α) : (pure a : Run α).result = .ok a := rfl

/-- After a run that succeeds the next one goes on. -/
theorem bind_of_ok {r : Run α} {a : α} (h : r.result = .ok a) (f : α → Run β) :
    r >>= f = ⟨r.trace ++ (f a).trace, (f a).result⟩ := by
  simp [bind, Run.bind, h]

/-- After a run that fails nothing happens. -/
theorem bind_of_error {r : Run α} {e : Failure} (h : r.result = .error e) (f : α → Run β) :
    r >>= f = ⟨r.trace, .error e⟩ := by
  simp [bind, Run.bind, h]

/-- Nothing happens, and the run ends as a computation does. -/
def ofExcept (x : Except Failure α) : Run α := ⟨[], x⟩

/-- Nothing happens but a failure. -/
def fail (e : Failure) : Run α := ⟨[], .error e⟩

/-- One event. -/
def emit (e : Event) : Run Unit := ⟨[e], .ok ()⟩

/-- A run inside a coroutine, as seen from outside. -/
def inCoroutine (r : Run α) : Run α := ⟨r.trace, r.result.mapError Failure.outOfCoroutine⟩

@[simp] theorem trace_inCoroutine (r : Run α) : r.inCoroutine.trace = r.trace := rfl

/-- A run that succeeds does so in a coroutine. -/
theorem result_inCoroutine_of_ok {r : Run α} {a : α} (h : r.result = .ok a) :
    r.inCoroutine.result = .ok a := by
  rw [inCoroutine, h]
  rfl

/-- A run that fails does so in a coroutine, if not always in the same way. -/
theorem result_inCoroutine_of_error {r : Run α} {e : Failure} (h : r.result = .error e) :
    r.inCoroutine.result = .error e.outOfCoroutine := by
  rw [inCoroutine, h]
  rfl

/-- A run in which a failure is followed by a second run that repairs it. -/
def recover (r : Run α) (repair : Failure → Run α) : Run α :=
  match r.result with
  | .ok _ => r
  | .error e => ⟨r.trace ++ (repair e).trace, (repair e).result⟩

end Run

/-! ## Callables -/

/-- What a callable is given. -/
inductive Argument where
  /-- a request -/
  | request (r : Request)
  /-- an error of dispatch -/
  | error (e : VersioningError)
  /-- any value -/
  | value (v : Value)

/-- What a call gives back. -/
inductive Reply where
  /-- a value that cannot be awaited -/
  | value (v : Value)
  /-- an object of a type that can be awaited, and what comes of that -/
  | awaitable (typeName : Text) (outcome : Except Failure Value)

namespace Reply

/-- The reply as it is, without awaiting it. -/
def toValue : Reply → Value
  | value v => v
  | awaitable typeName _ => .other typeName

/-- What comes of the reply, once it is awaited if it can be. -/
def outcome : Reply → Except Failure Value
  | value v => .ok v
  | awaitable _ outcome => outcome

/-- Can the reply be awaited? -/
def isAwaitable : Reply → Bool
  | value _ => false
  | awaitable .. => true

end Reply

/-- What a router finds around it: the callables that users supplied, the matcher of patterns, and how much room
is left for what is inside each other. The errors of a router, which are two deep, always find room. -/
structure Host where
  /-- what a call gives back or raises -/
  reply : Callable → List Argument → Except Failure Reply
  /-- how patterns are searched for -/
  engine : Engine
  /-- how deep values may be when they become responses -/
  room : Nat
  /-- there is room for errors -/
  two_le_room : 2 ≤ room

namespace Host

/-- Calls a callable without awaiting what it gives back. -/
def call (host : Host) (c : Callable) (arguments : List Argument) : Run Value := do
  Run.emit (.called c)
  let reply ← Run.ofExcept (host.reply c arguments)
  return reply.toValue

/-- Calls a callable, and awaits what it gives back if that can be awaited. -/
def run (host : Host) (c : Callable) (arguments : List Argument) : Run Value := do
  Run.emit (.called c)
  let reply ← Run.ofExcept (host.reply c arguments)
  if reply.isAwaitable then Run.emit (.awaited c)
  Run.ofExcept reply.outcome

/-- What comes of calling a callable, in the end. -/
def outcome (host : Host) (c : Callable) (arguments : List Argument) : Except Failure Value :=
  host.reply c arguments >>= Reply.outcome

/-- Calls a callable and awaits its result, all of it in a coroutine. -/
def invoke (host : Host) (c : Callable) (arguments : List Argument) : Run Value :=
  (host.run c arguments).inCoroutine

/-- What arrives of calling a callable in a coroutine. -/
def answer (host : Host) (c : Callable) (arguments : List Argument) : Except Failure Value :=
  (host.outcome c arguments).mapError Failure.outOfCoroutine

/-- Calls and awaits a value, which has to be a callable. -/
def invokeValue (host : Host) (v : Value) (arguments : List Argument) : Run Value :=
  match v.callable? with
  | some c => host.invoke c arguments
  | none => Run.fail (.notCallable v.qualifiedTypeName)

end Host

end SemverDispatch
