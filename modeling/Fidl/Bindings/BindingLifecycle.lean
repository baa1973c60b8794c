import Fidl.Bindings.Binding

/-! # Runs of a binding

Every operation of `Binding` as one event, and the replay of a list of them. The only state the
lifecycle decides is whether `internal_router_` is set: each form of `Bind` sets it, `Close` and
`Unbind` clear it, and nothing else touches it. In particular the lambda `Bind` installs only
forwards a connection error; the binding stays bound until the client closes or unbinds it.
-/

namespace Fidl.Binding

/-- One call on a binding, or a connection error its Router reports. -/
inductive Event where
  | bind (handle : MxHandle) (waiter : AsyncWaiter)
  | bindInterfaceHandle (creation : ChannelCreation) (waiter : AsyncWaiter)
  | bindRequest (request : InterfaceRequest) (waiter : AsyncWaiter)
  | newBinding (creation : ChannelCreation) (waiter : AsyncWaiter)
  | close
  | unbind
  | setConnectionErrorHandler (handler : Option Closure)
  | connectionError

/-- One event on the binding at address `self`; `none` when it is undefined. -/
def step (self : Ptr) (binding : Binding) : Event → Option (Binding × List Effect)
  | .bind handle waiter => some (binding.bind self handle waiter)
  | .bindInterfaceHandle creation waiter =>
    let (bound, _, effects) := binding.bindInterfaceHandle self creation waiter
    some (bound, effects)
  | .bindRequest request waiter => some (binding.bindRequest self request waiter)
  | .newBinding creation waiter =>
    let (bound, _, effects) := binding.newBinding self creation waiter
    some (bound, effects)
  | .close => some binding.close
  | .unbind => binding.unbind.map fun (unbound, _) => (unbound, [])
  | .setConnectionErrorHandler handler => some (binding.setConnectionErrorHandler handler, [])
  | .connectionError => some binding.connectionError

/-- Replay events on the binding at address `self`, collecting their effects. -/
def run (self : Ptr) : Binding → List Event → Option (Binding × List Effect)
  | binding, [] => some (binding, [])
  | binding, event :: rest => (binding.step self event).bind fun (next, effects) =>
    (run self next rest).map fun (last, later) => (last, effects ++ later)

/-- Whether the binding is bound after an event, from whether it was before: the abstract
lifecycle the code implements. -/
def Event.boundAfter (bound : Bool) : Event → Bool
  | .bind .. | .bindInterfaceHandle .. | .bindRequest .. | .newBinding .. => true
  | .close | .unbind => false
  | .setConnectionErrorHandler _ | .connectionError => bound

/-- Whether the binding is bound after a list of events. -/
def boundAfter (bound : Bool) (events : List Event) : Bool :=
  events.foldl Event.boundAfter bound

variable {self : Ptr} {binding next : Binding} {effects : List Effect}

theorem step_isBound {event : Event} (success : binding.step self event = some (next, effects)) :
    next.isBound = event.boundAfter binding.isBound := by
  cases event with
  | unbind =>
    rcases binding with ⟨_ | router, handler⟩
    · cases success
    · cases success; rfl
  | connectionError =>
    have same : binding.connectionError.1 = next := congrArg Prod.fst (Option.some.inj success)
    rw [← same]
    exact isBound_connectionError binding
  | _ => cases success; rfl

/-- Over any run, `is_bound()` follows the abstract lifecycle: set by a `Bind`, cleared by
`Close` or `Unbind`, unchanged by anything else. -/
theorem run_isBound {events : List Event} (success : run self binding events = some (next, effects)) :
    next.isBound = boundAfter binding.isBound events := by
  induction events generalizing binding effects with
  | nil => cases success; rfl
  | cons event rest ih =>
    obtain ⟨⟨middle, first⟩, stepped, later⟩ := Option.bind_eq_some.mp success
    obtain ⟨⟨last, tail⟩, replayed, same⟩ := Option.map_eq_some'.mp later
    cases same
    rw [ih replayed, step_isBound stepped]
    rfl

/-- Every form of `Bind` evaluates `FTL_DCHECK(!internal_router_)`, which holds exactly when the
binding is not bound. -/
theorem bind_check (handle : MxHandle) (waiter : AsyncWaiter) :
    (binding.bind self handle waiter).2 = [.check !binding.isBound] := by
  rcases binding with ⟨_ | router, handler⟩ <;> rfl

/-- `is_bound()` is set by each form of `Bind` and cleared only by `Close` and `Unbind`; a
connection error leaves it as it was, and the `FTL_DCHECK(!internal_router_)` of `Bind` holds
exactly when the binding is not bound. -/
theorem isBound_lifecycle :
    (∀ (self : Ptr) (binding : Binding) events next effects,
      run self binding events = some (next, effects) →
        next.isBound = boundAfter binding.isBound events) ∧
    (∀ binding : Binding, binding.connectionError.1.isBound = binding.isBound) ∧
    (∀ (self : Ptr) (binding : Binding) handle waiter,
      (binding.bind self handle waiter).2 = [.check !binding.isBound]) :=
  ⟨fun _ _ _ _ _ success => run_isBound success, isBound_connectionError,
    fun _ _ => bind_check⟩

/-- Bound to channel 7, then told of a connection error, the binding is still bound, and binding
it again fails `FTL_DCHECK(!internal_router_)`. -/
theorem connectionError_keeps_bound :
    (construct.bind 1 7 .default).1.connectionError.1.isBound = true ∧
      ((construct.bind 1 7 .default).1.connectionError.1.bind 1 8 .default).2 =
        [.check false] :=
  ⟨rfl, rfl⟩

/-- The channel the Router owns after an event, from the one before: each form of `Bind` takes
the channel it binds, `Close` and `Unbind` give it up, and a connection error leaves the Router
holding `MX_HANDLE_INVALID`. -/
def Event.channelAfter (channel : Option MxHandle) : Event → Option MxHandle
  | .bind handle _ => some handle
  | .bindInterfaceHandle creation _ | .newBinding creation _ => some creation.endpoint1
  | .bindRequest request _ => some request.channel
  | .close | .unbind => none
  | .setConnectionErrorHandler _ => channel
  | .connectionError => channel.map fun _ => mxHandleInvalid

/-- What one event does to `handle()`. -/
theorem step_handle {event : Event} (success : binding.step self event = some (next, effects)) :
    next.handle = event.channelAfter binding.handle := by
  cases event with
  | unbind =>
    rcases binding with ⟨_ | router, handler⟩
    · cases success
    · cases success; rfl
  | connectionError => rcases binding with ⟨_ | router, handler⟩ <;> (cases success; rfl)
  | _ => cases success; rfl

/-- An observation of the binding that every event moves as `after` says moves so over every
run. -/
theorem run_observe {α : Type} (observe : Binding → α) (after : α → Event → α)
    (stepped : ∀ {binding next : Binding} {effects : List Effect} {event : Event},
      binding.step self event = some (next, effects) → observe next = after (observe binding) event)
    {events : List Event} (success : run self binding events = some (next, effects)) :
    observe next = events.foldl after (observe binding) := by
  induction events generalizing binding effects with
  | nil => cases success; rfl
  | cons event rest ih =>
    obtain ⟨⟨middle, first⟩, step, later⟩ := Option.bind_eq_some.mp success
    obtain ⟨⟨last, tail⟩, replayed, same⟩ := Option.map_eq_some'.mp later
    cases same
    rw [ih replayed, stepped step]
    rfl

/-- `Unbind` hands back the channel `handle()` reports. -/
theorem unbind_channel {unbound : Binding} {request : InterfaceRequest}
    (unbinding : binding.unbind = some (unbound, request)) :
    some request.channel = binding.handle ∧ unbound.isBound = false := by
  rcases binding with ⟨_ | router, handler⟩
  · cases unbinding
  · cases unbinding
    exact ⟨rfl, rfl⟩

/-- Over any run, the channel the Router owns is that of the last `Bind` (the one given, the
request's, or `endpoint1` of the pair created), `MX_HANDLE_INVALID` once a connection error was
reported since, and none after `Close` or `Unbind`; an `Unbind` that follows hands back exactly
that channel and leaves the binding unbound. -/
theorem binding_owns_last_channel {events : List Event}
    (success : run self binding events = some (next, effects)) :
    next.handle = events.foldl Event.channelAfter binding.handle ∧
      ∀ unbound request, next.unbind = some (unbound, request) →
        some request.channel = events.foldl Event.channelAfter binding.handle ∧
          unbound.isBound = false := by
  have owned := run_observe handle Event.channelAfter step_handle success
  exact ⟨owned, fun _ _ unbinding => owned ▸ unbind_channel unbinding⟩

/-- Bound to channel 7, told of a connection error, unbound and bound to the request for 9: the
Router owns 9, and an `Unbind` hands it back. -/
theorem binding_owns_last_channel_rebound :
    run 1 construct [.bind 7 .default, .connectionError, .unbind, .bindRequest ⟨9⟩ .default] =
        some ((construct.bindRequest 1 ⟨9⟩ .default).1, [.check true, .check true]) ∧
      ((construct.bindRequest 1 ⟨9⟩ .default).1.handle = some 9 ∧
        ∀ unbound request, (construct.bindRequest 1 ⟨9⟩ .default).1.unbind =
          some (unbound, request) → some request.channel = some 9 ∧ unbound.isBound = false) :=
  ⟨rfl, @binding_owns_last_channel 1 construct (construct.bindRequest 1 ⟨9⟩ .default).1
    [.check true, .check true] [.bind 7 .default, .connectionError, .unbind, .bindRequest ⟨9⟩ .default]
    rfl⟩

end Fidl.Binding
