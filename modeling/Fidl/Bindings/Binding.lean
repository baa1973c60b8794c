import Fidl.Magenta

/-! # The binding of an implementation to a channel

`Binding` (binding.h) owns at most one `internal::Router`, created by `Bind` on the channel it is
given and dropped by `Close` or `Unbind`. The Router's connection-error handler is the lambda of
`Bind`, which calls the binding's `connection_error_handler_` when one is set. Operations return
what they do to the binding together with the effects a client sees: the closures they invoke and
the value of each `FTL_DCHECK` they evaluate, as a release build runs them. Dereferencing a null
Router is undefined and gives `none`.
-/

namespace Fidl

/-- An `ftl::Closure` the bindings install or call. -/
inductive Closure where
  /-- The lambda `Binding::Bind` hands the Router: it calls the error handler of the binding at
  `binding`. -/
  | forwardConnectionError (binding : Ptr)
  /-- `std::bind(&BindingSet::RemoveOnError, this, binding)`. -/
  | removeOnError (binding : Ptr)
  /-- A closure of the client, known only by a name. -/
  | client (name : ℕ)
deriving DecidableEq, Repr

/-- What a client of the bindings can observe of one operation. -/
inductive Effect where
  /-- An `FTL_DCHECK` or `assert` was evaluated, and held or not. -/
  | check (holds : Bool)
  /-- A closure ran. -/
  | invoke (closure : Closure)
deriving DecidableEq, Repr

/-- The closure an effect invokes, if any. -/
def Effect.invoked : Effect → Option Closure
  | check _ => none
  | invoke closure => some closure

/-- The two validators `Bind` installs, in order. -/
inductive MessageValidator where
  | messageHeader
  | request
deriving DecidableEq, Repr

/-- The waiter a Router waits with: `GetDefaultAsyncWaiter()` or one the caller supplies. -/
inductive AsyncWaiter where
  | default
  | given (waiter : Ptr)
deriving DecidableEq, Repr

/-- An `InterfaceRequest`: the server end of a channel. -/
structure InterfaceRequest where
  channel : MxHandle
deriving DecidableEq, Repr

/-- An `InterfaceHandle`: the client end of a channel. -/
structure InterfaceHandle where
  channel : MxHandle
deriving DecidableEq, Repr

/-- Modelled from the spec: `internal::Router`, whose source is not among the files. It owns the
channel, the validator chain and the waiter; on a connection error it calls its error handler
once and then closes the channel. -/
structure Router where
  channel : MxHandle
  validators : List MessageValidator
  waiter : AsyncWaiter
  connectionErrorHandler : Option Closure
deriving DecidableEq, Repr

namespace Router

/-- `new internal::Router(handle, validators, waiter)`. -/
def create (handle : MxHandle) (validators : List MessageValidator) (waiter : AsyncWaiter) :
    Router :=
  ⟨handle, validators, waiter, none⟩

def setConnectionErrorHandler (router : Router) (handler : Closure) : Router :=
  { router with connectionErrorHandler := some handler }

/-- Modelled from the spec: after reporting a connection error the Router closes its channel. -/
def closeChannel (router : Router) : Router :=
  { router with channel := mxHandleInvalid }

@[simp] theorem closeChannel_connectionErrorHandler (router : Router) :
    router.closeChannel.connectionErrorHandler = router.connectionErrorHandler := rfl

end Router

/-- The state of a `Binding` object: its Router, if bound, and its `connection_error_handler_`. -/
structure Binding where
  internalRouter : Option Router
  connectionErrorHandler : Option Closure
deriving DecidableEq, Repr

namespace Binding

/-- `Binding(impl)`: an incomplete binding. -/
def construct : Binding := ⟨none, none⟩

/-- `is_bound()`. -/
def isBound (binding : Binding) : Bool := binding.internalRouter.isSome

variable (self : Ptr) (binding : Binding)

/-- `Bind(mx::channel handle, waiter)` on the binding at address `self`. -/
def bind (handle : MxHandle) (waiter : AsyncWaiter) : Binding × List Effect :=
  let router := (Router.create handle [.messageHeader, .request] waiter).setConnectionErrorHandler
    (.forwardConnectionError self)
  ({ binding with internalRouter := some router }, [.check binding.internalRouter.isNone])

/-- `Bind(InterfaceHandle* interface_handle, waiter)`: the status of `mx::channel::create` is
not looked at. Returns the binding, the new `*interface_handle` and the effects. -/
def bindInterfaceHandle (creation : ChannelCreation) (waiter : AsyncWaiter) :
    Binding × InterfaceHandle × List Effect :=
  let interfaceHandle : InterfaceHandle := ⟨creation.endpoint0⟩
  let (bound, effects) := binding.bind self creation.endpoint1 waiter
  (bound, interfaceHandle, effects)

/-- `Bind(InterfaceRequest request, waiter)`. -/
def bindRequest (request : InterfaceRequest) (waiter : AsyncWaiter) : Binding × List Effect :=
  binding.bind self request.channel waiter

/-- Modelled from the spec: `InterfaceHandle::NewRequest`, whose source is not among the files,
makes a channel pair, keeps `endpoint0` in the handle and returns `endpoint1` in the request. -/
def newRequest (creation : ChannelCreation) : InterfaceHandle × InterfaceRequest :=
  (⟨creation.endpoint0⟩, ⟨creation.endpoint1⟩)

/-- `NewBinding(waiter)`: binds the request end of a new pair and returns the client end. -/
def newBinding (creation : ChannelCreation) (waiter : AsyncWaiter) :
    Binding × InterfaceHandle × List Effect :=
  let (client, request) := newRequest creation
  let (bound, effects) := binding.bind self request.channel waiter
  (bound, client, effects)

/-- `Binding(impl, handle, waiter)`. -/
def constructWithChannel (handle : MxHandle) (waiter : AsyncWaiter) : Binding × List Effect :=
  construct.bind self handle waiter

/-- `Binding(impl, interface_handle, waiter)`. -/
def constructWithInterfaceHandle (creation : ChannelCreation) (waiter : AsyncWaiter) :
    Binding × InterfaceHandle × List Effect :=
  construct.bindInterfaceHandle self creation waiter

/-- `Binding(impl, request, waiter)`. -/
def constructWithRequest (request : InterfaceRequest) (waiter : AsyncWaiter) :
    Binding × List Effect :=
  construct.bindRequest self request waiter

/-- `Close()`. -/
def close : Binding × List Effect :=
  ({ binding with internalRouter := none }, [.check binding.internalRouter.isSome])

/-- `Unbind()`: `internal_router_->PassChannel()` on a null Router is undefined. -/
def unbind : Option (Binding × InterfaceRequest) :=
  binding.internalRouter.map fun router =>
    ({ binding with internalRouter := none }, ⟨router.channel⟩)

/-- `set_connection_error_handler(error_handler)`; an empty `ftl::Closure` is `none`. -/
def setConnectionErrorHandler (handler : Option Closure) : Binding :=
  { binding with connectionErrorHandler := handler }

/-- `handle()`: the channel of the Router, after `FTL_DCHECK(is_bound())`. -/
def handle : Option MxHandle := binding.internalRouter.map Router.channel

/-- The Router reports a connection error: the lambda of `Bind` calls
`connection_error_handler_` when it is set, and the Router then closes its channel. -/
def connectionError : Binding × List Effect :=
  match binding.internalRouter with
  | none => (binding, [])
  | some router =>
    ({ binding with internalRouter := some router.closeChannel },
      binding.connectionErrorHandler.toList.map .invoke)

@[simp] theorem bind_internalRouter (handle : MxHandle) (waiter : AsyncWaiter) :
    (binding.bind self handle waiter).1.internalRouter =
      some ⟨handle, [.messageHeader, .request], waiter, some (.forwardConnectionError self)⟩ :=
  rfl

@[simp] theorem bind_connectionErrorHandler (handle : MxHandle) (waiter : AsyncWaiter) :
    (binding.bind self handle waiter).1.connectionErrorHandler = binding.connectionErrorHandler :=
  rfl

@[simp] theorem bind_effects (handle : MxHandle) (waiter : AsyncWaiter) :
    (binding.bind self handle waiter).2 = [.check binding.internalRouter.isNone] := rfl

@[simp] theorem isBound_bind (handle : MxHandle) (waiter : AsyncWaiter) :
    (binding.bind self handle waiter).1.isBound = true := rfl

@[simp] theorem isBound_close : binding.close.1.isBound = false := rfl

@[simp] theorem isBound_setConnectionErrorHandler (handler : Option Closure) :
    (binding.setConnectionErrorHandler handler).isBound = binding.isBound := rfl

/-- A reported connection error leaves `is_bound()` as it was. -/
@[simp] theorem isBound_connectionError : binding.connectionError.1.isBound = binding.isBound := by
  rcases binding with ⟨_ | router, handler⟩ <;> rfl

end Binding

end Fidl
