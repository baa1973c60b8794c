import Mathlib.Data.List.Nodup
import Fidl.Bindings.Binding

/-! # A set of bindings that drops a binding when its channel fails

`BindingSet` (binding_set.h) keeps its bindings in a vector of owning pointers. Each binding is
added bound, with its connection-error handler set to `RemoveOnError` of its own address;
`RemoveOnError` finds the binding by address, erases it and calls the on-empty-set handler when
the vector became empty. Members are kept here by address, in vector order. A connection error is
reported by the Router of a member: the lambda of `Bind` reads the error handler of the binding
whose address it captured, and the set runs `RemoveOnError` when that is the handler; any other
closure is the client's and is only invoked.
-/

namespace Fidl

/-- The state of a `BindingSet`: each member of `bindings_` by address, in order, and the
`on_empty_set_handler_`. -/
structure BindingSet where
  bindings : List (Ptr × Binding)
  onEmptySetHandler : Option Closure

/-- `std::find_if` of the first member at `address`, then `erase` of it; `none` when there is
none, where the code's `assert` fails and `erase(end())` is undefined. -/
def eraseMember (address : Ptr) : List (Ptr × Binding) → Option (List (Ptr × Binding))
  | [] => none
  | member :: rest =>
    if member.1 = address then some rest else (eraseMember address rest).map (member :: ·)

/-- The handler the Router of a binding calls on a connection error, if it has one. -/
def Binding.routerErrorHandler (binding : Binding) : Option Closure :=
  binding.internalRouter.bind Router.connectionErrorHandler

namespace BindingSet

/-- `BindingSet()`. -/
def init : BindingSet := ⟨[], none⟩

/-- `size()`. -/
def size (set : BindingSet) : ℕ := set.bindings.length

/-- The addresses of the members, in vector order. -/
def addresses (set : BindingSet) : List Ptr := set.bindings.map Prod.fst

variable (set : BindingSet)

/-- `AddBinding(impl, request)`, the new `Binding` being allocated at `address`. -/
def addBindingRequest (address : Ptr) (request : InterfaceRequest) : BindingSet × List Effect :=
  let (binding, effects) := Binding.constructWithRequest address request .default
  let binding := binding.setConnectionErrorHandler (some (.removeOnError address))
  ({ set with bindings := set.bindings ++ [(address, binding)] }, effects)

/-- `AddBinding(impl)`, the new `Binding` being allocated at `address`; returns the client end. -/
def addBinding (address : Ptr) (creation : ChannelCreation) :
    BindingSet × InterfaceHandle × List Effect :=
  let (binding, interfaceHandle, effects) :=
    Binding.construct.bindInterfaceHandle address creation .default
  let binding := binding.setConnectionErrorHandler (some (.removeOnError address))
  ({ set with bindings := set.bindings ++ [(address, binding)] }, interfaceHandle, effects)

/-- `CloseAllBindings()`, which is also all the destructor does: the members are destroyed and
no closure runs. -/
def closeAllBindings : BindingSet := { set with bindings := [] }

/-- `set_on_empty_set_handler(on_empty_set_handler)`. -/
def setOnEmptySetHandler (handler : Option Closure) : BindingSet :=
  { set with onEmptySetHandler := handler }

/-- `RemoveOnError(binding)`. -/
def removeOnError (binding : Ptr) : Option (BindingSet × List Effect) :=
  (eraseMember binding set.bindings).map fun bindings =>
    ({ set with bindings := bindings },
      .check true :: if bindings.isEmpty then set.onEmptySetHandler.toList.map .invoke else [])

/-- Run a closure reached from a member's error handler. -/
def runClosure : Closure → Option (BindingSet × List Effect)
  | .removeOnError binding => set.removeOnError binding
  | closure => some (set, [.invoke closure])

/-- The Router of the member at `address` reports a connection error. The lambda of `Bind`
dereferences the binding it captured, undefined when that is no member. -/
def connectionError (address : Ptr) : Option (BindingSet × List Effect) :=
  match (set.bindings.lookup address).bind Binding.routerErrorHandler with
  | none => some (set, [])
  | some (.forwardConnectionError target) =>
    match set.bindings.lookup target with
    | none => none
    | some owner =>
      match owner.connectionErrorHandler with
      | none => some (set, [])
      | some handler => set.runClosure handler
  | some handler => set.runClosure handler

/-- One call on the set, or a connection error on one of its members. -/
inductive Event where
  | addBindingRequest (address : Ptr) (request : InterfaceRequest)
  | addBinding (address : Ptr) (creation : ChannelCreation)
  | closeAllBindings
  | setOnEmptySetHandler (handler : Option Closure)
  | connectionError (address : Ptr)

def step : Event → Option (BindingSet × List Effect)
  | .addBindingRequest address request => some (set.addBindingRequest address request)
  | .addBinding address creation =>
    let (next, _, effects) := set.addBinding address creation
    some (next, effects)
  | .closeAllBindings => some (set.closeAllBindings, [])
  | .setOnEmptySetHandler handler => some (set.setOnEmptySetHandler handler, [])
  | .connectionError address => set.connectionError address

/-- The events that can happen in a state: `new` returns an address no live binding has, and
only a member's Router can report an error. -/
def Admissible : Event → Prop
  | .addBindingRequest address _ | .addBinding address _ => address ∉ set.addresses
  | .connectionError address => address ∈ set.addresses
  | .closeAllBindings | .setOnEmptySetHandler _ => True

instance : ∀ event, Decidable (set.Admissible event)
  | .addBindingRequest address _ => inferInstanceAs (Decidable (address ∉ set.addresses))
  | .addBinding address _ => inferInstanceAs (Decidable (address ∉ set.addresses))
  | .connectionError address => inferInstanceAs (Decidable (address ∈ set.addresses))
  | .closeAllBindings => instDecidableTrue
  | .setOnEmptySetHandler _ => instDecidableTrue

/-- A member whose Router reports errors to the binding at its own address, and whose error
handler removes that address from the set. -/
def Wired (address : Ptr) (binding : Binding) : Prop :=
  binding.routerErrorHandler = some (.forwardConnectionError address) ∧
    binding.connectionErrorHandler = some (.removeOnError address)

/-- The invariant of every reachable set. -/
structure WellFormed : Prop where
  nodup : set.addresses.Nodup
  wired : ∀ member ∈ set.bindings, Wired member.1 member.2

end BindingSet

section Members

variable {address : Ptr} {binding : Binding} {pre post : List (Ptr × Binding)}

theorem lookup_append_cons (first : address ∉ pre.map Prod.fst) :
    (pre ++ (address, binding) :: post).lookup address = some binding := by
  induction pre with
  | nil => exact List.lookup_cons_self
  | cons member rest ih =>
    obtain ⟨key, value⟩ := member
    have other : (address == key) = false := by simpa using fun same => first (by simp [same])
    simp only [List.cons_append, List.lookup_cons, other]
    exact ih fun earlier => first (List.mem_cons_of_mem _ earlier)

/-- Erasing the first member at an address removes exactly that member and keeps the order of
the others. -/
theorem eraseMember_append_cons (first : address ∉ pre.map Prod.fst) :
    eraseMember address (pre ++ (address, binding) :: post) = some (pre ++ post) := by
  induction pre with
  | nil => simp [eraseMember]
  | cons member rest ih =>
    have other : member.1 ≠ address := fun same => first (by simp [same])
    rw [List.cons_append, eraseMember, if_neg other,
      ih fun earlier => first (List.mem_cons_of_mem _ earlier)]
    rfl

end Members

namespace BindingSet

variable {set : BindingSet} {address : Ptr}

/-- In a well-formed set, a member address splits the vector at its only member. -/
theorem split_of_mem (valid : set.WellFormed) (member : address ∈ set.addresses) :
    ∃ pre binding post, set.bindings = pre ++ (address, binding) :: post ∧
      address ∉ pre.map Prod.fst := by
  obtain ⟨⟨_, binding⟩, present, rfl⟩ := List.mem_map.mp member
  obtain ⟨pre, post, split⟩ := List.append_of_mem present
  refine ⟨pre, binding, post, split, fun earlier => ?_⟩
  have nodup := valid.nodup
  rw [addresses, split, List.map_append, List.map_cons] at nodup
  exact List.disjoint_of_nodup_append nodup earlier (List.mem_cons_self _ _)

/-- A connection error on a member of a well-formed set runs `RemoveOnError` of that member: its
`assert` holds, the member alone is erased, and the on-empty-set handler runs exactly when the
set is left empty. -/
theorem connectionError_of_mem (valid : set.WellFormed) (member : address ∈ set.addresses) :
    ∃ pre binding post, set.bindings = pre ++ (address, binding) :: post ∧
      set.connectionError address = some ({ set with bindings := pre ++ post },
        .check true :: if (pre ++ post).isEmpty then set.onEmptySetHandler.toList.map .invoke
          else []) := by
  obtain ⟨pre, binding, post, split, first⟩ := split_of_mem valid member
  have wired : Wired address binding :=
    valid.wired _ (split ▸ List.mem_append_right pre (List.mem_cons_self _ _))
  refine ⟨pre, binding, post, split, ?_⟩
  simp only [connectionError, split, lookup_append_cons first, Option.some_bind, wired.1,
    wired.2, runClosure, removeOnError, eraseMember_append_cons first, Option.map_some']

theorem WellFormed.push (valid : set.WellFormed) {binding : Binding}
    (fresh : address ∉ set.addresses) (wired : Wired address binding) :
    ({ set with bindings := set.bindings ++ [(address, binding)] } : BindingSet).WellFormed where
  nodup := by
    simpa [addresses, List.nodup_append] using And.intro valid.nodup fresh
  wired := by
    simp only [List.mem_append, List.mem_singleton]
    rintro member (present | rfl)
    · exact valid.wired member present
    · exact wired

theorem WellFormed.erase (valid : set.WellFormed) {pre post : List (Ptr × Binding)}
    {member : Ptr × Binding} (split : set.bindings = pre ++ member :: post) :
    ({ set with bindings := pre ++ post } : BindingSet).WellFormed where
  nodup := by
    have sublist : List.Sublist (pre ++ post) set.bindings :=
      split ▸ (List.sublist_cons_self member post).append_left pre
    exact (sublist.map Prod.fst).nodup valid.nodup
  wired other present := by
    refine valid.wired other (split ▸ ?_)
    rcases List.mem_append.mp present with early | late
    · exact List.mem_append_left _ early
    · exact List.mem_append_right _ (List.mem_cons_of_mem _ late)

/-- Each binding the set adds is wired to its own address, whatever the channel creation did. -/
theorem wired_added_request (request : InterfaceRequest) :
    Wired address ((Binding.constructWithRequest address request .default).1.setConnectionErrorHandler
      (some (.removeOnError address))) :=
  ⟨rfl, rfl⟩

theorem wired_added (creation : ChannelCreation) :
    Wired address ((Binding.construct.bindInterfaceHandle address creation .default).1.setConnectionErrorHandler
      (some (.removeOnError address))) :=
  ⟨rfl, rfl⟩

/-- Admissible events keep a set well formed. -/
theorem step_wellFormed {event : Event} {next : BindingSet} {effects : List Effect}
    (valid : set.WellFormed) (admissible : set.Admissible event)
    (stepped : set.step event = some (next, effects)) : next.WellFormed := by
  cases event with
  | addBindingRequest address request =>
    cases stepped
    exact valid.push admissible (wired_added_request request)
  | addBinding address creation =>
    cases stepped
    exact valid.push admissible (wired_added creation)
  | closeAllBindings => cases stepped; exact ⟨List.nodup_nil, by simp [closeAllBindings]⟩
  | setOnEmptySetHandler handler => cases stepped; exact ⟨valid.nodup, valid.wired⟩
  | connectionError address =>
    obtain ⟨pre, binding, post, split, removed⟩ := connectionError_of_mem valid admissible
    rw [step, removed] at stepped
    cases stepped
    exact valid.erase split

end BindingSet

end Fidl
