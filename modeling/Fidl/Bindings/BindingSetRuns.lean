import Fidl.Bindings.BindingSet

/-! # Runs of a binding set

A run is a list of events, each admissible in the state the previous ones left. From the empty
set every admissible run succeeds and keeps the set well formed: members have distinct addresses
and each is wired to remove itself. Consequently an error on a member erases exactly that member,
no assertion fails, the size counts adds and removals since the last `CloseAllBindings`, and the
on-empty-set handler runs exactly after the error removals that leave the set empty.
-/

namespace Fidl.BindingSet

/-- One event of a run, the state it left and its effects. -/
structure Transition where
  event : Event
  after : BindingSet
  effects : List Effect

/-- Replay events, keeping every transition; `none` when one is undefined. -/
def run : BindingSet → List Event → Option (BindingSet × List Transition)
  | set, [] => some (set, [])
  | set, event :: rest => (set.step event).bind fun (next, effects) =>
    (run next rest).map fun (last, log) => (last, ⟨event, next, effects⟩ :: log)

/-- Every event is admissible in the state the events before it left. -/
def admissibleRun : BindingSet → List Event → Bool
  | _, [] => true
  | set, event :: rest => decide (set.Admissible event) &&
    match set.step event with
    | some (next, _) => admissibleRun next rest
    | none => true

def Event.isConnectionError : Event → Bool
  | .connectionError _ => true
  | _ => false

/-- The address an `AddBinding` allocates its binding at. -/
def Event.added : Event → Option Ptr
  | .addBindingRequest address _ | .addBinding address _ => some address
  | _ => none

/-- The count of `AddBinding` calls and of error removals, both reset by `CloseAllBindings`. -/
def Event.tally (counts : ℕ × ℕ) : Event → ℕ × ℕ
  | .addBindingRequest .. | .addBinding .. => (counts.1 + 1, counts.2)
  | .closeAllBindings => (0, 0)
  | .setOnEmptySetHandler _ => counts
  | .connectionError _ => (counts.1, counts.2 + 1)

/-- `AddBinding` calls and error removals since the last `CloseAllBindings`. -/
def tally (events : List Event) : ℕ × ℕ := events.foldl Event.tally (0, 0)

/-- The closures the on-empty-set law expects a transition to invoke. -/
def Transition.expected (transition : Transition) : List Closure :=
  if transition.event.isConnectionError ∧ transition.after.size = 0 then
    transition.after.onEmptySetHandler.toList
  else []

@[simp] theorem Effect.invoked_invoke (closure : Closure) : (Effect.invoke closure).invoked =
    some closure := rfl

@[simp] theorem Effect.invoked_comp_invoke : Effect.invoked ∘ Effect.invoke = some := rfl

@[simp] theorem Effect.invoked_check (holds : Bool) : (Effect.check holds).invoked = none := rfl

variable {set next : BindingSet} {event : Event} {effects : List Effect}

theorem admissibleRun_cons {rest : List Event} (admissible : admissibleRun set (event :: rest))
    (stepped : set.step event = some (next, effects)) :
    set.Admissible event ∧ admissibleRun next rest := by
  simpa only [admissibleRun, stepped, Bool.and_eq_true, decide_eq_true_eq] using admissible

theorem run_append (set : BindingSet) (first second : List Event) :
    run set (first ++ second) = (run set first).bind fun (middle, log) =>
      (run middle second).map fun (last, later) => (last, log ++ later) := by
  induction first generalizing set with
  | nil => simp [run]
  | cons event rest ih =>
    rcases stepped : set.step event with _ | ⟨next, effects⟩
    · simp [run.eq_2, stepped]
    · simp only [List.cons_append, run.eq_2, stepped, Option.some_bind, ih]
      cases run next rest <;> simp [Option.map_map, Function.comp_def]

theorem step_of_admissible (valid : set.WellFormed) (admissible : set.Admissible event) :
    ∃ next effects, set.step event = some (next, effects) := by
  cases event with
  | connectionError address =>
    obtain ⟨_, _, _, -, removed⟩ := connectionError_of_mem valid admissible
    exact ⟨_, _, removed⟩
  | _ => exact ⟨_, _, rfl⟩

/-- What one admissible step does to the size, and what it checks and invokes. -/
theorem step_spec (valid : set.WellFormed) (admissible : set.Admissible event)
    (stepped : set.step event = some (next, effects)) :
    (∀ holds, Effect.check holds ∈ effects → holds) ∧
      effects.filterMap Effect.invoked = Transition.expected ⟨event, next, effects⟩ ∧
      ∀ counts : ℕ × ℕ, set.size + counts.2 = counts.1 →
        next.size + (Event.tally counts event).2 = (Event.tally counts event).1 := by
  cases event with
  | connectionError address =>
    obtain ⟨pre, binding, post, split, removed⟩ := connectionError_of_mem valid admissible
    rw [step, removed] at stepped
    cases stepped
    refine ⟨by simp, ?_, fun counts balanced => ?_⟩
    · cases empty : (pre ++ post).isEmpty <;>
        simp_all [Transition.expected, Event.isConnectionError, size, List.filterMap_map]
    · simp only [size, split, List.length_append, List.length_cons] at balanced ⊢
      simp only [Event.tally]
      omega
  | addBindingRequest | addBinding =>
    cases stepped
    exact ⟨by simp [Binding.construct], rfl,
      fun counts balanced => by simp only [size, List.length_append] at balanced ⊢; simp [Event.tally]; omega⟩
  | closeAllBindings =>
    cases stepped
    exact ⟨by simp, by simp [Transition.expected, Event.isConnectionError], fun _ _ => rfl⟩
  | setOnEmptySetHandler =>
    cases stepped
    exact ⟨by simp, by simp [Transition.expected, Event.isConnectionError], fun _ balanced => balanced⟩

/-- Every admissible run from a well-formed set succeeds, keeps the set well formed, fails no
check, invokes exactly what the on-empty-set law expects, and keeps the size balanced against
the tally of adds and removals. -/
theorem run_spec {events : List Event} (valid : set.WellFormed)
    (admissible : admissibleRun set events) (counts : ℕ × ℕ)
    (balanced : set.size + counts.2 = counts.1) :
    ∃ final log, run set events = some (final, log) ∧ final.WellFormed ∧
      (∀ transition ∈ log, (∀ holds, Effect.check holds ∈ transition.effects → holds) ∧
        transition.effects.filterMap Effect.invoked = transition.expected) ∧
      final.size + (events.foldl Event.tally counts).2 = (events.foldl Event.tally counts).1 := by
  induction events generalizing set counts with
  | nil => exact ⟨set, [], rfl, valid, by simp, balanced⟩
  | cons event rest ih =>
    have first : set.Admissible event := by
      simp only [admissibleRun, Bool.and_eq_true, decide_eq_true_eq] at admissible
      exact admissible.1
    obtain ⟨next, effects, stepped⟩ := step_of_admissible valid first
    obtain ⟨checks, invoked, sizes⟩ := step_spec valid first stepped
    obtain ⟨final, log, replayed, wellFormed, transitions, tallied⟩ :=
      ih (step_wellFormed valid first stepped) (admissibleRun_cons admissible stepped).2 _
        (sizes counts balanced)
    exact ⟨final, ⟨event, next, effects⟩ :: log, by simp [run, stepped, replayed], wellFormed,
      List.forall_mem_cons.mpr ⟨⟨checks, invoked⟩, transitions⟩, tallied⟩

theorem init_wellFormed : init.WellFormed := ⟨List.nodup_nil, by simp [init]⟩

/-- From `BindingSet()`, every admissible run succeeds and reaches a well-formed set: members
have distinct addresses, the handler each member's Router calls is the lambda of `Bind` for that
member, and the member's own handler is `RemoveOnError` of its address. No `FTL_DCHECK` or
`assert` fails on the way; the size is the number of adds since the last `CloseAllBindings` less
the error removals since then; and an error on any member erases exactly that member, keeps the
others in order and lowers the size by one. -/
theorem bindingSet_wellFormed (events : List Event) (admissible : admissibleRun init events) :
    ∃ final log, run init events = some (final, log) ∧ final.WellFormed ∧
      (∀ transition ∈ log, ∀ holds, Effect.check holds ∈ transition.effects → holds) ∧
      final.size = (tally events).1 - (tally events).2 ∧ (tally events).2 ≤ (tally events).1 ∧
      ∀ address ∈ final.addresses, ∃ pre binding post effects,
        final.bindings = pre ++ (address, binding) :: post ∧
        final.step (.connectionError address) =
          some ({ final with bindings := pre ++ post }, effects) ∧
        ({ final with bindings := pre ++ post } : BindingSet).size + 1 = final.size := by
  obtain ⟨final, log, replayed, valid, transitions, tallied⟩ :=
    run_spec init_wellFormed admissible (0, 0) rfl
  refine ⟨final, log, replayed, valid, fun transition present => (transitions transition present).1,
    by unfold tally; omega, by unfold tally; omega, fun address member => ?_⟩
  obtain ⟨pre, binding, post, split, removed⟩ := connectionError_of_mem valid member
  exact ⟨pre, binding, post, _, split, removed,
    by simp only [size, split, List.length_append, List.length_cons]; omega⟩

/-- Two adds and an error on the first: the run is admissible, so it succeeds well formed. -/
theorem bindingSet_wellFormed_two_adds :
    ∃ final log, run init [.addBindingRequest 1 ⟨5⟩, .addBindingRequest 2 ⟨6⟩, .connectionError 1] =
      some (final, log) ∧ final.WellFormed ∧ final.size = 1 := by
  obtain ⟨final, log, replayed, valid, -, sized, -⟩ := bindingSet_wellFormed
    [.addBindingRequest 1 ⟨5⟩, .addBindingRequest 2 ⟨6⟩, .connectionError 1] (by decide)
  exact ⟨final, log, replayed, valid, sized⟩

theorem step_of_added {address : Ptr} (added : event.added = some address) :
    ∃ binding, set.step event =
      some ({ set with bindings := set.bindings ++ [(address, binding)] }, [.check true]) := by
  cases event <;> cases added <;> exact ⟨_, rfl⟩

/-- Adding bindings at fresh, distinct addresses appends them in order and invokes nothing. -/
theorem run_adds {adds : List Event} (valid : set.WellFormed)
    (onlyAdds : ∀ event ∈ adds, event.added.isSome)
    (fresh : (set.addresses ++ adds.filterMap Event.added).Nodup) :
    ∃ final log, run set adds = some (final, log) ∧ final.WellFormed ∧
      final.addresses = set.addresses ++ adds.filterMap Event.added ∧
      final.onEmptySetHandler = set.onEmptySetHandler ∧
      (log.flatMap Transition.effects).filterMap Effect.invoked = [] := by
  induction adds generalizing set with
  | nil => exact ⟨set, [], rfl, valid, by simp, rfl, rfl⟩
  | cons event rest ih =>
    obtain ⟨address, added⟩ := Option.isSome_iff_exists.mp (onlyAdds event (List.mem_cons_self _ _))
    obtain ⟨binding, stepped⟩ := step_of_added added
    have order : set.addresses ++ (event :: rest).filterMap Event.added =
        (set.addresses ++ [address]) ++ rest.filterMap Event.added := by
      simp [List.filterMap_cons, added]
    have unused : address ∉ set.addresses := by
      rw [order] at fresh
      simpa using (List.nodup_append.mp (List.nodup_append.mp fresh).1).2.2
    have admissible : set.Admissible event := by cases event <;> cases added <;> exact unused
    obtain ⟨final, log, replayed, wellFormed, addresses, handler, invoked⟩ :=
      ih (step_wellFormed valid admissible stepped)
        (fun other present => onlyAdds other (List.mem_cons_of_mem _ present))
        (by rw [order] at fresh; simpa [addresses] using fresh)
    refine ⟨final, ⟨event, { set with bindings := set.bindings ++ [(address, binding)] },
      [.check true]⟩ :: log, by simp [run, stepped, replayed], wellFormed, ?_, handler,
      by simpa using invoked⟩
    rw [addresses, order]
    simp [BindingSet.addresses]

/-- Reporting an error on every member, in any order, empties the set and runs the on-empty-set
handler once, at the last removal. -/
theorem run_drain {order : List Ptr} (valid : set.WellFormed) (members : order.Perm set.addresses)
    (nonempty : order ≠ []) :
    ∃ final earlier last, run set (order.map .connectionError) = some (final, earlier ++ [last]) ∧
      final.size = 0 ∧ (earlier.flatMap Transition.effects).filterMap Effect.invoked = [] ∧
      last.effects.filterMap Effect.invoked = set.onEmptySetHandler.toList := by
  induction order generalizing set with
  | nil => exact (nonempty rfl).elim
  | cons address rest ih =>
    obtain ⟨pre, binding, post, split, removed⟩ :=
      connectionError_of_mem valid (members.subset (List.mem_cons_self _ _))
    have shape : set.addresses = pre.map Prod.fst ++ address :: post.map Prod.fst := by
      simp [addresses, split]
    have remaining : rest.Perm (({ set with bindings := pre ++ post } : BindingSet).addresses) := by
      rw [shape] at members
      simpa [addresses] using (members.trans List.perm_middle).cons_inv
    rcases rest with _ | ⟨next, rest⟩
    · have empty : pre ++ post = [] := by simpa [addresses] using remaining.symm
      obtain ⟨rfl, rfl⟩ := List.append_eq_nil.mp empty
      exact ⟨{ set with bindings := [] }, [], ⟨.connectionError address, { set with bindings := [] },
        .check true :: set.onEmptySetHandler.toList.map .invoke⟩, by simp [run, step, removed],
        rfl, rfl, by simp [List.filterMap_map]⟩
    · have occupied : (pre ++ post).isEmpty = false := by
        cases split : pre ++ post
        · simp [addresses, split] at remaining
        · rfl
      obtain ⟨final, earlier, last, replayed, drained, quiet, notified⟩ :=
        ih (valid.erase split) remaining (List.cons_ne_nil _ _)
      refine ⟨final, ⟨.connectionError address, { set with bindings := pre ++ post }, [.check true]⟩ ::
        earlier, last, ?_, drained,
        by simpa using quiet, notified⟩
      rw [List.map_cons, run.eq_2]
      simp only [step, removed, occupied, Option.some_bind, replayed, Option.map_some',
        Bool.false_eq_true, if_false, List.cons_append]

/-- The on-empty-set handler runs exactly after the error removals that leave the set empty, once
for each, and never otherwise: not on either `AddBinding`, nor on `CloseAllBindings`, which is
all the destructor does. Adding `N ≥ 1` bindings to an empty set and then reporting an error on
each of them, in any order, runs it exactly once, at the last removal. -/
theorem onEmptySetHandler_law :
    (∀ events, admissibleRun init events → ∃ final log, run init events = some (final, log) ∧
      ∀ transition ∈ log, transition.effects.filterMap Effect.invoked = transition.expected) ∧
    ∀ (handler : Closure) (adds : List Event) (order : List Ptr), adds ≠ [] →
      (∀ event ∈ adds, event.added.isSome) → (adds.filterMap Event.added).Nodup →
      order.Perm (adds.filterMap Event.added) →
      ∃ final earlier last, run init ((.setOnEmptySetHandler (some handler) :: adds) ++
          order.map .connectionError) = some (final, earlier ++ [last]) ∧
        final.size = 0 ∧ (earlier.flatMap Transition.effects).filterMap Effect.invoked = [] ∧
        last.effects.filterMap Effect.invoked = [handler] := by
  refine ⟨fun events admissible => ?_, fun handler adds order nonempty onlyAdds distinct members => ?_⟩
  · obtain ⟨final, log, replayed, -, transitions, -⟩ :=
      run_spec init_wellFormed admissible (0, 0) rfl
    exact ⟨final, log, replayed, fun transition present => (transitions transition present).2⟩
  have listed : adds.filterMap Event.added ≠ [] := by
    obtain ⟨event, rest, rfl⟩ := List.exists_cons_of_ne_nil nonempty
    obtain ⟨address, added⟩ :=
      Option.isSome_iff_exists.mp (onlyAdds event (List.mem_cons_self _ _))
    simp [List.filterMap_cons, added]
  have armed : (init.setOnEmptySetHandler (some handler)).WellFormed :=
    ⟨List.nodup_nil, by simp [init, setOnEmptySetHandler]⟩
  obtain ⟨middle, log, added, valid, addresses, kept, quiet⟩ :=
    run_adds armed onlyAdds (by simpa [init, setOnEmptySetHandler, BindingSet.addresses] using distinct)
  obtain ⟨final, earlier, last, drained, empty, quietDrain, notified⟩ := run_drain valid
    (members.trans (by rw [addresses]; simp [init, setOnEmptySetHandler, BindingSet.addresses]))
    (fun none => listed (by subst none; exact members.nil_eq.symm))
  refine ⟨final, ⟨.setOnEmptySetHandler (some handler), init.setOnEmptySetHandler (some handler), []⟩ ::
    log ++ earlier, last, ?_, empty, by simp [quiet, quietDrain], by simp [notified, kept, setOnEmptySetHandler, init]⟩
  rw [run_append, run.eq_2]
  simp [step, added, drained]

/-- Two bindings added and both removed, the second first: the handler runs once, at the end. -/
theorem onEmptySetHandler_law_two :
    ∃ final earlier last, run init ((.setOnEmptySetHandler (some (.client 0)) ::
        [.addBindingRequest 1 ⟨5⟩, .addBindingRequest 2 ⟨6⟩]) ++ [2, 1].map .connectionError) =
        some (final, earlier ++ [last]) ∧ final.size = 0 ∧
      (earlier.flatMap Transition.effects).filterMap Effect.invoked = [] ∧
      last.effects.filterMap Effect.invoked = [.client 0] :=
  onEmptySetHandler_law.2 (.client 0) _ [2, 1] (List.cons_ne_nil _ _) (by decide) (by decide)
    (List.Perm.swap 1 2 [])

/-- A refused `mx::channel::create` is not reported. `Bind(InterfaceHandle*)` and `NewBinding`
bind the Router to `MX_HANDLE_INVALID`, hand back a client end holding `MX_HANDLE_INVALID`, and
return the same whatever the refusal status; `AddBinding(impl)` then adds a member all the same
and returns that invalid client end. -/
theorem channelCreation_refusal_unreported (status other : MxError) (self address : Ptr)
    (binding : Binding) (waiter : AsyncWaiter) (set : BindingSet) :
    (binding.bindInterfaceHandle self (.failed status) waiter).1.handle = some mxHandleInvalid ∧
    (binding.bindInterfaceHandle self (.failed status) waiter).2.1.channel = mxHandleInvalid ∧
    binding.bindInterfaceHandle self (.failed status) waiter =
      binding.bindInterfaceHandle self (.failed other) waiter ∧
    (binding.newBinding self (.failed status) waiter).1.handle = some mxHandleInvalid ∧
    (binding.newBinding self (.failed status) waiter).2.1.channel = mxHandleInvalid ∧
    binding.newBinding self (.failed status) waiter = binding.newBinding self (.failed other) waiter ∧
    (set.addBinding address (.failed status)).1.size = set.size + 1 ∧
    (set.addBinding address (.failed status)).2.1.channel = mxHandleInvalid ∧
    set.addBinding address (.failed status) = set.addBinding address (.failed other) :=
  ⟨rfl, rfl, rfl, rfl, rfl, rfl, by simp [addBinding, size], rfl, rfl⟩

end Fidl.BindingSet
