import Fidl.Bindings.BindingSetRuns

/-! # What a binding set is for

Abstractly a binding set is the list of the addresses of its live bindings, in the order they
were added, and the closure to call when an error leaves none. An add appends an address, an
error on a member removes that address and calls the closure if no member is left,
`CloseAllBindings` forgets every member without calling anything, and
`set_on_empty_set_handler` replaces the closure. The vector of owning pointers of `BindingSet`,
with `RemoveOnError` wired into each binding's Router, refines this: along every admissible run
its members are exactly these addresses and the closures it invokes are exactly these calls. So a
binding is a member exactly when it was added and since then neither its channel failed nor the
set was closed: no binding is lost or kept twice.
-/

namespace Fidl.BindingSet

/-- The abstract binding set: the addresses of the live bindings, in order, and the closure for
an empty set. -/
structure Members where
  live : List Ptr
  onEmpty : Option Closure
deriving DecidableEq, Repr

namespace Members

/-- One event, and the closures it calls. -/
def step (members : Members) : Event → Members × List Closure
  | .addBindingRequest address _ | .addBinding address _ =>
    (⟨members.live ++ [address], members.onEmpty⟩, [])
  | .closeAllBindings => (⟨[], members.onEmpty⟩, [])
  | .setOnEmptySetHandler handler => (⟨members.live, handler⟩, [])
  | .connectionError address =>
    let live := members.live.erase address
    (⟨live, members.onEmpty⟩, if live.isEmpty then members.onEmpty.toList else [])

/-- A run, and the closures its events call, in order. -/
def run (members : Members) : List Event → Members × List Closure
  | [] => (members, [])
  | event :: rest =>
    let (next, called) := members.step event
    let (last, later) := next.run rest
    (last, called ++ later)

/-- The events that make sense: a binding added at an address no live one has, an error on a
live one. -/
def Admissible (members : Members) : Event → Prop
  | .addBindingRequest address _ | .addBinding address _ => address ∉ members.live
  | .connectionError address => address ∈ members.live
  | .closeAllBindings | .setOnEmptySetHandler _ => True

/-- Every event makes sense after the ones before it. -/
def AdmissibleRun : Members → List Event → Prop
  | _, [] => True
  | members, event :: rest => members.Admissible event ∧ AdmissibleRun (members.step event).1 rest

end Members

/-- Whether a binding at `address` is live after an event, from whether it was before: an add at
`address` makes it live, an error on it or `CloseAllBindings` ends it, and nothing else matters. -/
def Event.keeps (address : Ptr) (live : Bool) : Event → Bool
  | .addBindingRequest added _ | .addBinding added _ => live || added == address
  | .closeAllBindings => false
  | .setOnEmptySetHandler _ => live
  | .connectionError failed => live && failed != address

namespace Members

variable {members : Members} {event : Event}

theorem step_nodup (nodup : members.live.Nodup) (admissible : members.Admissible event) :
    (members.step event).1.live.Nodup := by
  cases event with
  | addBindingRequest address | addBinding address =>
    exact List.nodup_append.mpr ⟨nodup, List.nodup_singleton _,
      List.disjoint_singleton.mpr admissible⟩
  | closeAllBindings => exact List.nodup_nil
  | setOnEmptySetHandler => exact nodup
  | connectionError address => exact nodup.erase address

/-- With its addresses distinct, one event changes whether an address is live as `Event.keeps`
says. -/
theorem mem_step (nodup : members.live.Nodup) (address : Ptr) :
    decide (address ∈ (members.step event).1.live) =
      event.keeps address (decide (address ∈ members.live)) := by
  cases event with
  | addBindingRequest added | addBinding added =>
    by_cases same : added = address
    · subst same
      simp [step, Event.keeps]
    · simp [step, Event.keeps, same, Ne.symm same]
  | closeAllBindings => simp [step, Event.keeps]
  | setOnEmptySetHandler => simp [step, Event.keeps]
  | connectionError failed =>
    by_cases same : failed = address
    · subst same
      simp [step, Event.keeps, nodup.mem_erase_iff]
    · simp [step, Event.keeps, nodup.mem_erase_iff, same, Ne.symm same]

/-- Over every admissible run from distinct addresses, an address is live at the end exactly
when the events, folded with `Event.keeps`, say so. -/
theorem mem_run (nodup : members.live.Nodup) {events : List Event}
    (admissible : members.AdmissibleRun events) (address : Ptr) :
    decide (address ∈ (members.run events).1.live) =
      events.foldl (Event.keeps address) (decide (address ∈ members.live)) := by
  induction events generalizing members with
  | nil => rfl
  | cons event rest ih =>
    rw [List.foldl_cons, ← mem_step nodup address]
    exact ih (step_nodup nodup admissible.1) admissible.2

end Members

/-- What a `BindingSet` stands for: the addresses of its members, in order, and its
`on_empty_set_handler_`. -/
def abstraction (set : BindingSet) : Members := ⟨set.addresses, set.onEmptySetHandler⟩

variable {set next : BindingSet} {event : Event} {effects : List Effect}

@[simp] theorem admissible_abstraction : (abstraction set).Admissible event ↔ set.Admissible event := by
  cases event <;> rfl

/-- Erasing a member of a well-formed set erases its address from the addresses. -/
theorem addresses_erase (valid : set.WellFormed) {address : Ptr} {binding : Binding}
    {pre post : List (Ptr × Binding)} (split : set.bindings = pre ++ (address, binding) :: post) :
    ({ set with bindings := pre ++ post } : BindingSet).addresses = set.addresses.erase address := by
  have nodup := valid.nodup
  simp only [addresses, split, List.map_append, List.map_cons] at nodup ⊢
  rw [List.erase_append_right _ (List.disjoint_of_nodup_append nodup · (List.mem_cons_self _ _)),
    List.erase_cons_head]

/-- One admissible step of a well-formed set is one step of the abstract set: the same members
after it, and the closures it invokes are those the abstract step calls. -/
theorem step_refines (valid : set.WellFormed) (admissible : set.Admissible event)
    (stepped : set.step event = some (next, effects)) :
    (abstraction set).step event = (abstraction next, effects.filterMap Effect.invoked) := by
  rw [(step_spec valid admissible stepped).2.1]
  cases event with
  | addBindingRequest | addBinding =>
    cases stepped
    simp [abstraction, Members.step, Transition.expected, Event.isConnectionError, addresses,
      addBindingRequest, addBinding]
  | closeAllBindings => cases stepped; rfl
  | setOnEmptySetHandler => cases stepped; rfl
  | connectionError address =>
    obtain ⟨pre, binding, post, split, removed⟩ := connectionError_of_mem valid admissible
    rw [step, removed] at stepped
    cases stepped
    simp only [abstraction, Members.step, ← addresses_erase valid split]
    simp [Transition.expected, Event.isConnectionError, size, addresses]

/-- Every admissible run of a well-formed set succeeds, is admissible for the abstract set, and
ends where the abstract run ends, having invoked the closures the abstract run calls. -/
theorem run_refines {events : List Event} (valid : set.WellFormed)
    (admissible : admissibleRun set events) :
    ∃ final log, run set events = some (final, log) ∧ (abstraction set).AdmissibleRun events ∧
      (abstraction set).run events =
        (abstraction final, log.flatMap fun transition => transition.effects.filterMap Effect.invoked) := by
  induction events generalizing set with
  | nil => exact ⟨set, [], rfl, trivial, rfl⟩
  | cons event rest ih =>
    have first : set.Admissible event := by
      simp only [admissibleRun, Bool.and_eq_true, decide_eq_true_eq] at admissible
      exact admissible.1
    obtain ⟨next, effects, stepped⟩ := step_of_admissible valid first
    have refined := step_refines valid first stepped
    obtain ⟨final, log, replayed, later, abstracted⟩ :=
      ih (step_wellFormed valid first stepped) (admissibleRun_cons admissible stepped).2
    refine ⟨final, ⟨event, next, effects⟩ :: log, by simp [run, stepped, replayed],
      ⟨admissible_abstraction.mpr first, by rw [refined]; exact later⟩, ?_⟩
    simp [Members.run, refined, abstracted]

/-- From `BindingSet()`, every admissible run succeeds, and the set it reaches holds exactly the
addresses the abstract set holds, in the same order, with the on-empty-set handler the abstract
set holds; the closures the run invokes, in order, are exactly those the abstract set calls. -/
theorem bindingSet_refines_members (events : List Event) (admissible : admissibleRun init events) :
    ∃ final log, run init events = some (final, log) ∧
      Members.run ⟨[], none⟩ events = (⟨final.addresses, final.onEmptySetHandler⟩,
        log.flatMap fun transition => transition.effects.filterMap Effect.invoked) := by
  obtain ⟨final, log, replayed, -, abstracted⟩ := run_refines init_wellFormed admissible
  exact ⟨final, log, replayed, abstracted⟩

/-- Two adds, an error on the first, then an error on the second that empties the set: the
run ends empty and has invoked the handler once. -/
theorem bindingSet_refines_members_two :
    ∃ final log, run init [.setOnEmptySetHandler (some (.client 0)), .addBindingRequest 1 ⟨5⟩,
        .addBindingRequest 2 ⟨6⟩, .connectionError 1, .connectionError 2] = some (final, log) ∧
      Members.run ⟨[], none⟩ [.setOnEmptySetHandler (some (.client 0)), .addBindingRequest 1 ⟨5⟩,
          .addBindingRequest 2 ⟨6⟩, .connectionError 1, .connectionError 2] =
        (⟨final.addresses, final.onEmptySetHandler⟩,
          log.flatMap fun transition => transition.effects.filterMap Effect.invoked) :=
  bindingSet_refines_members _ (by decide)

/-- From `BindingSet()`, along every admissible run, a binding is a member of the set it reaches
exactly when it was added and since then neither an error on it nor `CloseAllBindings` came: no
binding is lost, and none outlives its channel. -/
theorem bindingSet_members (events : List Event) (admissible : admissibleRun init events) :
    ∃ final log, run init events = some (final, log) ∧
      ∀ address, address ∈ final.addresses ↔ events.foldl (Event.keeps address) false = true := by
  obtain ⟨final, log, replayed, later, abstracted⟩ := run_refines init_wellFormed admissible
  refine ⟨final, log, replayed, fun address => ?_⟩
  have live := Members.mem_run List.nodup_nil later address
  rw [abstracted] at live
  simp only [abstraction, init, addresses, List.map_nil, List.not_mem_nil, decide_False] at live
  rw [← live, decide_eq_true_iff]
  rfl

/-- A binding at `1` closed with the rest, one at `2` that fails, and `1` added again: the members
at the end are those the events say. -/
theorem bindingSet_members_readded :
    ∃ final log, run init [.addBindingRequest 1 ⟨5⟩, .closeAllBindings, .addBindingRequest 2 ⟨6⟩,
        .connectionError 2, .addBindingRequest 1 ⟨7⟩] = some (final, log) ∧
      ∀ address, address ∈ final.addresses ↔ [.addBindingRequest 1 ⟨5⟩, .closeAllBindings,
        .addBindingRequest 2 ⟨6⟩, .connectionError 2, .addBindingRequest 1 ⟨7⟩].foldl
          (Event.keeps address) false = true :=
  bindingSet_members _ (by decide)

end Fidl.BindingSet
