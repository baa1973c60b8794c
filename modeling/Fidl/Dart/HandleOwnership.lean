import Mathlib.Data.List.Perm.Basic
import Fidl.Dart.ChannelDuplex

/-! # No handle lost or duplicated between the two ends of a channel

`ChannelWrite` releases the `Handle`s it lists once the kernel has taken the message, and
`ChannelQueryAndRead` wraps each handle of the message it took in a new `Handle`. So over any
interleaving of calls on the two ends, whichever `Handle`s the writes transfer, the handle values
the Dart side holds together with those in flight between the ends (`owned`) never grow: no
handle is duplicated. This needs the kernel to refuse a message that lists one handle twice or
lists `MX_HANDLE_INVALID`. With a VM that creates every handle list they stay the same multiset,
so none is lost either; when `Dart_NewList` or a store into the list fails, `MakeHandleList`
returns the error, and the handles of the message the read has already taken that it had not
reached are held by no `Handle`.
-/

namespace Fidl.Dart

section Write

variable {policy : WritePolicy} {kernel : Channels} {heap : Heap} {channel : Option ℕ}
  {value : MxHandle} {data : List UInt8} {handles : List ℕ}

/-- A `ChannelWrite` the kernel accepts lists distinct valid `Handle`s, when the kernel checks the
handles it is sent. -/
theorem channelWrite_checked (checks : policy.ChecksHandles)
    (resolved : heap.resolve channel = some value)
    (accepted : (channelWrite (fun kernel channel => kernel.write channel policy) kernel heap
      channel data handles).result = mxOk) :
    handles.Nodup ∧ ∀ ref ∈ handles, heap.handleOf ref ≠ mxHandleInvalid := by
  simp only [channelWrite, resolved] at accepted
  obtain ⟨distinct, valid⟩ := Channels.write_checked checks accepted
  exact ⟨List.Pairwise.of_map heap.handleOf (fun _ _ differ same => differ (congrArg _ same))
    distinct, fun ref listed invalid => valid (invalid ▸ List.mem_map_of_mem _ listed)⟩

end Write

namespace Duplex

/-- The handle values in flight between the two ends: those of the messages queued at either. -/
def inFlight (values : Side → MxHandle) (kernel : Channels) : List MxHandle :=
  (kernel.queue (values .first) ++ kernel.queue (values .second)).flatMap Message.handles

/-- The handle values the Dart side holds or has in flight between the ends. -/
def owned (values : Side → MxHandle) (state : Duplex) : List MxHandle :=
  state.heap.held ++ inFlight values state.kernel

variable {values : Side → MxHandle}

/-- Where the queue at one end gains `added` at its back and loses `removed` from its front, and
the queue at the other end is kept, the handle values in flight gain and lose theirs. -/
theorem inFlight_moved {kernel next : Channels} (side : Side) {added removed : List Message}
    (moved : kernel.queue (values side) ++ added = removed ++ next.queue (values side))
    (kept : next.queue (values side.other) = kernel.queue (values side.other)) :
    List.Perm (inFlight values next ++ removed.flatMap Message.handles)
      (inFlight values kernel ++ added.flatMap Message.handles) := by
  refine List.perm_iff_count.mpr fun handle => ?_
  have counted := congrArg (fun messages => (messages.flatMap Message.handles).count handle) moved
  cases side <;> simp only [Side.other] at kept <;>
    simp only [inFlight, List.flatMap_append, List.count_append, kept] at counted ⊢ <;> omega

variable {policy : WritePolicy} {vm : DartVm} {ends : Side → ℕ}

/-- A write keeps the messages in flight free of `MX_HANDLE_INVALID` and moves the values of the
`Handle`s it releases into the message it queues. -/
theorem step_write_owned (checks : policy.ChecksHandles) {state : Duplex}
    (linked : state.Linked ends values) (distinct : values .first ≠ values .second)
    (clean : mxHandleInvalid ∉ inFlight values state.kernel) (side : Side) (data : List UInt8)
    (handles : List ℕ) :
    mxHandleInvalid ∉ inFlight values (state.step policy vm ends (.write side data handles)).kernel ∧
      List.Perm ((state.step policy vm ends (.write side data handles)).owned values)
        (state.owned values) := by
  rcases linked.resolve_cases side with resolved | resolved
  · simp only [step, channelWrite, resolved]
    exact ⟨clean, .refl _⟩
  rcases channelWrite_appends policy data handles resolved (linked.peer side) with
    written | ⟨-, same, unchanged⟩
  · obtain ⟨nodup, valid⟩ := channelWrite_checked checks resolved (by rw [written])
    have kept : (state.kernel.setQueue (values side.other) (state.kernel.queue (values side.other) ++
        [⟨data, handles.map state.heap.handleOf⟩])).queue (values side.other.other) =
        state.kernel.queue (values side.other.other) := by
      rw [Side.other_other]
      exact Channels.setQueue_queue_of_ne _ _ (Side.apply_ne distinct (Side.ne_other side))
    have queued : List.Perm (inFlight values (state.kernel.setQueue (values side.other)
        (state.kernel.queue (values side.other) ++ [⟨data, handles.map state.heap.handleOf⟩])))
        (inFlight values state.kernel ++ handles.map state.heap.handleOf) := by
      simpa using @inFlight_moved values state.kernel _ side.other
        [⟨data, handles.map state.heap.handleOf⟩] [] (by simp) kept
    simp only [step, owned, written]
    refine ⟨fun invalid => ?_, ?_⟩
    · rcases List.mem_append.mp (queued.subset invalid) with flying | listed
      · exact clean flying
      · obtain ⟨ref, member, same⟩ := List.mem_map.mp listed
        exact valid ref member same
    have swapped := List.Perm.append_left (state.heap.releaseAll handles).held
      (queued.trans List.perm_append_comm)
    rw [← List.append_assoc] at swapped
    exact swapped.trans ((Heap.held_releaseAll nodup valid).append_right _)
  · simp only [step, same, unchanged]
    exact ⟨clean, .refl _⟩

/-- A read with a VM that creates an empty `ByteData` and every handle list moves the values of
the message it takes into new `Handle`s. -/
theorem step_read_owned (created : (vm.typedData 0).created = true)
    (lists : ∀ length, vm.newList length = true) {state : Duplex}
    (linked : state.Linked ends values) (distinct : values .first ≠ values .second)
    (clean : mxHandleInvalid ∉ inFlight values state.kernel) (side : Side) :
    mxHandleInvalid ∉ inFlight values (state.step policy vm ends (.read side)).kernel ∧
      List.Perm ((state.step policy vm ends (.read side)).owned values) (state.owned values) := by
  rcases linked.resolve_cases side with resolved | resolved
  · simp only [step, channelQueryAndRead, resolved]
    exact ⟨clean, .refl _⟩
  obtain ⟨taken, -, others, made⟩ := channelQueryAndRead_takes created lists resolved
  simp only [step, owned]
  generalize channelQueryAndRead Channels.read vm state.kernel state.heap (some (ends side)) = out
    at taken others made ⊢
  generalize out.result.message out.heap = delivered at taken made ⊢
  have queued := @inFlight_moved values state.kernel out.kernel side [] delivered
    (by simpa using taken.symm) (others _ (Side.apply_ne distinct (Side.ne_other side)).symm)
  rw [List.flatMap_nil, List.append_nil] at queued
  have valid : ∀ handle ∈ delivered.flatMap Message.handles, handle ≠ mxHandleInvalid :=
    fun handle member invalid => clean (invalid ▸ queued.subset (List.mem_append_right _ member))
  refine ⟨fun invalid => clean (queued.subset (List.mem_append_left _ invalid)), ?_⟩
  rw [made, Heap.held_createAll valid, List.append_assoc]
  exact .append_left _ (List.perm_append_comm.trans queued)

/-- With a VM that creates an empty `ByteData` and every handle list, every call keeps what the
Dart side owns, as a multiset. -/
theorem step_owned (checks : policy.ChecksHandles) (created : (vm.typedData 0).created = true)
    (lists : ∀ length, vm.newList length = true) {state : Duplex}
    (linked : state.Linked ends values) (distinct : values .first ≠ values .second)
    (clean : mxHandleInvalid ∉ inFlight values state.kernel) (call : DuplexCall) :
    mxHandleInvalid ∉ inFlight values (state.step policy vm ends call).kernel ∧
      List.Perm ((state.step policy vm ends call).owned values) (state.owned values) := by
  cases call with
  | write side data handles => exact step_write_owned checks linked distinct clean side data handles
  | read side => exact step_read_owned created lists linked distinct clean side

theorem run_owned (checks : policy.ChecksHandles) (created : (vm.typedData 0).created = true)
    (lists : ∀ length, vm.newList length = true) {state : Duplex}
    (linked : state.Linked ends values) (distinct : values .first ≠ values .second)
    (clean : mxHandleInvalid ∉ inFlight values state.kernel) (calls : List DuplexCall) :
    List.Perm ((state.run policy vm ends calls).owned values) (state.owned values) := by
  induction calls generalizing state with
  | nil => exact .refl _
  | cons call calls ih =>
    obtain ⟨clean, kept⟩ := step_owned checks created lists linked distinct clean call
    exact (ih (step_linked policy linked call) clean).trans kept

/-- Between the two `Handle`s of a channel, with a kernel that refuses a message listing one handle
twice or listing `MX_HANDLE_INVALID`, and a VM that creates an empty `ByteData` and every handle
list: over every sequence of writes and reads on either end, in any order, whichever `Handle`s the
writes transfer, either end's included, the handle values the Dart side holds and those in flight
between the ends are, as a multiset, those it held and had in flight at the start. No handle is
lost and none is duplicated. -/
theorem duplex_conserves_handles {policy : WritePolicy} (checks : policy.ChecksHandles)
    {vm : DartVm} (created : (vm.typedData 0).created = true)
    (lists : ∀ length, vm.newList length = true) {kernel : Channels} {heap : Heap}
    {ends : Side → ℕ} {values : Side → MxHandle} (distinct : values .first ≠ values .second)
    (peer : ∀ side, kernel.peer (values side) = some (values side.other))
    (holds : ∀ side, heap.handleOf (ends side) = values side)
    (valid : ∀ side, values side ≠ mxHandleInvalid)
    (clean : mxHandleInvalid ∉ inFlight values kernel) (calls : List DuplexCall) :
    List.Perm ((run policy vm ends ⟨kernel, heap, fun _ => [], fun _ => []⟩ calls).heap.held ++
        inFlight values (run policy vm ends ⟨kernel, heap, fun _ => [], fun _ => []⟩ calls).kernel)
      (heap.held ++ inFlight values kernel) := by
  have linked : (⟨kernel, heap, fun _ => [], fun _ => []⟩ : Duplex).Linked ends values :=
    linked_of_holds peer holds valid
  exact run_owned checks created lists linked distinct clean calls

/-- The first end sends its own `Handle` and the handle held at address `2` to the second, which
reads both into new `Handle`s. -/
theorem duplex_conserves_handles_sent :
    let final := run WritePolicy.checking DartVm.granting (Side.pick 0 1)
      ⟨Channels.connect 1 2, Heap.ofList [1, 2, 5], fun _ => [], fun _ => []⟩
      [.write .first [7] [0, 2], .read .second]
    List.Perm (final.heap.held ++ inFlight (Side.pick 1 2) final.kernel)
      ((Heap.ofList [1, 2, 5]).held ++ inFlight (Side.pick 1 2) (Channels.connect 1 2)) :=
  duplex_conserves_handles WritePolicy.checking_checksHandles rfl DartVm.granting_newList
    (by decide) (fun side => by cases side <;> rfl) (fun side => by cases side <;> rfl)
    (fun side => by cases side <;> decide) (by decide) _

/-- A channel made by `ChannelCreate`, whichever `Handle` C++ creates first, and then used from both
its new `Handle`s, on a kernel that creates two distinct valid ends connected to each other with
nothing queued and checks the handles it is sent, and with a VM that creates an empty `ByteData`
and every handle list: every interleaving of calls, whatever `Handle`s it transfers, leaves the
Dart side holding or having in flight exactly what it held before `ChannelCreate`, and the two new
ends. -/
theorem channelCreate_then_duplex_conserves (order : ArgumentOrder) {policy : WritePolicy}
    (checks : policy.ChecksHandles) {vm : DartVm} (created : (vm.typedData 0).created = true)
    (lists : ∀ length, vm.newList length = true)
    {create : Channels → ℕ → (MxStatus × MxHandle × MxHandle) × Channels} {kernel made : Channels}
    {heap : Heap} {options : ℕ} {end0 end1 : MxHandle}
    (answer : create kernel options = ((mxOk, end0, end1), made)) (distinct : end0 ≠ end1)
    (valid0 : end0 ≠ mxHandleInvalid) (valid1 : end1 ≠ mxHandleInvalid)
    (peer0 : made.peer end0 = some end1) (peer1 : made.peer end1 = some end0)
    (empty0 : made.queue end0 = []) (empty1 : made.queue end1 = []) (calls : List DuplexCall) :
    let start := channelCreate order create kernel heap options
    let final := run policy vm (Side.pick (order.refs heap.next).1 (order.refs heap.next).2)
      ⟨start.kernel, start.heap, fun _ => [], fun _ => []⟩ calls
    List.Perm (final.heap.held ++ inFlight (Side.pick end0 end1) final.kernel)
      (heap.held ++ [end0, end1]) := by
  rw [channelCreate, createPair_of_ok answer]
  have linked : (⟨made, order.createBoth heap end0 end1, fun _ => [], fun _ => []⟩ : Duplex).Linked
      (Side.pick (order.refs heap.next).1 (order.refs heap.next).2) (Side.pick end0 end1) :=
    linked_of_holds (fun side => by cases side; exacts [peer0, peer1])
      (fun side => by cases side <;> simp [Side.pick])
      (fun side => by cases side; exacts [valid0, valid1])
  have nothing : inFlight (Side.pick end0 end1) made = [] := by
    simp [inFlight, Side.pick, empty0, empty1]
  refine (run_owned checks created lists linked distinct (by simp [nothing]) calls).trans ?_
  simp only [owned, nothing, List.append_nil]
  exact order.held_createBoth heap end0 end1 valid0 valid1

/-- `ChannelCreate` makes the pair `1`, `2` beside the handle `5`, creating the second `Handle`
first as GCC does; the first end then sends `5` and its own `Handle` to the second. -/
theorem channelCreate_then_duplex_conserves_sent :
    let start := channelCreate .rightToLeft (fun _ _ => ((mxOk, 1, 2), Channels.connect 1 2))
      (Channels.connect 0 0) (Heap.ofList [5]) 0
    let final := run WritePolicy.checking DartVm.granting (Side.pick 2 1)
      ⟨start.kernel, start.heap, fun _ => [], fun _ => []⟩ [.write .first [7] [0, 2], .read .second]
    List.Perm (final.heap.held ++ inFlight (Side.pick 1 2) final.kernel)
      ((Heap.ofList [5]).held ++ [1, 2]) :=
  @channelCreate_then_duplex_conserves .rightToLeft WritePolicy.checking
    WritePolicy.checking_checksHandles DartVm.granting rfl DartVm.granting_newList
    (fun _ _ => ((mxOk, 1, 2), Channels.connect 1 2)) (Channels.connect 0 0) (Channels.connect 1 2)
    (Heap.ofList [5]) 0 1 2 rfl (by decide) (by decide) (by decide) rfl rfl rfl rfl
    [.write .first [7] [0, 2], .read .second]

end Duplex

end Fidl.Dart
