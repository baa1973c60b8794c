import Fidl.Dart.ChannelTransfer

/-! # Both ends of a channel, in any interleaving

Each end of a channel writes with `ChannelWrite` and reads with `ChannelQueryAndRead`, in any
order, and a write may list any `Handle`, either end's included. Whatever the VM grants and the
kernel refuses, every call keeps the two ends each other's peers and leaves each end's `Handle`
holding its end or, once a write transferred it, `MX_HANDLE_INVALID`: the ends stay `Linked`.

A read takes either the whole head of its queue or nothing: a buffer too small for the head leaves
it queued behind `MX_ERR_BUFFER_TOO_SMALL`. So each direction stays first in, first out on its own
(`Ordered`): what one end's reads delivered followed by what is still queued there is what was
queued at the start followed by what the other end's writes sent. This needs only that the VM
creates an empty `ByteData` and every handle list, and that the two ends are distinct.
-/

namespace Fidl.Dart


/-- A call on one end of a channel: `ChannelWrite` with some bytes and handles, or
`ChannelQueryAndRead`, on the `Handle` of that end. -/
inductive DuplexCall where
  | write (side : Side) (data : List UInt8) (handles : List ℕ)
  | read (side : Side)
deriving DecidableEq, Repr

/-- The `Handle`s a call lists for transfer. -/
def DuplexCall.transferred : DuplexCall → List ℕ
  | .write _ _ handles => handles
  | .read _ => []

/-- Whether a call moves messages toward the end at `side`: a write on the other end, or a read on
this one. -/
def DuplexCall.toward (side : Side) : DuplexCall → Bool
  | .write writer _ _ => writer == side.other
  | .read reader => reader == side

/-- The kernel and the handles between the calls, with what each end's writes that returned
`MX_OK` sent and what each end's reads delivered so far, in order. -/
structure Duplex where
  kernel : Channels
  heap : Heap
  sent : Side → List Message
  delivered : Side → List Message

namespace Duplex

variable (policy : WritePolicy) (vm : DartVm) (ends : Side → ℕ)

/-- One call, on the `Handle` at `ends side`. -/
def step (state : Duplex) : DuplexCall → Duplex
  | .write side data handles =>
    let out := channelWrite (fun kernel channel => kernel.write channel policy) state.kernel
      state.heap (some (ends side)) data handles
    ⟨out.kernel, out.heap, Function.update state.sent side (state.sent side ++
      if out.result = mxOk then [⟨data, handles.map state.heap.handleOf⟩] else []),
      state.delivered⟩
  | .read side =>
    let out := channelQueryAndRead Channels.read vm state.kernel state.heap (some (ends side))
    ⟨out.kernel, out.heap, state.sent,
      Function.update state.delivered side (state.delivered side ++ out.result.message out.heap)⟩

/-- A sequence of calls, on either end in any order. -/
def run (state : Duplex) (calls : List DuplexCall) : Duplex :=
  calls.foldl (step policy vm ends) state

/-- Every call keeps the kernel's peers, and only adds `Handle`s or releases those it lists. -/
theorem step_frame (state : Duplex) (call : DuplexCall) :
    (state.step policy vm ends call).kernel.peer = state.kernel.peer ∧
      (state.heap.Extends (state.step policy vm ends call).heap ∨
        (state.step policy vm ends call).heap = state.heap.releaseAll call.transferred) := by
  cases call with
  | write side data handles =>
    exact ⟨channelWrite_peer policy data handles,
      (channelWrite_heap_cases state.kernel state.heap _ _ data handles).imp_left .of_eq⟩
  | read side =>
    exact ⟨channelQueryAndRead_peer vm, .inl (channelQueryAndRead_extends _ _ _ vm _)⟩

/-- Over every run, only the `Handle`s some write lists can change. -/
theorem run_keepsExcept (state : Duplex) (calls : List DuplexCall) :
    state.heap.KeepsExcept (calls.flatMap DuplexCall.transferred)
      (state.run policy vm ends calls).heap := by
  induction calls generalizing state with
  | nil => exact (Heap.Extends.refl _).keepsExcept []
  | cons call calls ih =>
    exact (Heap.keepsExcept_of_cases (step_frame policy vm ends state call).2).trans (ih _)

variable (values : Side → MxHandle)

/-- What every call keeps: the ends stay each other's peers and allocated, and each end's `Handle`
holds its end or, once a write transferred it, `MX_HANDLE_INVALID`. -/
structure Linked (state : Duplex) : Prop where
  peer : ∀ side, state.kernel.peer (values side) = some (values side.other)
  allocated : ∀ side, ends side < state.heap.next
  holds : ∀ side, state.heap.handleOf (ends side) = values side ∨
    state.heap.handleOf (ends side) = mxHandleInvalid

variable {vm ends values}

/-- The guard passes a linked end's `Handle` only with the end's value. -/
theorem Linked.resolve_cases {state : Duplex} (linked : state.Linked ends values) (side : Side) :
    state.heap.resolve (some (ends side)) = none ∨
      state.heap.resolve (some (ends side)) = some (values side) := by
  rcases linked.holds side with holds | released
  · exact Heap.resolve_some_cases holds
  · exact .inl (Heap.resolve_eq_none.mpr fun _ same => by cases same; exact released)

/-- A state with the same peers and a heap that only released handles stays linked. -/
theorem Linked.of_frame {state next : Duplex} (linked : state.Linked ends values)
    (peers : next.kernel.peer = state.kernel.peer) (released : state.heap.Releases next.heap) :
    next.Linked ends values :=
  ⟨fun side => peers ▸ linked.peer side,
    fun side => Nat.lt_of_lt_of_le (linked.allocated side) released.next_le,
    fun side => (released.handleOf_cases _ (linked.allocated side)).elim
      (fun same => same ▸ linked.holds side) .inr⟩

theorem step_linked {state : Duplex} (linked : state.Linked ends values) (call : DuplexCall) :
    (state.step policy vm ends call).Linked ends values :=
  linked.of_frame (step_frame policy vm ends state call).1
    (Heap.releases_of_cases (step_frame policy vm ends state call).2)

theorem run_linked {state : Duplex} (linked : state.Linked ends values) (calls : List DuplexCall) :
    (state.run policy vm ends calls).Linked ends values := by
  induction calls generalizing state with
  | nil => exact linked
  | cons call calls ih => exact ih (step_linked policy linked call)

/-- Two ends each other's peers, each held by its `Handle`, are linked. -/
theorem linked_of_holds {state : Duplex}
    (peer : ∀ side, state.kernel.peer (values side) = some (values side.other))
    (holds : ∀ side, state.heap.handleOf (ends side) = values side)
    (valid : ∀ side, values side ≠ mxHandleInvalid) : state.Linked ends values :=
  ⟨peer, fun side => Heap.lt_next_of_isValid ((holds side).symm ▸ valid side),
    fun side => .inl (holds side)⟩

variable (values) (queued : Side → List Message)

/-- The direction toward the end at `side` is first in, first out: what this end's reads delivered
followed by what is queued there is what was `queued` there at the start followed by what the
other end's writes sent. -/
def Ordered (side : Side) (state : Duplex) : Prop :=
  queued side ++ state.sent side.other = state.delivered side ++ state.kernel.queue (values side)

variable {values queued}

theorem step_write_ordered {state : Duplex} (linked : state.Linked ends values) {side : Side}
    (ordered : state.Ordered values queued side) (writer : Side) (data : List UInt8)
    (handles : List ℕ) (distinct : writer = side → values .first ≠ values .second) :
    (state.step policy vm ends (.write writer data handles)).Ordered values queued side := by
  rcases linked.resolve_cases writer with resolved | resolved
  · simp only [Ordered, step, channelWrite, resolved, mxErrBadHandle_ne_ok, if_false,
      List.append_nil, Function.update_eq_self]
    exact ordered
  rcases channelWrite_appends policy data handles resolved (linked.peer writer) with
    written | ⟨refused, same, unchanged⟩
  · simp only [Ordered, step, written, if_true]
    rcases Side.eq_or_eq_other side writer with rfl | rfl
    · rw [Function.update_noteq (Side.other_ne writer), Channels.setQueue_queue_of_ne _ _
        (Side.apply_ne (distinct rfl) (Side.ne_other writer))]
      exact ordered
    · rw [Side.other_other, Function.update_same, Channels.setQueue_queue_self,
        ← List.append_assoc, ordered, List.append_assoc]
  · simp only [Ordered, step, same, unchanged, if_neg refused, List.append_nil,
      Function.update_eq_self]
    exact ordered

theorem step_read_ordered (created : (vm.typedData 0).created = true)
    (lists : ∀ length, vm.newList length = true) {state : Duplex}
    (linked : state.Linked ends values) {side : Side} (ordered : state.Ordered values queued side)
    (reader : Side) (distinct : reader ≠ side → values .first ≠ values .second) :
    (state.step policy vm ends (.read reader)).Ordered values queued side := by
  rcases linked.resolve_cases reader with resolved | resolved
  · simp only [Ordered, step, channelQueryAndRead, resolved, ReadResult.message,
      mxErrBadHandle_ne_ok, if_false, List.append_nil, Function.update_eq_self]
    exact ordered
  obtain ⟨taken, -, others, -⟩ := channelQueryAndRead_takes created lists resolved
  simp only [Ordered, step]
  by_cases reading : reader = side
  · subst reading
    rw [Function.update_same, ordered, ← taken, List.append_assoc]
  · rw [Function.update_noteq (Ne.symm reading),
      others _ (Side.apply_ne (distinct reading) (Ne.symm reading))]
    exact ordered

/-- Every call keeps the direction toward `side` in order; a call that moves nothing toward it
needs the ends distinct. -/
theorem step_ordered (created : (vm.typedData 0).created = true)
    (lists : ∀ length, vm.newList length = true) {state : Duplex}
    (linked : state.Linked ends values) {side : Side} (ordered : state.Ordered values queued side)
    (call : DuplexCall) (distinct : call.toward side = false → values .first ≠ values .second) :
    (state.step policy vm ends call).Ordered values queued side := by
  cases call with
  | write writer data handles =>
    exact step_write_ordered policy linked ordered writer data handles fun away =>
      distinct (by simp [DuplexCall.toward, away])
  | read reader =>
    exact step_read_ordered policy created lists linked ordered reader fun away =>
      distinct (by simp [DuplexCall.toward, away])

theorem run_ordered (created : (vm.typedData 0).created = true)
    (lists : ∀ length, vm.newList length = true) {state : Duplex}
    (linked : state.Linked ends values) {side : Side} (ordered : state.Ordered values queued side)
    (calls : List DuplexCall)
    (distinct : ∀ call ∈ calls, call.toward side = false → values .first ≠ values .second) :
    (state.run policy vm ends calls).Ordered values queued side := by
  induction calls generalizing state with
  | nil => exact ordered
  | cons call calls ih =>
    exact ih (step_linked policy linked call)
      (step_ordered policy created lists linked ordered call (distinct call (.head _)))
      fun other later => distinct other (.tail _ later)

/-- Between the two `Handle`s of a channel, at `ends .first` and `ends .second`, with a VM that
creates an empty `ByteData` and every handle list, whatever buffers it refuses: over every
sequence of writes and reads on either end, in any order, and whichever `Handle`s the writes
transfer, either end's included, what each end's reads delivered followed by what is still
queued there is what was queued there at the start followed by what the other end's writes
sent. -/
theorem duplex_in_order (policy : WritePolicy) {vm : DartVm}
    (created : (vm.typedData 0).created = true) (lists : ∀ length, vm.newList length = true)
    {kernel : Channels} {heap : Heap} {ends : Side → ℕ} {values : Side → MxHandle}
    (distinct : values .first ≠ values .second)
    (peer : ∀ side, kernel.peer (values side) = some (values side.other))
    (holds : ∀ side, heap.handleOf (ends side) = values side)
    (valid : ∀ side, values side ≠ mxHandleInvalid) (calls : List DuplexCall) (side : Side) :
    kernel.queue (values side) ++
        (run policy vm ends ⟨kernel, heap, fun _ => [], fun _ => []⟩ calls).sent side.other =
      (run policy vm ends ⟨kernel, heap, fun _ => [], fun _ => []⟩ calls).delivered side ++
        (run policy vm ends ⟨kernel, heap, fun _ => [], fun _ => []⟩ calls).kernel.queue
          (values side) :=
  run_ordered policy created lists (linked_of_holds peer holds valid)
    (show Ordered values (fun side => kernel.queue (values side)) side _ by simp [Ordered]) calls
    fun _ _ _ => distinct

/-- The first end writes a message that transfers its own `Handle`, the second writes one, and
both read: the second end's `Handle` is still live, and both directions deliver in order. -/
theorem duplex_in_order_self_transfer :
    let final := run (fun _ _ => none) DartVm.granting (Side.pick 0 1)
      ⟨Channels.connect 1 2, Heap.ofList [1, 2], fun _ => [], fun _ => []⟩
      [.write .first [7] [0], .write .second [8] [], .read .second, .read .first]
    (Channels.connect 1 2).queue (Side.pick 1 2 .first) ++ final.sent Side.first.other =
      final.delivered .first ++ final.kernel.queue (Side.pick 1 2 .first) :=
  duplex_in_order (fun _ _ => none) rfl DartVm.granting_newList (by decide)
    (fun side => by cases side <;> rfl) (fun side => by cases side <;> rfl)
    (fun side => by cases side <;> decide) _ .first

end Duplex

end Fidl.Dart
