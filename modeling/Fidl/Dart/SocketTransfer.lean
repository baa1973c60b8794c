import Fidl.Dart.System
import Fidl.Magenta.Sockets

/-! # Bytes between the two ends of a socket

`SocketWrite` and `SocketRead` on the two ends of a socket, over the kernel's byte streams. A
write reports how many of its bytes the kernel took; a read hands back a `ByteData` of the
requested size and reports how many of its bytes the kernel filled. Over any sequence of such
calls on either end, in any order, at each end the bytes its reads filled followed by what still
waits there are what waited there at the start followed by the bytes the other end's writes
reported taken, whatever the VM grants: a buffer the VM refuses is null, and the kernel fills
nothing there. The two directions do not disturb each other.
-/

namespace Fidl.Dart

/-- The first `count` bytes of a `ByteData`, and nothing of an error handle. -/
def ByteData.front (count : ℕ) : ByteData → List UInt8
  | .error => []
  | .bytes contents => contents.take count

@[simp] theorem ByteData.front_zero (bytes : ByteData) : bytes.front 0 = [] := by
  cases bytes <;> rfl

/-- The bytes a `ReadResult` hands back: the first `numBytes` of its `ByteData`, and nothing for
an error. -/
def ReadResult.bytesRead (result : ReadResult) : List UInt8 :=
  if result.status = mxOk then
    match result.payload with
    | some payload => payload.bytes.front payload.numBytes
    | none => []
  else []

section Read

variable {vm : DartVm} {kernel : Sockets} {heap : Heap} {socket : Option ℕ} {value : MxHandle}

/-- A `SocketRead` on a live handle hands back exactly the bytes it takes from the front of the
end's buffer, and changes no other end and no handle. -/
theorem socketRead_takes (resolved : heap.resolve socket = some value) (size : ℕ) :
    (socketRead Sockets.read vm kernel heap socket size).result.bytesRead ++
        (socketRead Sockets.read vm kernel heap socket size).kernel.buffered value =
      kernel.buffered value ∧
    (socketRead Sockets.read vm kernel heap socket size).kernel.peer = kernel.peer ∧
    (∀ other ≠ value,
      (socketRead Sockets.read vm kernel heap socket size).kernel.buffered other =
        kernel.buffered other) ∧
    (socketRead Sockets.read vm kernel heap socket size).heap = heap := by
  obtain ⟨taken, counted, fits, empty, peers, others⟩ :=
    Sockets.read_takes kernel value (ByteDataScope.create vm size).1.data size
  simp only [socketRead, resolved]
  refine ⟨?_, by split <;> exact peers, fun other distinct => by split <;> exact others other distinct,
    by split <;> rfl⟩
  by_cases null : (ByteDataScope.create vm size).1.data = 0
  · have nothing := empty (.inr null)
    rw [nothing, List.nil_append] at taken
    split <;> simp [ReadResult.bytesRead, counted, nothing, taken]
  · split
    · next ok =>
      simp only [ReadResult.bytesRead, ok, if_true, ByteDataScope.dartHandle,
        ByteDataScope.release_object, ByteDataScope.create_object_of_data null, ByteData.front,
        counted, fill_take fits, taken]
    · next failed =>
      rw [empty (.inl failed), List.nil_append] at taken
      simp [ReadResult.bytesRead, failed, taken]

end Read

/-- The bytes of `data` a `WriteResult` reports taken: the first `numBytes` on `MX_OK`, and none
otherwise. -/
def WriteResult.bytesWritten (result : WriteResult) (data : List UInt8) : List UInt8 :=
  if result.status = mxOk then data.take (result.numBytes.getD 0) else []

section Write

variable (policy : SocketPolicy) (capacity : ℕ) {kernel : Sockets} {heap : Heap}
  {socket : Option ℕ} {value peer : MxHandle} (data : List UInt8) (options : ℤ)

/-- A `SocketWrite` on a live handle appends to the peer's buffer exactly the bytes it reports
taken, and changes no other end and no handle. -/
theorem socketWrite_appends (resolved : heap.resolve socket = some value)
    (connected : kernel.peer value = some peer) :
    (socketWrite (fun kernel socket => kernel.write socket policy capacity) kernel heap socket data
        options).kernel.buffered peer =
      kernel.buffered peer ++ (socketWrite (fun kernel socket => kernel.write socket policy capacity)
        kernel heap socket data options).result.bytesWritten data ∧
    (socketWrite (fun kernel socket => kernel.write socket policy capacity) kernel heap socket data
        options).kernel.peer = kernel.peer ∧
    (∀ other ≠ peer, (socketWrite (fun kernel socket => kernel.write socket policy capacity) kernel
        heap socket data options).kernel.buffered other = kernel.buffered other) ∧
    (socketWrite (fun kernel socket => kernel.write socket policy capacity) kernel heap socket data
        options).heap = heap := by
  simp only [socketWrite, resolved]
  rcases Sockets.write_cases kernel value policy capacity options data with
    ⟨found, accepted, linked, taken, written⟩ | ⟨refused, unchanged⟩
  · rw [connected, Option.some.injEq] at linked
    subst linked
    rw [written]
    refine ⟨?_, rfl, fun other distinct => Sockets.setBuffered_buffered_of_ne _ _ distinct, trivial⟩
    simp [WriteResult.bytesWritten, ← List.prefix_iff_eq_take.mp taken]
  · simp [WriteResult.bytesWritten, refused, unchanged]

end Write

/-- A call on one end of a socket: `SocketWrite` or `SocketRead` on the `Handle` of that end. -/
inductive SocketCall where
  | write (side : Side) (data : List UInt8) (options : ℤ)
  | read (side : Side) (size : ℕ)
deriving DecidableEq, Repr

/-- The kernel and the handles between the calls on both ends of a socket, with the bytes each
end's writes reported taken and each end's reads handed back so far, in order. -/
structure SocketDuplex where
  kernel : Sockets
  heap : Heap
  sent : Side → List UInt8
  delivered : Side → List UInt8

namespace SocketDuplex

variable (policy : SocketPolicy) (capacity : ℕ) (vm : DartVm) (ends : Side → ℕ)

/-- One call, on the `Handle` at `ends side`. -/
def step (state : SocketDuplex) : SocketCall → SocketDuplex
  | .write side data options =>
    let out := socketWrite (fun kernel socket => kernel.write socket policy capacity) state.kernel
      state.heap (some (ends side)) data options
    ⟨out.kernel, out.heap,
      Function.update state.sent side (state.sent side ++ out.result.bytesWritten data),
      state.delivered⟩
  | .read side size =>
    let out := socketRead Sockets.read vm state.kernel state.heap (some (ends side)) size
    ⟨out.kernel, out.heap, state.sent,
      Function.update state.delivered side (state.delivered side ++ out.result.bytesRead)⟩

/-- A sequence of calls, on either end in any order. -/
def run (state : SocketDuplex) (calls : List SocketCall) : SocketDuplex :=
  calls.foldl (step policy capacity vm ends) state

variable (values : Side → MxHandle) (queued : Side → List UInt8)

/-- What holds between the calls: the two ends are distinct and each other's peers, each `Handle`
holds its end, and what waits at each end is what was `queued` there at the start and the other
end's writes reported taken since, less what this end's reads handed back. -/
structure Flowing (state : SocketDuplex) : Prop where
  distinct : values .first ≠ values .second
  peer : ∀ side, state.kernel.peer (values side) = some (values side.other)
  holds : ∀ side, state.heap.handleOf (ends side) = values side
  fifo : ∀ side,
    queued side ++ state.sent side.other = state.delivered side ++ state.kernel.buffered (values side)

variable {vm ends values queued}

/-- A call that keeps the peers and the handles only has to keep both directions in order. -/
theorem Flowing.frame {state next : SocketDuplex} (flowing : state.Flowing ends values queued)
    (peers : next.kernel.peer = state.kernel.peer) (same : next.heap = state.heap)
    (fifo : ∀ side,
      queued side ++ next.sent side.other = next.delivered side ++ next.kernel.buffered (values side)) :
    next.Flowing ends values queued :=
  ⟨flowing.distinct, peers ▸ flowing.peer, same ▸ flowing.holds, fifo⟩

theorem step_write_flowing {state : SocketDuplex} (flowing : state.Flowing ends values queued)
    (side : Side) (data : List UInt8) (options : ℤ) :
    (state.step policy capacity vm ends (.write side data options)).Flowing ends values queued := by
  rcases Heap.resolve_some_cases (flowing.holds side) with resolved | resolved
  · simp only [step, socketWrite, resolved, WriteResult.bytesWritten, mxErrBadHandle_ne_ok,
      if_false, List.append_nil, Function.update_eq_self]
    exact flowing
  · obtain ⟨appended, peers, others, same⟩ :=
      socketWrite_appends policy capacity data options resolved (flowing.peer side)
    refine flowing.frame peers same fun other => ?_
    simp only [step]
    by_cases receiving : other = side.other
    · subst receiving
      have fifo := flowing.fifo side.other
      rw [Side.other_other] at fifo ⊢
      rw [Function.update_same, appended, ← List.append_assoc, fifo, List.append_assoc]
    · have sender : other.other ≠ side := fun same => receiving (by rw [← same, Side.other_other])
      rw [Function.update_noteq sender, others _ (Side.apply_ne flowing.distinct receiving)]
      exact flowing.fifo other

theorem step_read_flowing {state : SocketDuplex} (flowing : state.Flowing ends values queued)
    (side : Side) (size : ℕ) :
    (state.step policy capacity vm ends (.read side size)).Flowing ends values queued := by
  rcases Heap.resolve_some_cases (flowing.holds side) with resolved | resolved
  · simp only [step, socketRead, resolved, ReadResult.bytesRead, mxErrBadHandle_ne_ok, if_false,
      List.append_nil, Function.update_eq_self]
    exact flowing
  · obtain ⟨taken, peers, others, same⟩ := @socketRead_takes vm state.kernel _ _ _ resolved size
    refine flowing.frame peers same fun other => ?_
    simp only [step]
    by_cases reading : other = side
    · subst reading
      rw [Function.update_same, flowing.fifo, ← taken, List.append_assoc]
    · rw [Function.update_noteq reading, others _ (Side.apply_ne flowing.distinct reading)]
      exact flowing.fifo other

theorem run_flowing {state : SocketDuplex} (flowing : state.Flowing ends values queued)
    (calls : List SocketCall) : (state.run policy capacity vm ends calls).Flowing ends values queued := by
  induction calls generalizing state with
  | nil => exact flowing
  | cons call calls ih =>
    cases call with
    | write side data options => exact ih (step_write_flowing policy capacity flowing side data options)
    | read side size => exact ih (step_read_flowing policy capacity flowing side size)

/-- Between the `Handle`s of the two ends of a socket, at `ends .first` and `ends .second`, over
every sequence of writes and reads on either end, in any order, whatever the VM grants, the
kernel's capacity and the writes it refuses: at each end, the bytes its reads handed back
followed by what still waits there are what waited there at the start followed by the bytes the
other end's writes reported taken. The two directions do not disturb each other. -/
theorem socket_duplex_in_order {kernel : Sockets} {heap : Heap}
    (distinct : values .first ≠ values .second)
    (peer : ∀ side, kernel.peer (values side) = some (values side.other))
    (holds : ∀ side, heap.handleOf (ends side) = values side) (calls : List SocketCall)
    (side : Side) :
    kernel.buffered (values side) ++
        (run policy capacity vm ends ⟨kernel, heap, fun _ => [], fun _ => []⟩ calls).sent side.other =
      (run policy capacity vm ends ⟨kernel, heap, fun _ => [], fun _ => []⟩ calls).delivered side ++
        (run policy capacity vm ends ⟨kernel, heap, fun _ => [], fun _ => []⟩ calls).kernel.buffered
          (values side) :=
  (@run_flowing policy capacity vm ends values (fun side => kernel.buffered (values side)) _
    ⟨distinct, peer, holds, fun _ => by simp⟩ calls).fifo side

/-- With room for two bytes, each end writes and then each reads: what the second end handed back
and what still waits there are what the first end's write reported taken. -/
theorem socket_duplex_in_order_both_ways :
    let final := run (fun _ _ _ => none) 2 DartVm.granting (Side.pick 0 1)
      ⟨Sockets.connect 1 2, Heap.ofList [1, 2], fun _ => [], fun _ => []⟩
      [.write .first [7, 8, 9] 0, .write .second [4] 0, .read .second 5, .read .first 5]
    (Sockets.connect 1 2).buffered (Side.pick 1 2 .second) ++ final.sent Side.second.other =
      final.delivered .second ++ final.kernel.buffered (Side.pick 1 2 .second) :=
  @socket_duplex_in_order (fun _ _ _ => none) 2 DartVm.granting (Side.pick 0 1) (Side.pick 1 2)
    (Sockets.connect 1 2) (Heap.ofList [1, 2]) (by decide) (fun side => by cases side <;> rfl)
    (fun side => by cases side <;> rfl) _ .second

/- With room for two bytes, a write of three on the first end is reported to have taken two, and a
read of up to five on the second end hands back exactly those two. -/
example : (run (fun _ _ _ => none) 2 DartVm.granting (Side.pick 0 1)
    ⟨Sockets.connect 1 2, Heap.ofList [1, 2], fun _ => [], fun _ => []⟩
    [.write .first [7, 8, 9] 0, .read .second 5]).delivered .second = [7, 8] := rfl

end SocketDuplex

end Fidl.Dart
