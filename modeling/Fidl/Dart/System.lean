import Fidl.Dart.ByteDataScope
import Fidl.Magenta.Channels

/-! # The system calls of the Dart extension

`System` (system.cc) exposes channels, event pairs, sockets and VMOs to Dart. Each entry point
first rejects a null or invalid `Handle` with `MX_ERR_BAD_HANDLE`, then makes one kernel call and
wraps what it returns in a result object. The kernel is a parameter of every entry point: each
kernel call is a function of a kernel state `K`, so every law holds whatever the kernel does.
Status codes are compared, never computed; `options` and sizes are unsigned and kept as naturals.
-/

namespace Fidl.Dart

variable {K : Type}

/-- What a `System` call did: its result, the kernel and handle heap it left, and the calls it
made, in order. -/
structure Outcome (K α : Type) where
  result : α
  kernel : K
  heap : Heap
  calls : List Call

/-- The payload of a successful read. -/
structure ReadPayload where
  bytes : ByteData
  numBytes : ℕ
  /-- The handle list, which only `ChannelQueryAndRead` returns. -/
  handles : Option HandleList
deriving DecidableEq, Repr

/-- A `ReadResult`: a status, and on success a payload. -/
structure ReadResult where
  status : MxStatus
  payload : Option ReadPayload
deriving DecidableEq, Repr

/-- A `HandlePairResult`: a status, and on success the two new handles. -/
structure HandlePairResult where
  status : MxStatus
  handles : Option (ℕ × ℕ)

/-- A `HandleResult`: a status, and on success the new handle. -/
structure HandleResult where
  status : MxStatus
  handle : Option ℕ

/-- A `WriteResult`: a status and, once the kernel was called, the count it reported. -/
structure WriteResult where
  status : MxStatus
  numBytes : Option ℕ

/-- A `GetSizeResult`: a status and, once the kernel was called, the size it reported. -/
structure GetSizeResult where
  status : MxStatus
  size : Option ℕ

/-- The order in which the arguments of one call are evaluated, which C++ leaves unspecified. -/
inductive ArgumentOrder where
  | leftToRight
  | rightToLeft
deriving DecidableEq, Repr

/-- The addresses the two `Handle`s of a pair get, `out0`'s first, when the first address never
used is `next`. -/
def ArgumentOrder.refs : ArgumentOrder → ℕ → ℕ × ℕ
  | .leftToRight, next => (next, next + 1)
  | .rightToLeft, next => (next + 1, next)

/-- The shape `ChannelCreate`, `EventpairCreate` and `SocketCreate` share: ask the kernel for a
pair with some options and, on success, wrap both ends in new handles. The two
`Handle::Create` calls are arguments of one `ConstructDartObject` call, so they run in the
compiler's `order`. -/
def createPair (order : ArgumentOrder) (create : K → ℕ → (MxStatus × MxHandle × MxHandle) × K)
    (kernel : K) (heap : Heap) (options : ℕ) : Outcome K HandlePairResult :=
  let ((status, out0, out1), kernel) := create kernel options
  if status ≠ mxOk then ⟨⟨status, none⟩, kernel, heap, []⟩
  else
    match order with
    | .leftToRight =>
      let (first, heap) := heap.create out0
      let (second, heap) := heap.create out1
      ⟨⟨status, some (first, second)⟩, kernel, heap, []⟩
    | .rightToLeft =>
      let (second, heap) := heap.create out1
      let (first, heap) := heap.create out0
      ⟨⟨status, some (first, second)⟩, kernel, heap, []⟩

/-- The heap after the two `Handle::Create` calls of a pair, in `order`. -/
def ArgumentOrder.createBoth (order : ArgumentOrder) (heap : Heap) (out0 out1 : MxHandle) : Heap :=
  match order with
  | .leftToRight => ((heap.create out0).2.create out1).2
  | .rightToLeft => ((heap.create out1).2.create out0).2

namespace ArgumentOrder

variable (order : ArgumentOrder) (heap : Heap) (out0 out1 : MxHandle)

@[simp] theorem createBoth_next : (order.createBoth heap out0 out1).next = heap.next + 2 := by
  cases order <;> rfl

@[simp] theorem createBoth_first :
    (order.createBoth heap out0 out1).handleOf (order.refs heap.next).1 = out0 := by
  cases order <;> simp [createBoth, refs, Function.update_noteq]

@[simp] theorem createBoth_second :
    (order.createBoth heap out0 out1).handleOf (order.refs heap.next).2 = out1 := by
  cases order <;> simp [createBoth, refs, Function.update_noteq]

/-- Both new ends, when valid, join what the Dart side holds, in either order. -/
theorem held_createBoth (valid0 : out0 ≠ mxHandleInvalid) (valid1 : out1 ≠ mxHandleInvalid) :
    List.Perm (order.createBoth heap out0 out1).held (heap.held ++ [out0, out1]) := by
  cases order
  · rw [createBoth, Heap.held_create valid1, Heap.held_create valid0, List.append_assoc]
    rfl
  · rw [createBoth, Heap.held_create valid0, Heap.held_create valid1, List.append_assoc]
    exact List.Perm.append_left _ (List.Perm.swap _ _ _)

end ArgumentOrder

/-- A pair the kernel grants gets two new `Handle`s, at the addresses `order` gives them. -/
theorem createPair_of_ok {order : ArgumentOrder}
    {create : K → ℕ → (MxStatus × MxHandle × MxHandle) × K} {kernel made : K} {heap : Heap}
    {options : ℕ} {out0 out1 : MxHandle} (answer : create kernel options = ((mxOk, out0, out1), made)) :
    createPair order create kernel heap options =
      ⟨⟨mxOk, some (order.refs heap.next)⟩, made, order.createBoth heap out0 out1, []⟩ := by
  cases order <;> simp [createPair, answer, ArgumentOrder.refs, ArgumentOrder.createBoth]

/-- `System::ChannelCreate(options)`. -/
def channelCreate (order : ArgumentOrder) (create : K → ℕ → (MxStatus × MxHandle × MxHandle) × K)
    (kernel : K) (heap : Heap) (options : ℕ) : Outcome K HandlePairResult :=
  createPair order create kernel heap options

/-- `System::EventpairCreate(options)`, which passes `0` to the kernel rather than `options`. -/
def eventpairCreate (order : ArgumentOrder)
    (create : K → ℕ → (MxStatus × MxHandle × MxHandle) × K) (kernel : K) (heap : Heap)
    (_options : ℕ) : Outcome K HandlePairResult :=
  createPair order create kernel heap 0

/-- `System::SocketCreate(options)`. -/
def socketCreate (order : ArgumentOrder) (create : K → ℕ → (MxStatus × MxHandle × MxHandle) × K)
    (kernel : K) (heap : Heap) (options : ℕ) : Outcome K HandlePairResult :=
  createPair order create kernel heap options

/-- `System::ChannelWrite(channel, data, handles)`: the listed handles are released only once the
kernel accepted the message. -/
def channelWrite (write : K → MxHandle → Message → MxStatus × K) (kernel : K) (heap : Heap)
    (channel : Option ℕ) (data : List UInt8) (handles : List ℕ) : Outcome K MxStatus :=
  match heap.resolve channel with
  | none => ⟨mxErrBadHandle, kernel, heap, []⟩
  | some value =>
    let message : Message := ⟨data, handles.map heap.handleOf⟩
    let (status, kernel) := write kernel value message
    ⟨status, kernel, if status = mxOk then heap.releaseAll handles else heap,
      [.channelWrite value message]⟩

/-- `System::ChannelQueryAndRead(channel)`: a read with empty buffers asks the size of the next
message, then a read into buffers of that size takes it. -/
def channelQueryAndRead (read : K → MxHandle → Ptr → ℕ → ℕ → ChannelRead × K) (vm : DartVm)
    (kernel : K) (heap : Heap) (channel : Option ℕ) : Outcome K ReadResult :=
  match heap.resolve channel with
  | none => ⟨⟨mxErrBadHandle, none⟩, kernel, heap, []⟩
  | some value =>
    let (query, kernel) := read kernel value 0 0 0
    let queried := [Call.channelRead value 0 0 0]
    if query.status ≠ mxErrBufferTooSmall then ⟨⟨query.status, none⟩, kernel, heap, queried⟩
    else
      let (bytes, constructed) := ByteDataScope.create vm query.actualBytes
      let (out, kernel) := read kernel value bytes.data bytes.size query.actualHandles
      let (released, releasing) := bytes.release
      let calls := queried ++ constructed ++ [.check bytes.isValid,
        .channelRead value bytes.data bytes.size query.actualHandles,
        .check (out.status != mxOk || bytes.size == out.actualBytes)] ++ releasing
      if out.status = mxOk then
        let (list, heap) :=
          makeHandleList vm heap (fill mxHandleInvalid query.actualHandles out.handles)
        ⟨⟨out.status, some ⟨released.dartHandle out.bytes, out.actualBytes, some list⟩⟩, kernel,
          heap, calls ++ .check (query.actualHandles == out.actualHandles) :: released.destroy⟩
      else ⟨⟨out.status, none⟩, kernel, heap, calls ++ released.destroy⟩

/-- `System::SocketWrite(socket, data, options)`; `data.Release()` runs on both paths. -/
def socketWrite (write : K → MxHandle → ℤ → List UInt8 → (MxStatus × ℕ) × K) (kernel : K)
    (heap : Heap) (socket : Option ℕ) (data : List UInt8) (options : ℤ) :
    Outcome K WriteResult :=
  match heap.resolve socket with
  | none => ⟨⟨mxErrBadHandle, none⟩, kernel, heap, [.byteDataRelease]⟩
  | some value =>
    let ((status, actual), kernel) := write kernel value options data
    ⟨⟨status, some actual⟩, kernel, heap, [.byteDataRelease]⟩

/-- `System::SocketRead(socket, size)`: reports the `actual` count of the kernel. -/
def socketRead (read : K → MxHandle → Ptr → ℕ → BytesRead × K) (vm : DartVm) (kernel : K)
    (heap : Heap) (socket : Option ℕ) (size : ℕ) : Outcome K ReadResult :=
  match heap.resolve socket with
  | none => ⟨⟨mxErrBadHandle, none⟩, kernel, heap, []⟩
  | some value =>
    let (bytes, constructed) := ByteDataScope.create vm size
    let (out, kernel) := read kernel value bytes.data size
    let (released, releasing) := bytes.release
    let calls := constructed ++ .socketRead value bytes.data size :: releasing
    if out.status = mxOk then
      ⟨⟨out.status, some ⟨released.dartHandle out.stored, out.actual, none⟩⟩, kernel, heap,
        calls ++ .check (decide (out.actual ≤ size)) :: released.destroy⟩
    else ⟨⟨out.status, none⟩, kernel, heap, calls ++ released.destroy⟩

/-- `System::VmoCreate(size, options)`. -/
def vmoCreate (create : K → ℕ → ℕ → (MxStatus × MxHandle) × K) (kernel : K) (heap : Heap)
    (size options : ℕ) : Outcome K HandleResult :=
  let ((status, vmo), kernel) := create kernel size options
  if status ≠ mxOk then ⟨⟨status, none⟩, kernel, heap, []⟩
  else
    let (ref, heap) := heap.create vmo
    ⟨⟨status, some ref⟩, kernel, heap, []⟩

/-- `System::VmoGetSize(vmo)`. -/
def vmoGetSize (getSize : K → MxHandle → (MxStatus × ℕ) × K) (kernel : K) (heap : Heap)
    (vmo : Option ℕ) : Outcome K GetSizeResult :=
  match heap.resolve vmo with
  | none => ⟨⟨mxErrBadHandle, none⟩, kernel, heap, []⟩
  | some value =>
    let ((status, size), kernel) := getSize kernel value
    ⟨⟨status, some size⟩, kernel, heap, []⟩

/-- `System::VmoSetSize(vmo, size)`. -/
def vmoSetSize (setSize : K → MxHandle → ℕ → MxStatus × K) (kernel : K) (heap : Heap)
    (vmo : Option ℕ) (size : ℕ) : Outcome K MxStatus :=
  match heap.resolve vmo with
  | none => ⟨mxErrBadHandle, kernel, heap, []⟩
  | some value =>
    let (status, kernel) := setSize kernel value size
    ⟨status, kernel, heap, []⟩

/-- `System::VmoWrite(vmo, offset, data)`. -/
def vmoWrite (write : K → MxHandle → List UInt8 → ℕ → (MxStatus × ℕ) × K) (kernel : K)
    (heap : Heap) (vmo : Option ℕ) (offset : ℕ) (data : List UInt8) : Outcome K WriteResult :=
  match heap.resolve vmo with
  | none => ⟨⟨mxErrBadHandle, none⟩, kernel, heap, []⟩
  | some value =>
    let ((status, actual), kernel) := write kernel value data offset
    ⟨⟨status, some actual⟩, kernel, heap, []⟩

/-- `System::VmoRead(vmo, offset, size)`: reports `bytes.size()`, read after `bytes.Release()`. -/
def vmoRead (read : K → MxHandle → Ptr → ℕ → ℕ → BytesRead × K) (vm : DartVm) (kernel : K)
    (heap : Heap) (vmo : Option ℕ) (offset size : ℕ) : Outcome K ReadResult :=
  match heap.resolve vmo with
  | none => ⟨⟨mxErrBadHandle, none⟩, kernel, heap, []⟩
  | some value =>
    let (bytes, constructed) := ByteDataScope.create vm size
    let (out, kernel) := read kernel value bytes.data offset size
    let (released, releasing) := bytes.release
    let calls := constructed ++ .vmoRead value bytes.data offset size :: releasing
    if out.status = mxOk then
      ⟨⟨out.status, some ⟨released.dartHandle out.stored, released.size, none⟩⟩, kernel, heap,
        calls ++ .check (decide (out.actual ≤ size)) :: released.destroy⟩
    else ⟨⟨out.status, none⟩, kernel, heap, calls ++ released.destroy⟩

end Fidl.Dart
