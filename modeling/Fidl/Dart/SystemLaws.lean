import Fidl.Dart.System

/-! # Laws of the system calls

What every entry point does with a null or invalid handle, what `ChannelWrite` does with the handles
it transfers, which byte count each read reports, and what the reads do with a buffer the VM did
not grant. The reads release their buffer unconditionally: `Release` runs, and calls
`Dart_TypedDataReleaseData`, also when `ByteDataScope` never acquired one.
-/

namespace Fidl.Dart

variable {K : Type}

section Guard

variable (channelWriteK : K → MxHandle → Message → MxStatus × K)
  (channelReadK : K → MxHandle → Ptr → ℕ → ℕ → ChannelRead × K)
  (socketWriteK : K → MxHandle → ℤ → List UInt8 → (MxStatus × ℕ) × K)
  (socketReadK : K → MxHandle → Ptr → ℕ → BytesRead × K)
  (getSize : K → MxHandle → (MxStatus × ℕ) × K) (setSize : K → MxHandle → ℕ → MxStatus × K)
  (vmoWriteK : K → MxHandle → List UInt8 → ℕ → (MxStatus × ℕ) × K)
  (vmoReadK : K → MxHandle → Ptr → ℕ → ℕ → BytesRead × K) (vm : DartVm) (kernel : K) (heap : Heap)

/-- Every entry point that takes a handle answers a null or invalid one with
`MX_ERR_BAD_HANDLE`, makes no kernel call and changes nothing; `SocketWrite` still releases its
data. -/
theorem rejects_invalid_handle {handle : Option ℕ} (rejected : heap.resolve handle = none)
    (data : List UInt8) (handles : List ℕ) (options : ℤ) (offset size : ℕ) :
    channelWrite channelWriteK kernel heap handle data handles =
      ⟨mxErrBadHandle, kernel, heap, []⟩ ∧
    channelQueryAndRead channelReadK vm kernel heap handle =
      ⟨⟨mxErrBadHandle, none⟩, kernel, heap, []⟩ ∧
    socketWrite socketWriteK kernel heap handle data options =
      ⟨⟨mxErrBadHandle, none⟩, kernel, heap, [.byteDataRelease]⟩ ∧
    socketRead socketReadK vm kernel heap handle size = ⟨⟨mxErrBadHandle, none⟩, kernel, heap, []⟩ ∧
    vmoGetSize getSize kernel heap handle = ⟨⟨mxErrBadHandle, none⟩, kernel, heap, []⟩ ∧
    vmoSetSize setSize kernel heap handle size = ⟨mxErrBadHandle, kernel, heap, []⟩ ∧
    vmoWrite vmoWriteK kernel heap handle offset data = ⟨⟨mxErrBadHandle, none⟩, kernel, heap, []⟩ ∧
    vmoRead vmoReadK vm kernel heap handle offset size =
      ⟨⟨mxErrBadHandle, none⟩, kernel, heap, []⟩ := by
  simp only [channelWrite, channelQueryAndRead, socketWrite, socketRead, vmoGetSize, vmoSetSize,
    vmoWrite, vmoRead, rejected, and_self]

end Guard

section Heap

variable (kernel : K) (heap : Heap)

theorem createPair_extends (order : ArgumentOrder)
    (create : K → ℕ → (MxStatus × MxHandle × MxHandle) × K) (options : ℕ) :
    heap.Extends (createPair order create kernel heap options).heap := by
  simp only [createPair]
  split
  · exact .refl heap
  · cases order <;> exact (Heap.extends_create _ _).trans (Heap.extends_create _ _)

theorem vmoCreate_extends (create : K → ℕ → ℕ → (MxStatus × MxHandle) × K) (size options : ℕ) :
    heap.Extends (vmoCreate create kernel heap size options).heap := by
  simp only [vmoCreate]
  split
  · exact .refl heap
  · exact Heap.extends_create _ _

/-- A `ChannelWrite` leaves the heap as it was, or releases exactly the handles it lists. -/
theorem channelWrite_heap_cases (write : K → MxHandle → Message → MxStatus × K)
    (channel : Option ℕ) (data : List UInt8) (handles : List ℕ) :
    (channelWrite write kernel heap channel data handles).heap = heap ∨
      (channelWrite write kernel heap channel data handles).heap = heap.releaseAll handles := by
  simp only [channelWrite]
  split
  · exact .inl rfl
  · split
    · exact .inr rfl
    · exact .inl rfl

/-- Whatever the kernel and the VM do, a `ChannelQueryAndRead` only adds handles. -/
theorem channelQueryAndRead_extends (read : K → MxHandle → Ptr → ℕ → ℕ → ChannelRead × K)
    (vm : DartVm) (channel : Option ℕ) :
    heap.Extends (channelQueryAndRead read vm kernel heap channel).heap := by
  simp only [channelQueryAndRead]
  split
  · exact .refl heap
  · split
    · exact .refl heap
    · split
      · obtain ⟨count, -, made⟩ := @makeHandleList_heap vm heap _
        rw [made]
        exact Heap.extends_createAll _
      · exact .refl heap

end Heap

/-- `EventpairCreate` ignores its `options`: the kernel is asked for a pair with options `0`
whatever they are. -/
theorem eventpairCreate_ignores_options (order : ArgumentOrder)
    (create : K → ℕ → (MxStatus × MxHandle × MxHandle) × K) (kernel : K) (heap : Heap)
    (options other : ℕ) :
    eventpairCreate order create kernel heap options =
      eventpairCreate order create kernel heap other :=
  rfl

section ChannelWrite

variable (write : K → MxHandle → Message → MxStatus × K) (kernel : K) (heap : Heap)
  (channel : Option ℕ) (data : List UInt8) (handles : List ℕ)

/-- `ChannelWrite` either rejects the channel, or sends the message and releases the listed
handles exactly when the kernel accepted it. -/
theorem channelWrite_cases :
    (heap.resolve channel = none ∧
      channelWrite write kernel heap channel data handles = ⟨mxErrBadHandle, kernel, heap, []⟩) ∨
    ∃ value, heap.resolve channel = some value ∧
      channelWrite write kernel heap channel data handles =
        ⟨(write kernel value ⟨data, handles.map heap.handleOf⟩).1,
          (write kernel value ⟨data, handles.map heap.handleOf⟩).2,
          if (write kernel value ⟨data, handles.map heap.handleOf⟩).1 = mxOk then
            heap.releaseAll handles else heap,
          [.channelWrite value ⟨data, handles.map heap.handleOf⟩]⟩ := by
  cases resolved : heap.resolve channel with
  | none => exact .inl ⟨rfl, by simp [channelWrite, resolved]⟩
  | some value => exact .inr ⟨value, rfl, by simp [channelWrite, resolved]⟩

/-- On a kernel that refuses a message carrying the handle of the channel written to, a write
that lists the channel's own `Handle` is refused. -/
theorem channelWrite_refused_of_listed
    (refusesSelf : ∀ kernel value message, value ∈ message.handles → (write kernel value message).1 ≠ mxOk)
    {ref : ℕ} {value : MxHandle} (resolved : heap.resolve (some ref) = some value)
    (listed : ref ∈ handles) : (write kernel value ⟨data, handles.map heap.handleOf⟩).1 ≠ mxOk := by
  obtain ⟨_, found, rfl, -⟩ := Heap.resolve_eq_some.mp resolved
  cases found
  exact refusesSelf kernel _ _ (List.mem_map_of_mem _ listed)

/-- On a kernel that refuses a message carrying the handle of the channel written to, as
Magenta's does, `ChannelWrite` releases the listed handles exactly when it returns `MX_OK`. A null
or invalid channel gives `MX_ERR_BAD_HANDLE` with no kernel call; otherwise the status is the
kernel's. On failure no handle changes. On every outcome the channel's own handle and every
unlisted handle keep their values. -/
theorem channelWrite_transfer
    (refusesSelf : ∀ kernel value message, value ∈ message.handles → (write kernel value message).1 ≠ mxOk) :
    ((channelWrite write kernel heap channel data handles).result = mxOk →
      ∀ ref ∈ handles,
        (channelWrite write kernel heap channel data handles).heap.handleOf ref = mxHandleInvalid) ∧
    ((channelWrite write kernel heap channel data handles).result ≠ mxOk →
      (channelWrite write kernel heap channel data handles).heap = heap) ∧
    (heap.resolve channel = none →
      channelWrite write kernel heap channel data handles = ⟨mxErrBadHandle, kernel, heap, []⟩) ∧
    (∀ value, heap.resolve channel = some value →
      (channelWrite write kernel heap channel data handles).result =
        (write kernel value ⟨data, handles.map heap.handleOf⟩).1) ∧
    (∀ ref, ref ∉ handles →
      (channelWrite write kernel heap channel data handles).heap.handleOf ref = heap.handleOf ref) ∧
    (∀ ref, channel = some ref →
      (channelWrite write kernel heap channel data handles).heap.handleOf ref = heap.handleOf ref) := by
  rcases channelWrite_cases write kernel heap channel data handles with
    ⟨rejected, same⟩ | ⟨value, resolved, same⟩
  · rw [same]
    exact ⟨fun ok => absurd ok mxErrBadHandle_ne_ok, fun _ => rfl, fun _ => rfl,
      fun _ accepted => by simp [rejected] at accepted, fun _ _ => rfl, fun _ _ => rfl⟩
  · rw [same]
    by_cases ok : (write kernel value ⟨data, handles.map heap.handleOf⟩).1 = mxOk
    · rw [if_pos ok]
      refine ⟨fun _ ref listed => by simp [Heap.releaseAll_handleOf, listed],
        fun notOk => absurd ok notOk, fun rejected => by simp [resolved] at rejected,
        fun other accepted => by rw [resolved] at accepted; cases accepted; rfl,
        fun ref unlisted => by simp [Heap.releaseAll_handleOf, unlisted], ?_⟩
      rintro ref rfl
      have unlisted : ref ∉ handles := fun listed =>
        channelWrite_refused_of_listed write kernel heap data handles refusesSelf resolved listed ok
      simp [Heap.releaseAll_handleOf, unlisted]
    · rw [if_neg ok]
      exact ⟨fun accepted => absurd accepted ok, fun _ => rfl,
        fun rejected => by simp [resolved] at rejected,
        fun other accepted => by rw [resolved] at accepted; cases accepted; rfl,
        fun _ _ => rfl, fun _ _ => rfl⟩

/-- A write that lists its own channel's `Handle` beside another, on a kernel that refuses such
a message: the call fails and every `Handle` keeps its value. -/
theorem channelWrite_transfer_self_listed :
    let write := fun (kernel : Unit) (value : MxHandle) (message : Message) =>
      (if value ∈ message.handles then mxErrBadHandle else mxOk, kernel)
    (channelWrite write () (Heap.ofList [5, 6]) (some 0) [] [0, 1]).result = mxErrBadHandle ∧
      (channelWrite write () (Heap.ofList [5, 6]) (some 0) [] [0, 1]).heap.handleOf 0 = 5 :=
  ⟨rfl, (channelWrite_transfer _ () (Heap.ofList [5, 6]) (some 0) [] [0, 1]
    (fun _ _ _ listed => by simp [listed, mxErrBadHandle_ne_ok])).2.2.2.2.2 0 rfl⟩

/-- On a kernel that never accepts a message carrying the handle of the channel written to, as
Magenta's does not, the channel's own handle survives every write. -/
theorem channelWrite_keeps_channel
    (refusesSelf : ∀ kernel value message, value ∈ message.handles → (write kernel value message).1 ≠ mxOk)
    {ref : ℕ} (named : channel = some ref) :
    (channelWrite write kernel heap channel data handles).heap.handleOf ref = heap.handleOf ref := by
  subst named
  rcases channelWrite_cases write kernel heap (some ref) data handles with
    ⟨-, same⟩ | ⟨value, resolved, same⟩
  · rw [same]
  · rw [same]
    by_cases listed : ref ∈ handles
    · rw [if_neg (channelWrite_refused_of_listed write kernel heap data handles refusesSelf resolved
        listed)]
    · dsimp only
      split <;> simp [Heap.releaseAll_handleOf, listed]

end ChannelWrite

/-- A write that lists the channel's own `Handle`, on a kernel that refuses such a message, leaves
the channel's handle in place. -/
theorem channelWrite_keeps_channel_listed :
    (channelWrite (fun (kernel : Unit) value message =>
        (if value ∈ message.handles then mxErrBadHandle else mxOk, kernel)) () (Heap.ofList [5])
      (some 0) [] [0]).heap.handleOf 0 = 5 :=
  channelWrite_keeps_channel _ () (Heap.ofList [5]) (some 0) [] [0]
    (fun _ _ _ listed => by simp [listed, mxErrBadHandle_ne_ok]) rfl

end Fidl.Dart

namespace Fidl.Dart

variable {K : Type}

section Reads

variable (vm : DartVm) (kernel : K) (heap : Heap) (offset size : ℕ)

/-- Whatever the kernel and the VM do, a successful `VmoRead` reports zero bytes: it reads
`bytes.size()` after `Release` zeroed it. -/
theorem vmoRead_numBytes_zero (read : K → MxHandle → Ptr → ℕ → ℕ → BytesRead × K)
    (vmo : Option ℕ) {payload : ReadPayload}
    (reported : (vmoRead read vm kernel heap vmo offset size).result.payload = some payload) :
    payload.numBytes = 0 := by
  cases resolved : heap.resolve vmo with
  | none => simp [vmoRead, resolved] at reported
  | some value =>
    simp only [vmoRead, resolved] at reported
    split at reported
    · cases reported; rfl
    · cases reported

/-- A VMO read whole into a granted buffer: the kernel reads four bytes, and `VmoRead` reports
zero where `SocketRead`, given the same answer, reports four. -/
theorem vmoRead_reports_released_size :
    (vmoRead (fun (kernel : Unit) _ _ _ _ => (⟨mxOk, 4, [1, 2, 3, 4]⟩, kernel)) DartVm.granting ()
      (Heap.ofList [9]) (some 0) 0 4).result = ⟨mxOk, some ⟨.bytes [1, 2, 3, 4], 0, none⟩⟩ ∧
    (socketRead (fun (kernel : Unit) _ _ _ => (⟨mxOk, 4, [1, 2, 3, 4]⟩, kernel)) DartVm.granting ()
      (Heap.ofList [9]) (some 0) 4).result = ⟨mxOk, some ⟨.bytes [1, 2, 3, 4], 4, none⟩⟩ :=
  ⟨rfl, rfl⟩

/-- The VM refuses a 16-byte buffer to reads of a valid socket and a valid VMO: both pass the
kernel a null pointer with length 16, fail `FTL_DCHECK(is_valid_)` in `Release` and call
`Dart_TypedDataReleaseData` all the same. `ChannelQueryAndRead`, refused the buffer for a one-byte
message, also releases what it never acquired, and reports `MX_ERR_BUFFER_TOO_SMALL`. -/
theorem reads_release_refused_buffer :
    (socketRead (fun (kernel : Unit) _ _ _ => (⟨mxErrInvalidArgs, 0, []⟩, kernel)) DartVm.refusing ()
      (Heap.ofList [9]) (some 0) 16).calls =
      [.check false, .check false, .socketRead 9 0 16, .check false, .typedDataReleaseData] ∧
    (vmoRead (fun (kernel : Unit) _ _ _ _ => (⟨mxErrInvalidArgs, 0, []⟩, kernel)) DartVm.refusing ()
      (Heap.ofList [9]) (some 0) 0 16).calls =
      [.check false, .check false, .vmoRead 9 0 0 16, .check false, .typedDataReleaseData] ∧
    channelQueryAndRead Channels.read DartVm.refusing ((Channels.connect 1 2).setQueue 2 [⟨[7], []⟩])
      (Heap.ofList [1, 2]) (some 1) =
      ⟨⟨mxErrBufferTooSmall, none⟩, (Channels.connect 1 2).setQueue 2 [⟨[7], []⟩], Heap.ofList [1, 2],
        [.channelRead 2 0 0 0, .check false, .check false, .check false, .channelRead 2 0 0 0,
          .check true, .check false, .typedDataReleaseData]⟩ :=
  ⟨rfl, rfl, rfl⟩

end Reads

end Fidl.Dart
