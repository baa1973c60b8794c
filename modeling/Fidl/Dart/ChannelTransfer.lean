import Fidl.Dart.SystemLaws

/-! # One call on one end of a channel

What `ChannelWrite` and `ChannelQueryAndRead` do on a live end, over the kernel's first-in
first-out queues. A write the kernel accepts appends its message to the peer's queue and releases
the listed `Handle`s. A read takes the head of its queue whole or not at all: the query reports its
size, a second read into buffers of that size takes it, and each handle it carries is wrapped in a
new `Handle`. Whatever the VM grants, a read takes the whole head or nothing and wraps a prefix of
its handles; with an empty `ByteData` and every handle list granted, it delivers exactly what it
takes.
-/

namespace Fidl.Dart

/-- The message a `ReadResult` delivers, with the values its `Handle`s hold in `heap`: the empty
message for `MX_OK` with no payload, and nothing for an error. -/
def ReadResult.message (heap : Heap) (result : ReadResult) : List Message :=
  if result.status = mxOk then
    match result.payload with
    | none => [⟨[], []⟩]
    | some ⟨.bytes bytes, _, some (.handles refs)⟩ => [⟨bytes, refs.map heap.handleOf⟩]
    | some _ => []
  else []

section Read

variable {vm : DartVm} {kernel : Channels} {heap : Heap} {channel : Option ℕ}
  {value peer : MxHandle} {message : Message} {rest : List Message}

/-- On an empty queue the query's `MX_ERR_SHOULD_WAIT` is returned and nothing is taken. -/
theorem channelQueryAndRead_of_queue_nil (resolved : heap.resolve channel = some value)
    (connected : kernel.peer value = some peer) (empty : kernel.queue value = []) :
    channelQueryAndRead Channels.read vm kernel heap channel =
      ⟨⟨mxErrShouldWait, none⟩, kernel, heap, [.channelRead value 0 0 0]⟩ := by
  simp [channelQueryAndRead, resolved, Channels.read_of_queue_nil connected empty]

/-- A message with no bytes and no handles fits the query's empty buffers and is taken by it. -/
theorem channelQueryAndRead_of_empty_message (resolved : heap.resolve channel = some value)
    (connected : kernel.peer value = some peer) (head : kernel.queue value = ⟨[], []⟩ :: rest) :
    channelQueryAndRead Channels.read vm kernel heap channel =
      ⟨⟨mxOk, none⟩, kernel.setQueue value rest, heap, [.channelRead value 0 0 0]⟩ := by
  simp [channelQueryAndRead, resolved,
    Channels.read_of_fits connected head 0 (Nat.zero_le 0) (Nat.zero_le 0)]

/-- A buffer too small for the head, as a refusing VM gives, leaves everything as it was and
reports `MX_ERR_BUFFER_TOO_SMALL`. -/
theorem channelQueryAndRead_of_small_buffer (resolved : heap.resolve channel = some value)
    (connected : kernel.peer value = some peer) (head : kernel.queue value = message :: rest)
    (nonempty : message ≠ ⟨[], []⟩)
    (small : ¬message.bytes.length ≤ (ByteDataScope.create vm message.bytes.length).1.size) :
    (channelQueryAndRead Channels.read vm kernel heap channel).result =
        ⟨mxErrBufferTooSmall, none⟩ ∧
      (channelQueryAndRead Channels.read vm kernel heap channel).kernel = kernel ∧
      (channelQueryAndRead Channels.read vm kernel heap channel).heap = heap := by
  have stillSmall : ¬(message.bytes.length ≤ (ByteDataScope.create vm message.bytes.length).1.size ∧
      message.handles.length ≤ message.handles.length) := fun fits => small fits.1
  simp [channelQueryAndRead, resolved, Channels.read_query connected head 0 nonempty,
    Channels.read_of_too_small connected head _ stillSmall]

/-- A buffer that holds the head takes it whole, each of its handles in a new `Handle`, once the
VM created the `ByteData` and the handle list. -/
theorem channelQueryAndRead_of_large_buffer (lists : vm.newList message.handles.length = true)
    (resolved : heap.resolve channel = some value) (connected : kernel.peer value = some peer)
    (head : kernel.queue value = message :: rest) (nonempty : message ≠ ⟨[], []⟩)
    (large : message.bytes.length ≤ (ByteDataScope.create vm message.bytes.length).1.size)
    (object : (ByteDataScope.create vm message.bytes.length).1.object =
      some message.bytes.length) :
    (channelQueryAndRead Channels.read vm kernel heap channel).result.message
        (channelQueryAndRead Channels.read vm kernel heap channel).heap = [message] ∧
      (channelQueryAndRead Channels.read vm kernel heap channel).kernel =
        kernel.setQueue value rest ∧
      (channelQueryAndRead Channels.read vm kernel heap channel).heap =
        (heap.createAll message.handles).2 := by
  simp [channelQueryAndRead, resolved, Channels.read_query connected head 0 nonempty,
    Channels.read_of_fits connected head _ large (Nat.le_refl _), ReadResult.message,
    ByteDataScope.dartHandle, object, fill_of_length, makeHandleList_of_newList lists,
    Heap.createAll_values]

/-- Whatever the VM grants, a `ChannelQueryAndRead` on a live handle delivers exactly what it
takes from the front of its queue, the whole head or nothing, touches no other queue and adds one
new handle for each handle value it delivers. This needs the VM to create an empty `ByteData` and
every handle list. -/
theorem channelQueryAndRead_takes (created : (vm.typedData 0).created = true)
    (lists : ∀ length, vm.newList length = true) (resolved : heap.resolve channel = some value) :
    (channelQueryAndRead Channels.read vm kernel heap channel).result.message
        (channelQueryAndRead Channels.read vm kernel heap channel).heap ++
        (channelQueryAndRead Channels.read vm kernel heap channel).kernel.queue value =
      kernel.queue value ∧
    (channelQueryAndRead Channels.read vm kernel heap channel).kernel.peer = kernel.peer ∧
    (∀ other ≠ value,
      (channelQueryAndRead Channels.read vm kernel heap channel).kernel.queue other =
        kernel.queue other) ∧
    (channelQueryAndRead Channels.read vm kernel heap channel).heap =
      (heap.createAll (((channelQueryAndRead Channels.read vm kernel heap channel).result.message
        (channelQueryAndRead Channels.read vm kernel heap channel).heap).flatMap
          Message.handles)).2 := by
  cases connected : kernel.peer value with
  | none =>
    simp only [channelQueryAndRead, resolved, Channels.read, connected]
    exact ⟨by simp [ReadResult.message], rfl, fun _ _ => rfl, by simp [ReadResult.message, Heap.createAll]⟩
  | some peer =>
    cases head : kernel.queue value with
    | nil =>
      rw [channelQueryAndRead_of_queue_nil resolved connected head]
      exact ⟨by simp [ReadResult.message, head], rfl, fun _ _ => rfl,
        by simp [ReadResult.message, Heap.createAll]⟩
    | cons message rest =>
      by_cases empty : message = ⟨[], []⟩
      · subst empty
        rw [channelQueryAndRead_of_empty_message resolved connected head]
        exact ⟨by simp [ReadResult.message], rfl,
          fun _ distinct => Channels.setQueue_queue_of_ne _ _ distinct,
          by simp [ReadResult.message, Heap.createAll]⟩
      · by_cases large : message.bytes.length ≤ (ByteDataScope.create vm message.bytes.length).1.size
        · have object : (ByteDataScope.create vm message.bytes.length).1.object =
              some message.bytes.length := by
            rcases Nat.eq_zero_or_pos message.bytes.length with zero | positive
            · rw [zero]
              simp [ByteDataScope.create, created]
            · exact ByteDataScope.create_object_of_size_pos (Nat.lt_of_lt_of_le positive large)
          obtain ⟨delivered, taken, made⟩ :=
            channelQueryAndRead_of_large_buffer (lists _) resolved connected head empty large object
          rw [delivered, taken, made]
          exact ⟨by simp, rfl, fun _ distinct => Channels.setQueue_queue_of_ne _ _ distinct,
            by simp⟩
        · obtain ⟨result, same, unchanged⟩ :=
            channelQueryAndRead_of_small_buffer resolved connected head empty large
          rw [result, same, unchanged]
          exact ⟨by simp [ReadResult.message, head], rfl, fun _ _ => rfl,
            by simp [ReadResult.message, Heap.createAll]⟩

/-- Whatever the VM grants, a `ChannelQueryAndRead` on a live handle either changes nothing, or
takes the head of its queue whole and wraps a prefix of its handles in new `Handle`s: none when
`Dart_NewList` fails, those before the first store that fails, or all. -/
theorem channelQueryAndRead_cases (vm : DartVm) (kernel : Channels)
    (resolved : heap.resolve channel = some value) :
    ((channelQueryAndRead Channels.read vm kernel heap channel).kernel = kernel ∧
      (channelQueryAndRead Channels.read vm kernel heap channel).heap = heap) ∨
    ∃ message rest, kernel.queue value = message :: rest ∧
      (channelQueryAndRead Channels.read vm kernel heap channel).kernel =
        kernel.setQueue value rest ∧
      ∃ count ≤ message.handles.length,
        (channelQueryAndRead Channels.read vm kernel heap channel).heap =
          (heap.createAll (message.handles.take count)).2 := by
  cases connected : kernel.peer value with
  | none => exact .inl (by simp [channelQueryAndRead, resolved, Channels.read, connected])
  | some peer =>
    cases head : kernel.queue value with
    | nil => exact .inl (by simp [channelQueryAndRead_of_queue_nil resolved connected head])
    | cons message rest =>
      by_cases empty : message = ⟨[], []⟩
      · subst empty
        rw [channelQueryAndRead_of_empty_message resolved connected head]
        exact .inr ⟨_, _, rfl, rfl, 0, Nat.zero_le _, rfl⟩
      by_cases large : message.bytes.length ≤ (ByteDataScope.create vm message.bytes.length).1.size
      · obtain ⟨count, within, made⟩ := @makeHandleList_heap vm heap message.handles
        refine .inr ⟨message, rest, rfl, ?_, count, within, ?_⟩ <;>
          simp [channelQueryAndRead, resolved, Channels.read_query connected head 0 empty,
            Channels.read_of_fits connected head _ large (Nat.le_refl _), fill_of_length, made]
      · exact .inl (channelQueryAndRead_of_small_buffer resolved connected head empty large).2

/-- Whatever the VM grants, a `ChannelQueryAndRead` never reconnects an end. -/
theorem channelQueryAndRead_peer (vm : DartVm) :
    (channelQueryAndRead Channels.read vm kernel heap channel).kernel.peer = kernel.peer := by
  cases resolved : heap.resolve channel with
  | none => simp [channelQueryAndRead, resolved]
  | some value =>
    rcases channelQueryAndRead_cases vm kernel resolved with ⟨same, -⟩ | ⟨_, _, -, taken, -⟩
    · rw [same]
    · rw [taken, Channels.setQueue_peer]

end Read

section Write

variable (policy : WritePolicy) {kernel : Channels} {heap : Heap} {channel : Option ℕ}
  {value peer : MxHandle} (data : List UInt8) (handles : List ℕ)

/-- A `ChannelWrite` on a live end either appends its message to the peer's queue, releases the
listed handles and returns `MX_OK`, or returns an error and changes nothing. -/
theorem channelWrite_appends (resolved : heap.resolve channel = some value)
    (connected : kernel.peer value = some peer) :
    channelWrite (fun kernel channel => kernel.write channel policy) kernel heap channel data
        handles =
      ⟨mxOk, kernel.setQueue peer (kernel.queue peer ++ [⟨data, handles.map heap.handleOf⟩]),
        heap.releaseAll handles, [.channelWrite value ⟨data, handles.map heap.handleOf⟩]⟩ ∨
    (channelWrite (fun kernel channel => kernel.write channel policy) kernel heap channel data
        handles).result ≠ mxOk ∧
      (channelWrite (fun kernel channel => kernel.write channel policy) kernel heap channel data
        handles).kernel = kernel ∧
      (channelWrite (fun kernel channel => kernel.write channel policy) kernel heap channel data
        handles).heap = heap := by
  simp only [channelWrite, resolved]
  rcases Channels.write_cases kernel value policy ⟨data, handles.map heap.handleOf⟩ with
    ⟨found, linked, written⟩ | ⟨refused, unchanged⟩
  · rw [connected, Option.some.injEq] at linked
    subst linked
    simp [written]
  · exact .inr ⟨refused, unchanged, if_neg refused⟩

/-- Whatever the kernel refuses, a `ChannelWrite` never reconnects an end. -/
theorem channelWrite_peer :
    (channelWrite (fun kernel channel => kernel.write channel policy) kernel heap channel data
      handles).kernel.peer = kernel.peer := by
  cases resolved : heap.resolve channel with
  | none => simp [channelWrite, resolved]
  | some value =>
    simp only [channelWrite, resolved]
    rcases Channels.write_cases kernel value policy ⟨data, handles.map heap.handleOf⟩ with
      ⟨_, -, written⟩ | ⟨-, unchanged⟩
    · rw [written, Channels.setQueue_peer]
    · rw [unchanged]

end Write

end Fidl.Dart
