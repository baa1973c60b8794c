import Fidl.Magenta

/-! # Channels as first-in first-out message queues

The kernel side of a channel, as far as the bindings rely on it: each live endpoint has a peer
and a queue of messages waiting to be read at it. A write appends to the peer's queue unless the
kernel refuses it; which writes it refuses (rights, transferred handles, sizes) is a parameter,
so every result below holds whatever the kernel checks. A read takes the head only when the
caller's buffers hold it, and otherwise reports its size with `MX_ERR_BUFFER_TOO_SMALL`.
-/

namespace Fidl

/-- The kernel's channel state: the peer of each live endpoint and, at each endpoint, the
messages waiting to be read there, oldest first. -/
structure Channels where
  peer : MxHandle → Option MxHandle
  queue : MxHandle → List Message

/-- The kernel's own reasons to refuse a write on a live endpoint. -/
abbrev WritePolicy := MxHandle → Message → Option MxError

/-- What one `mx_channel_read` reports through its status and out-parameters, and what it
stored in the caller's byte and handle buffers. -/
structure ChannelRead where
  status : MxStatus
  actualBytes : ℕ
  actualHandles : ℕ
  bytes : List UInt8
  handles : List MxHandle

namespace Channels

/-- Two endpoints connected to each other, with nothing queued. -/
def connect (endpoint0 endpoint1 : MxHandle) : Channels :=
  ⟨fun handle => if handle = endpoint0 then some endpoint1
    else if handle = endpoint1 then some endpoint0 else none, fun _ => []⟩

variable (kernel : Channels) (channel : MxHandle)

/-- Replace the queue at one endpoint. -/
def setQueue (messages : List Message) : Channels :=
  { kernel with queue := Function.update kernel.queue channel messages }

@[simp] theorem setQueue_peer (messages : List Message) :
    (kernel.setQueue channel messages).peer = kernel.peer := rfl

@[simp] theorem setQueue_queue_self (messages : List Message) :
    (kernel.setQueue channel messages).queue channel = messages := by
  simp [setQueue]

@[simp] theorem setQueue_queue_of_ne {messages : List Message} {other : MxHandle}
    (distinct : other ≠ channel) : (kernel.setQueue channel messages).queue other =
      kernel.queue other := by
  simp [setQueue, distinct]

/-- `mx_channel_write(channel, 0, bytes, handles)`. -/
def write (policy : WritePolicy) (message : Message) : MxStatus × Channels :=
  match kernel.peer channel with
  | none => (mxErrBadHandle, kernel)
  | some peer =>
    match policy channel message with
    | some refusal => (refusal.1, kernel)
    | none => (mxOk, kernel.setQueue peer (kernel.queue peer ++ [message]))

/-- `mx_channel_read(channel, 0, buffer, handles, numBytes, numHandles, ...)`; the kernel takes
the head message only when it fits both buffers. -/
def read (_buffer : Ptr) (numBytes numHandles : ℕ) : ChannelRead × Channels :=
  match kernel.peer channel with
  | none => (⟨mxErrBadHandle, 0, 0, [], []⟩, kernel)
  | some _ =>
    match kernel.queue channel with
    | [] => (⟨mxErrShouldWait, 0, 0, [], []⟩, kernel)
    | message :: rest =>
      if message.bytes.length ≤ numBytes ∧ message.handles.length ≤ numHandles then
        (⟨mxOk, message.bytes.length, message.handles.length, message.bytes, message.handles⟩,
          kernel.setQueue channel rest)
      else
        (⟨mxErrBufferTooSmall, message.bytes.length, message.handles.length, [], []⟩, kernel)

/-- A write either appends exactly its message to the peer's queue and returns `MX_OK`, or
changes nothing and returns an error. -/
theorem write_cases (policy : WritePolicy) (message : Message) :
    (∃ peer, kernel.peer channel = some peer ∧ kernel.write channel policy message =
      (mxOk, kernel.setQueue peer (kernel.queue peer ++ [message]))) ∨
    ((kernel.write channel policy message).1 ≠ mxOk ∧
      (kernel.write channel policy message).2 = kernel) := by
  unfold write
  cases kernel.peer channel with
  | none => exact .inr ⟨mxErrBadHandle_ne_ok, rfl⟩
  | some peer =>
    cases policy channel message with
    | none => exact .inl ⟨peer, rfl, rfl⟩
    | some refusal => exact .inr ⟨refusal.2, rfl⟩

variable {kernel channel}

/-- Reading at an endpoint with an empty queue reports `MX_ERR_SHOULD_WAIT` and changes
nothing. -/
theorem read_of_queue_nil {peer : MxHandle} (connected : kernel.peer channel = some peer)
    (empty : kernel.queue channel = []) (buffer : Ptr) (numBytes numHandles : ℕ) :
    kernel.read channel buffer numBytes numHandles =
      (⟨mxErrShouldWait, 0, 0, [], []⟩, kernel) := by
  simp [read, connected, empty]

/-- The head message is taken exactly when it fits both buffers. -/
theorem read_of_fits {peer : MxHandle} {message : Message} {rest : List Message}
    (connected : kernel.peer channel = some peer) (head : kernel.queue channel = message :: rest)
    (buffer : Ptr) {numBytes numHandles : ℕ} (bytesFit : message.bytes.length ≤ numBytes)
    (handlesFit : message.handles.length ≤ numHandles) :
    kernel.read channel buffer numBytes numHandles =
      (⟨mxOk, message.bytes.length, message.handles.length, message.bytes, message.handles⟩,
        kernel.setQueue channel rest) := by
  simp [read, connected, head, bytesFit, handlesFit]

/-- A head message that does not fit is left in place and its size is reported. -/
theorem read_of_too_small {peer : MxHandle} {message : Message} {rest : List Message}
    (connected : kernel.peer channel = some peer) (head : kernel.queue channel = message :: rest)
    (buffer : Ptr) {numBytes numHandles : ℕ}
    (tooSmall : ¬(message.bytes.length ≤ numBytes ∧ message.handles.length ≤ numHandles)) :
    kernel.read channel buffer numBytes numHandles =
      (⟨mxErrBufferTooSmall, message.bytes.length, message.handles.length, [], []⟩, kernel) := by
  simp only [read, connected, head, if_neg tooSmall]

/-- A query with room for nothing reports the size of a head that is not empty and leaves it in
place. -/
theorem read_query {peer : MxHandle} {message : Message} {rest : List Message}
    (connected : kernel.peer channel = some peer) (head : kernel.queue channel = message :: rest)
    (buffer : Ptr) (nonempty : message ≠ ⟨[], []⟩) :
    kernel.read channel buffer 0 0 =
      (⟨mxErrBufferTooSmall, message.bytes.length, message.handles.length, [], []⟩, kernel) :=
  read_of_too_small connected head buffer fun fits => nonempty <| by
    obtain ⟨bytes, handles⟩ := message
    simpa using fits

end Channels

/-- A kernel that refuses, as `mx_channel_write` does, a message that lists one handle twice or
lists `MX_HANDLE_INVALID`. -/
def WritePolicy.ChecksHandles (policy : WritePolicy) : Prop :=
  ∀ channel message, policy channel message = none →
    message.handles.Nodup ∧ mxHandleInvalid ∉ message.handles

/-- The kernel's handle checks alone: a message that lists one handle twice or lists
`MX_HANDLE_INVALID` is refused with `MX_ERR_BAD_HANDLE`, and any other is taken. -/
def WritePolicy.checking : WritePolicy := fun _ message =>
  if message.handles.Nodup ∧ mxHandleInvalid ∉ message.handles then none
  else some ⟨mxErrBadHandle, mxErrBadHandle_ne_ok⟩

theorem WritePolicy.checking_checksHandles : WritePolicy.checking.ChecksHandles :=
  fun _ message accepted => by
    unfold WritePolicy.checking at accepted
    split at accepted
    · assumption
    · cases accepted

/-- A message such a kernel accepts lists distinct valid handles. -/
theorem Channels.write_checked {kernel : Channels} {channel : MxHandle} {policy : WritePolicy}
    (checks : policy.ChecksHandles) {message : Message}
    (accepted : (kernel.write channel policy message).1 = mxOk) :
    message.handles.Nodup ∧ mxHandleInvalid ∉ message.handles := by
  refine checks channel message ?_
  unfold Channels.write at accepted
  split at accepted
  · exact absurd accepted mxErrBadHandle_ne_ok
  · split at accepted
    · next refusal _ => exact absurd accepted refusal.2
    · assumption

end Fidl
