import Fidl.Magenta
import Mathlib.Logic.Function.Basic

/-! # Sockets as byte streams

The kernel side of a socket, as far as the extension relies on it: each live end has a peer and
the bytes waiting to be read at it. A write the kernel does not refuse hands the peer as many of
its bytes as the peer's buffer has room for, up to a capacity, and returns `MX_ERR_SHOULD_WAIT`
when there is none. Which writes it refuses (options, rights, a closed peer) and the capacity are
parameters, so every result below holds whatever the kernel checks. A read takes up to the
requested count from the front, returns `MX_ERR_SHOULD_WAIT` when nothing waits, and refuses a
null buffer of nonzero size.
-/

namespace Fidl

/-- The kernel's socket state: the peer of each live end and the bytes waiting at each end,
oldest first. -/
structure Sockets where
  peer : MxHandle → Option MxHandle
  buffered : MxHandle → List UInt8

/-- The kernel's own reasons to refuse a write on a live end, given its options and bytes. -/
abbrev SocketPolicy := MxHandle → ℤ → List UInt8 → Option MxError

namespace Sockets

/-- Two ends connected to each other, with nothing buffered. -/
def connect (endpoint0 endpoint1 : MxHandle) : Sockets :=
  ⟨fun handle => if handle = endpoint0 then some endpoint1
    else if handle = endpoint1 then some endpoint0 else none, fun _ => []⟩

variable (kernel : Sockets) (socket : MxHandle)

/-- Replace the bytes waiting at one end. -/
def setBuffered (bytes : List UInt8) : Sockets :=
  { kernel with buffered := Function.update kernel.buffered socket bytes }

@[simp] theorem setBuffered_peer (bytes : List UInt8) :
    (kernel.setBuffered socket bytes).peer = kernel.peer := rfl

@[simp] theorem setBuffered_buffered_self (bytes : List UInt8) :
    (kernel.setBuffered socket bytes).buffered socket = bytes := by
  simp [setBuffered]

@[simp] theorem setBuffered_buffered_of_ne {bytes : List UInt8} {other : MxHandle}
    (distinct : other ≠ socket) :
    (kernel.setBuffered socket bytes).buffered other = kernel.buffered other := by
  simp [setBuffered, distinct]

/-- `mx_socket_write(socket, options, data, size, &actual)`, with at most `capacity` bytes
waiting at the peer. -/
def write (policy : SocketPolicy) (capacity : ℕ) (options : ℤ) (data : List UInt8) :
    (MxStatus × ℕ) × Sockets :=
  match kernel.peer socket with
  | none => ((mxErrBadHandle, 0), kernel)
  | some peer =>
    match policy socket options data with
    | some refusal => ((refusal.1, 0), kernel)
    | none =>
      if data ≠ [] ∧ capacity ≤ (kernel.buffered peer).length then ((mxErrShouldWait, 0), kernel)
      else
        let accepted := data.take (capacity - (kernel.buffered peer).length)
        ((mxOk, accepted.length), kernel.setBuffered peer (kernel.buffered peer ++ accepted))

/-- `mx_socket_read(socket, 0, buffer, size, &actual)`. -/
def read (buffer : Ptr) (size : ℕ) : BytesRead × Sockets :=
  match kernel.peer socket with
  | none => (⟨mxErrBadHandle, 0, []⟩, kernel)
  | some _ =>
    if buffer = 0 ∧ size ≠ 0 then (⟨mxErrInvalidArgs, 0, []⟩, kernel)
    else
      match kernel.buffered socket with
      | [] => (⟨mxErrShouldWait, 0, []⟩, kernel)
      | waiting =>
        (⟨mxOk, (waiting.take size).length, waiting.take size⟩,
          kernel.setBuffered socket (waiting.drop size))

/-- A write either appends a prefix of its bytes to the peer's buffer and returns `MX_OK` with
the prefix's length, or changes nothing and returns an error. -/
theorem write_cases (policy : SocketPolicy) (capacity : ℕ) (options : ℤ) (data : List UInt8) :
    (∃ peer accepted, kernel.peer socket = some peer ∧ accepted <+: data ∧
      kernel.write socket policy capacity options data =
        ((mxOk, accepted.length), kernel.setBuffered peer (kernel.buffered peer ++ accepted))) ∨
    ((kernel.write socket policy capacity options data).1.1 ≠ mxOk ∧
      (kernel.write socket policy capacity options data).2 = kernel) := by
  unfold write
  cases kernel.peer socket with
  | none => exact .inr ⟨mxErrBadHandle_ne_ok, rfl⟩
  | some peer =>
    cases policy socket options data with
    | some refusal => exact .inr ⟨refusal.2, rfl⟩
    | none =>
      dsimp only
      split
      · exact .inr ⟨mxErrShouldWait_ne_ok, rfl⟩
      · exact .inl ⟨peer, _, rfl, List.take_prefix _ _, rfl⟩

/-- A read takes from the front of the end's buffer exactly the bytes it reports, at most the
requested count, none on an error or into a null buffer, and changes no other end. -/
theorem read_takes (buffer : Ptr) (size : ℕ) :
    (kernel.read socket buffer size).1.stored ++ (kernel.read socket buffer size).2.buffered socket =
      kernel.buffered socket ∧
    (kernel.read socket buffer size).1.actual = (kernel.read socket buffer size).1.stored.length ∧
    (kernel.read socket buffer size).1.stored.length ≤ size ∧
    ((kernel.read socket buffer size).1.status ≠ mxOk ∨ buffer = 0 →
      (kernel.read socket buffer size).1.stored = []) ∧
    (kernel.read socket buffer size).2.peer = kernel.peer ∧
    ∀ other ≠ socket, (kernel.read socket buffer size).2.buffered other = kernel.buffered other := by
  unfold read
  cases kernel.peer socket with
  | none => simp
  | some _ =>
    dsimp only
    split
    · simp
    · split
      · simp_all
      · simp_all [List.take_append_drop, Nat.min_le_left]

end Sockets

end Fidl
