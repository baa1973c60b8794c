import Mathlib.Logic.Function.Basic

/-! # Magenta handles, statuses and messages

The bindings and the Dart extension reach the kernel only through `mx_handle_t` values and
`mx_status_t` results, and only ever compare a status for equality; the numbers below are those of
Magenta's `errors.h`. A message is the pair of bytes and handle values one `mx_channel_write`
carries. Pointers are addresses, with zero for `nullptr`.
-/

namespace Fidl

/-- `mx_handle_t`. -/
abbrev MxHandle := ℕ

/-- `MX_HANDLE_INVALID`, the value a default-constructed or released handle holds. -/
def mxHandleInvalid : MxHandle := 0

/-- `mx_status_t`. -/
abbrev MxStatus := ℤ

def mxOk : MxStatus := 0
def mxErrInvalidArgs : MxStatus := -10
def mxErrBadHandle : MxStatus := -11
def mxErrBufferTooSmall : MxStatus := -15
def mxErrShouldWait : MxStatus := -22

/-- A status other than `MX_OK`: what a refused call returns. -/
abbrev MxError := {status : MxStatus // status ≠ mxOk}

/-- A machine address; zero is `nullptr`. -/
abbrev Ptr := ℕ

@[simp] theorem mxErrBadHandle_ne_ok : mxErrBadHandle ≠ mxOk := by decide
@[simp] theorem mxErrBufferTooSmall_ne_ok : mxErrBufferTooSmall ≠ mxOk := by decide
@[simp] theorem mxErrShouldWait_ne_ok : mxErrShouldWait ≠ mxOk := by decide
@[simp] theorem mxErrShouldWait_ne_bufferTooSmall : mxErrShouldWait ≠ mxErrBufferTooSmall := by
  decide
@[simp] theorem mxErrBadHandle_ne_bufferTooSmall : mxErrBadHandle ≠ mxErrBufferTooSmall := by
  decide
@[simp] theorem mxOk_ne_bufferTooSmall : mxOk ≠ mxErrBufferTooSmall := by decide

/-- One of the two ends of a channel or a socket, as the process holding both uses them. -/
inductive Side where
  | first
  | second
deriving DecidableEq, Repr

/-- The other end. -/
def Side.other : Side → Side
  | first => second
  | second => first

/-- A pair, read at one end. -/
def Side.pick {α : Type} (first second : α) : Side → α
  | .first => first
  | .second => second

@[simp] theorem Side.other_other (side : Side) : side.other.other = side := by cases side <;> rfl

@[simp] theorem Side.other_ne (side : Side) : side.other ≠ side := by cases side <;> decide

@[simp] theorem Side.ne_other (side : Side) : side ≠ side.other := by cases side <;> decide

/-- Every end is the given one or the other. -/
theorem Side.eq_or_eq_other (side other : Side) : other = side ∨ other = side.other := by
  cases side <;> cases other <;> simp [Side.other]

/-- Distinct values at the two ends are distinct at any two different ends. -/
theorem Side.apply_ne {α : Type} {values : Side → α} (distinct : values .first ≠ values .second)
    {side other : Side} (different : side ≠ other) : values side ≠ values other := by
  cases side <;> cases other
  · exact absurd rfl different
  · exact distinct
  · exact distinct.symm
  · exact absurd rfl different

/-- The bytes and handle values of one channel message. -/
structure Message where
  bytes : List UInt8
  handles : List MxHandle
deriving DecidableEq, Repr

/-- What `mx_socket_read` and `mx_vmo_read` report: the status, `actual`, and the bytes stored at
the front of the buffer. -/
structure BytesRead where
  status : MxStatus
  actual : ℕ
  stored : List UInt8

/-- What `mx::channel::create(0, &endpoint0, &endpoint1)` leaves in its out-parameters: two
valid endpoints, or a refusal, after which both keep the invalid handle they were built with. -/
inductive ChannelCreation where
  | created (endpoint0 endpoint1 : MxHandle) (valid0 : endpoint0 ≠ mxHandleInvalid)
      (valid1 : endpoint1 ≠ mxHandleInvalid)
  | failed (status : MxError)

namespace ChannelCreation

/-- The status `mx::channel::create` returns. -/
def status : ChannelCreation → MxStatus
  | created .. => mxOk
  | failed status => status.1

def endpoint0 : ChannelCreation → MxHandle
  | created endpoint0 .. => endpoint0
  | failed _ => mxHandleInvalid

def endpoint1 : ChannelCreation → MxHandle
  | created _ endpoint1 .. => endpoint1
  | failed _ => mxHandleInvalid

/-- Both endpoints are valid exactly when creation succeeded. -/
theorem endpoints_valid_iff (creation : ChannelCreation) :
    (creation.endpoint0 ≠ mxHandleInvalid ∧ creation.endpoint1 ≠ mxHandleInvalid) ↔
      creation.status = mxOk := by
  cases creation with
  | created _ _ valid0 valid1 => exact ⟨fun _ => rfl, fun _ => ⟨valid0, valid1⟩⟩
  | failed status => simpa [endpoint0, endpoint1, ChannelCreation.status] using status.2

end ChannelCreation

end Fidl
