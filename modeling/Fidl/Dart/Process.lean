import Fidl.Dart.SystemLaws

/-! # The Dart side as a process making system calls

`System::RegisterNatives` registers twelve entry points, `FOR_EACH_STATIC_BINDING`. A call of any
of them is one step of the process, from a kernel and a `Handle` heap to new ones. Whatever the
kernel answers and the VM grants, a step only adds handles, except that a `ChannelWrite` the
kernel accepts releases the handles it lists. So over any run, a `Handle` that no `ChannelWrite`
lists keeps its value from start to end, and every `Handle` ends holding its value or
`MX_HANDLE_INVALID`.
-/

namespace Fidl.Dart

/-- The kernel calls the entry points make, as functions of a kernel state `K`. -/
structure Syscalls (K : Type) where
  channelCreate : K → ℕ → (MxStatus × MxHandle × MxHandle) × K
  channelWrite : K → MxHandle → Message → MxStatus × K
  channelRead : K → MxHandle → Ptr → ℕ → ℕ → ChannelRead × K
  eventpairCreate : K → ℕ → (MxStatus × MxHandle × MxHandle) × K
  socketCreate : K → ℕ → (MxStatus × MxHandle × MxHandle) × K
  socketWrite : K → MxHandle → ℤ → List UInt8 → (MxStatus × ℕ) × K
  socketRead : K → MxHandle → Ptr → ℕ → BytesRead × K
  vmoCreate : K → ℕ → ℕ → (MxStatus × MxHandle) × K
  vmoGetSize : K → MxHandle → (MxStatus × ℕ) × K
  vmoSetSize : K → MxHandle → ℕ → MxStatus × K
  vmoWrite : K → MxHandle → List UInt8 → ℕ → (MxStatus × ℕ) × K
  vmoRead : K → MxHandle → Ptr → ℕ → ℕ → BytesRead × K

/-- A call of one of the entry points `FOR_EACH_STATIC_BINDING` registers, with its arguments; a
`Handle` argument is its address, `none` for null. -/
inductive SystemCall where
  | channelCreate (options : ℕ)
  | channelWrite (channel : Option ℕ) (data : List UInt8) (handles : List ℕ)
  | channelQueryAndRead (channel : Option ℕ)
  | eventpairCreate (options : ℕ)
  | socketCreate (options : ℕ)
  | socketWrite (socket : Option ℕ) (data : List UInt8) (options : ℤ)
  | socketRead (socket : Option ℕ) (size : ℕ)
  | vmoCreate (size options : ℕ)
  | vmoGetSize (vmo : Option ℕ)
  | vmoSetSize (vmo : Option ℕ) (size : ℕ)
  | vmoWrite (vmo : Option ℕ) (offset : ℕ) (data : List UInt8)
  | vmoRead (vmo : Option ℕ) (offset size : ℕ)
deriving DecidableEq, Repr

/-- The `Handle`s a call lists for transfer. -/
def SystemCall.transferred : SystemCall → List ℕ
  | .channelWrite _ _ handles => handles
  | _ => []

/-- The kernel and heap a call leaves. -/
def Outcome.state {K α : Type} (out : Outcome K α) : K × Heap := (out.kernel, out.heap)

/-- A kernel of one state that grants every call: the pair `7`, `8`, the VMO `9`, every write
taken whole, and nothing to read. -/
def Syscalls.granting : Syscalls Unit :=
  ⟨fun k _ => ((mxOk, 7, 8), k), fun k _ _ => (mxOk, k),
    fun k _ _ _ _ => (⟨mxErrShouldWait, 0, 0, [], []⟩, k), fun k _ => ((mxOk, 7, 8), k),
    fun k _ => ((mxOk, 7, 8), k), fun k _ _ data => ((mxOk, data.length), k),
    fun k _ _ _ => (⟨mxOk, 0, []⟩, k), fun k _ _ => ((mxOk, 9), k), fun k _ => ((mxOk, 0), k),
    fun k _ _ => (mxOk, k), fun k _ data _ => ((mxOk, data.length), k),
    fun k _ _ _ _ => (⟨mxOk, 0, []⟩, k)⟩

variable {K : Type} (sys : Syscalls K) (vm : DartVm) (order : ArgumentOrder)

/-- One call of the process, built with the compiler's argument `order`. -/
def SystemCall.perform (kernel : K) (heap : Heap) : SystemCall → K × Heap
  | .channelCreate options => (Dart.channelCreate order sys.channelCreate kernel heap options).state
  | .channelWrite channel data handles =>
    (Dart.channelWrite sys.channelWrite kernel heap channel data handles).state
  | .channelQueryAndRead channel =>
    (Dart.channelQueryAndRead sys.channelRead vm kernel heap channel).state
  | .eventpairCreate options =>
    (Dart.eventpairCreate order sys.eventpairCreate kernel heap options).state
  | .socketCreate options => (Dart.socketCreate order sys.socketCreate kernel heap options).state
  | .socketWrite socket data options =>
    (Dart.socketWrite sys.socketWrite kernel heap socket data options).state
  | .socketRead socket size => (Dart.socketRead sys.socketRead vm kernel heap socket size).state
  | .vmoCreate size options => (Dart.vmoCreate sys.vmoCreate kernel heap size options).state
  | .vmoGetSize vmo => (Dart.vmoGetSize sys.vmoGetSize kernel heap vmo).state
  | .vmoSetSize vmo size => (Dart.vmoSetSize sys.vmoSetSize kernel heap vmo size).state
  | .vmoWrite vmo offset data => (Dart.vmoWrite sys.vmoWrite kernel heap vmo offset data).state
  | .vmoRead vmo offset size => (Dart.vmoRead sys.vmoRead vm kernel heap vmo offset size).state

/-- A sequence of calls. -/
def SystemCall.run (kernel : K) (heap : Heap) (calls : List SystemCall) : K × Heap :=
  calls.foldl (fun state call => call.perform sys vm order state.1 state.2) (kernel, heap)

section Steps

variable (kernel : K) (heap : Heap)

/-- What a call can do to the heap, whatever the kernel answers and the VM grants: only add
handles, or release exactly the ones it lists for transfer. -/
theorem perform_cases (call : SystemCall) :
    heap.Extends (call.perform sys vm order kernel heap).2 ∨
      (call.perform sys vm order kernel heap).2 = heap.releaseAll call.transferred := by
  cases call
  case channelCreate options => exact .inl (createPair_extends kernel heap order _ options)
  case channelWrite channel data handles =>
    exact (channelWrite_heap_cases kernel heap _ channel data handles).imp_left .of_eq
  case channelQueryAndRead channel => exact .inl (channelQueryAndRead_extends kernel heap _ vm channel)
  case eventpairCreate options => exact .inl (createPair_extends kernel heap order _ 0)
  case socketCreate options => exact .inl (createPair_extends kernel heap order _ options)
  case vmoCreate size options => exact .inl (vmoCreate_extends kernel heap _ size options)
  all_goals
    refine .inl (.of_eq ?_)
    simp only [SystemCall.perform, Outcome.state, socketWrite, socketRead, vmoGetSize, vmoSetSize,
      vmoWrite, vmoRead]
    split <;> first | rfl | (split <;> rfl)

theorem run_keepsExcept (kernel : K) (heap : Heap) (calls : List SystemCall) :
    heap.KeepsExcept (calls.flatMap SystemCall.transferred)
      (SystemCall.run sys vm order kernel heap calls).2 := by
  induction calls generalizing kernel heap with
  | nil => exact (Heap.Extends.refl heap).keepsExcept _
  | cons call calls ih =>
    rw [List.flatMap_cons]
    exact (Heap.keepsExcept_of_cases (perform_cases sys vm order kernel heap call)).trans (ih _ _)

theorem run_releases (kernel : K) (heap : Heap) (calls : List SystemCall) :
    heap.Releases (SystemCall.run sys vm order kernel heap calls).2 := by
  induction calls generalizing kernel heap with
  | nil => exact (Heap.Extends.refl heap).releases
  | cons call calls ih =>
    exact (Heap.releases_of_cases (perform_cases sys vm order kernel heap call)).trans (ih _ _)

end Steps

/-- Over every run of system calls, whatever the kernel answers, the VM grants and the compiler's
argument order: a `Handle` allocated at the start that no `ChannelWrite` of the run lists holds the
same value at the end, and so stays valid if it was. -/
theorem handle_kept_unless_transferred {K : Type} (sys : Syscalls K) (vm : DartVm)
    (order : ArgumentOrder) (kernel : K) (heap : Heap) (calls : List SystemCall) {ref : ℕ}
    (allocated : ref < heap.next) (unlisted : ∀ call ∈ calls, ref ∉ call.transferred) :
    (SystemCall.run sys vm order kernel heap calls).2.handleOf ref = heap.handleOf ref :=
  (run_keepsExcept sys vm order kernel heap calls).handleOf_eq ref allocated
    (by simpa [List.mem_flatMap] using unlisted)

/-- The `Handle` at `0` writes the one at `1` away, creates a VMO and reads: it still holds its
value. -/
theorem handle_kept_unless_transferred_writer :
    (SystemCall.run Syscalls.granting DartVm.granting .leftToRight () (Heap.ofList [5, 6])
      [.channelWrite (some 0) [] [1], .vmoCreate 4 0, .channelQueryAndRead (some 0)]).2.handleOf 0 =
      5 :=
  handle_kept_unless_transferred _ DartVm.granting .leftToRight () (Heap.ofList [5, 6]) _
    (by decide) (fun call member => by
      simp only [List.mem_cons, List.mem_singleton, List.not_mem_nil, or_false] at member
      rcases member with rfl | rfl | rfl <;> decide)

/-- Whatever the kernel answers, the VM grants and the compiler's argument order, each call only
adds `Handle`s or releases exactly those it lists for transfer; so over every run of system calls
a `Handle` allocated at the start ends holding its value at the start or `MX_HANDLE_INVALID`: no
`Handle` comes to hold another kernel handle, and one released stays released. -/
theorem handle_kept_or_released {K : Type} (sys : Syscalls K) (vm : DartVm)
    (order : ArgumentOrder) (kernel : K) (heap : Heap) (calls : List SystemCall) {ref : ℕ}
    (allocated : ref < heap.next) :
    (∀ (call : SystemCall) (kernel : K) (heap : Heap),
      heap.Extends (call.perform sys vm order kernel heap).2 ∨
        (call.perform sys vm order kernel heap).2 = heap.releaseAll call.transferred) ∧
    ((SystemCall.run sys vm order kernel heap calls).2.handleOf ref = heap.handleOf ref ∨
      (SystemCall.run sys vm order kernel heap calls).2.handleOf ref = mxHandleInvalid) :=
  ⟨fun call kernel heap => perform_cases sys vm order kernel heap call,
    (run_releases sys vm order kernel heap calls).handleOf_cases ref allocated⟩

/-- The `Handle` at `1`, written away by the one at `0`, ends released, with the `Handle`s of
pairs created right to left. -/
theorem handle_kept_or_released_transferred :
    (∀ (call : SystemCall) (kernel : Unit) (heap : Heap),
      heap.Extends (call.perform Syscalls.granting DartVm.granting .rightToLeft kernel heap).2 ∨
        (call.perform Syscalls.granting DartVm.granting .rightToLeft kernel heap).2 =
          heap.releaseAll call.transferred) ∧
    ((SystemCall.run Syscalls.granting DartVm.granting .rightToLeft () (Heap.ofList [5, 6])
        [.channelWrite (some 0) [] [1], .vmoCreate 4 0]).2.handleOf 1 = 6 ∨
      (SystemCall.run Syscalls.granting DartVm.granting .rightToLeft () (Heap.ofList [5, 6])
        [.channelWrite (some 0) [] [1], .vmoCreate 4 0]).2.handleOf 1 = mxHandleInvalid) :=
  handle_kept_or_released Syscalls.granting DartVm.granting .rightToLeft () (Heap.ofList [5, 6]) _
    (by decide)

end Fidl.Dart
