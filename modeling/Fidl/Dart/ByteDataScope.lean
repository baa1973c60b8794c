import Fidl.Dart.Handle

/-! # Typed data buffers and handle lists

`ByteDataScope` (system.cc) asks the Dart VM for a `ByteData` of a given size and acquires its
buffer. It is valid only when the VM answered with a `ByteData` and a non-null data pointer, and
only then takes the VM's length as its size; `Release` hands the buffer back and zeroes the scope.
`MakeHandleList` wraps each handle value of a message in a new `Handle` and stores it in a new
list, and returns the first error: that of `Dart_NewList`, or that of the first store that fails,
when the `Handle`s created so far stay. What the VM grants is an input, so every result holds
whatever it grants or refuses. The calls the laws constrain are
recorded in order: kernel reads and writes, `Dart_TypedDataReleaseData`, and each `FTL_DCHECK`.
-/

namespace Fidl.Dart

/-- What the VM answers to `Dart_NewTypedData(Dart_TypedData_kByteData, size)` followed by
`Dart_TypedDataAcquireData` on the result. -/
structure TypedDataReply where
  /-- `Dart_NewTypedData` returned an object, not an error. -/
  created : Bool
  /-- `Dart_TypedDataAcquireData` returned no error. -/
  acquired : Bool
  /-- The type it stored is `Dart_TypedData_kByteData`. -/
  byteData : Bool
  /-- The data pointer it stored. -/
  data : Ptr
  /-- The length it stored. -/
  length : ℕ
  acquired_created : acquired = true → created = true

/-- The Dart VM as the extension sees it: its answer to each typed-data request, whether
`Dart_NewList` of a length returns a list, and whether `Dart_ListSetAt(list, index,
ToDart(handle))` on a new list of a length returns no error; it returns the error of `ToDart`
when the wrapper's allocation fails. -/
structure DartVm where
  typedData : ℕ → TypedDataReply
  listCreated : ℕ → Bool
  listSetAt : ℕ → ℕ → Bool

/-- The VM builds a whole list of `length` handles: `Dart_NewList` returns one and every store
into it succeeds. -/
def DartVm.newList (vm : DartVm) (length : ℕ) : Bool :=
  vm.listCreated length && (List.range length).all (vm.listSetAt length)

/-- A VM that grants every request, with its buffers at address `1`. -/
def DartVm.granting : DartVm :=
  ⟨fun size => ⟨true, true, true, 1, size, fun _ => rfl⟩, fun _ => true, fun _ _ => true⟩

/-- A VM out of memory: every `Dart_NewTypedData`, `Dart_NewList` and wrapper returns an error. -/
def DartVm.refusing : DartVm :=
  ⟨fun _ => ⟨false, false, false, 0, 0, id⟩, fun _ => false, fun _ _ => false⟩

theorem DartVm.granting_newList (length : ℕ) : DartVm.granting.newList length = true := by
  simp [DartVm.newList, DartVm.granting]

/-- A Dart `ByteData` the extension hands out, or the error handle it holds instead. -/
inductive ByteData where
  | error
  | bytes (contents : List UInt8)
deriving DecidableEq, Repr

/-- A Dart list of `Handle`s by address, or the error handle returned instead. -/
inductive HandleList where
  | error
  | handles (refs : List ℕ)
deriving DecidableEq, Repr

/-- A list with one more `Handle` at its front; an error stays. -/
def HandleList.cons (ref : ℕ) : HandleList → HandleList
  | .error => .error
  | .handles refs => .handles (ref :: refs)

/-- A call of the extension that the laws constrain. -/
inductive Call where
  /-- An `FTL_DCHECK`, and whether it held. -/
  | check (holds : Bool)
  | typedDataReleaseData
  /-- `tonic::DartByteData::Release`. -/
  | byteDataRelease
  | channelWrite (channel : MxHandle) (message : Message)
  | channelRead (channel : MxHandle) (buffer : Ptr) (numBytes numHandles : ℕ)
  | socketRead (socket : MxHandle) (buffer : Ptr) (size : ℕ)
  | vmoRead (vmo : MxHandle) (buffer : Ptr) (offset size : ℕ)
deriving DecidableEq, Repr

/-- A buffer of `length` elements initialised to `padding`, once `stored` was written at its
front. -/
def fill {α : Type} (padding : α) (length : ℕ) (stored : List α) : List α :=
  (stored ++ List.replicate length padding).take length

theorem fill_of_length {α : Type} {padding : α} {stored : List α} {length : ℕ}
    (exact : stored.length = length) : fill padding length stored = stored :=
  List.take_left' exact

/-- What was stored at the front of a buffer is read back by taking its length. -/
theorem fill_take {α : Type} {padding : α} {stored : List α} {length : ℕ}
    (fits : stored.length ≤ length) : (fill padding length stored).take stored.length = stored := by
  rw [fill, List.take_take, Nat.min_eq_left fits, List.take_left]

/-- The state of a `ByteDataScope`. -/
structure ByteDataScope where
  /-- `dart_handle_`: the length of the `ByteData` created, or `none` for an error. -/
  object : Option ℕ
  isValid : Bool
  size : ℕ
  data : Ptr

namespace ByteDataScope

/-- `ByteDataScope(size)`. The checks on entry to `Acquire` hold by the field initialisers and
are not recorded. -/
def create (vm : DartVm) (size : ℕ) : ByteDataScope × List Call :=
  let reply := vm.typedData size
  let isValid := reply.acquired && reply.byteData && reply.data != 0
  let scope : ByteDataScope := ⟨if reply.created then some size else none, isValid,
    if isValid then reply.length else 0, if reply.acquired then reply.data else 0⟩
  (scope, [.check reply.created, .check (size == scope.size)])

/-- `Release()`: `Dart_TypedDataReleaseData` is called whether or not `is_valid_` holds. -/
def release (scope : ByteDataScope) : ByteDataScope × List Call :=
  ({ scope with isValid := false, data := 0, size := 0 },
    [.check scope.isValid, .typedDataReleaseData])

/-- `~ByteDataScope()`. -/
def destroy (scope : ByteDataScope) : List Call := if scope.isValid then scope.release.2 else []

/-- `dart_handle()`, once the kernel stored `stored` at the front of the buffer. -/
def dartHandle (scope : ByteDataScope) (stored : List UInt8) : ByteData :=
  match scope.object with
  | none => .error
  | some length => .bytes (fill 0 length stored)

@[simp] theorem release_isValid (scope : ByteDataScope) : scope.release.1.isValid = false := rfl
@[simp] theorem release_size (scope : ByteDataScope) : scope.release.1.size = 0 := rfl
@[simp] theorem release_object (scope : ByteDataScope) : scope.release.1.object = scope.object :=
  rfl

/-- Once released, the destructor does nothing. -/
@[simp] theorem destroy_release (scope : ByteDataScope) : scope.release.1.destroy = [] := rfl

variable {vm : DartVm} {size : ℕ}

/-- A scope with a data pointer was acquired, so its `ByteData` was created. -/
theorem create_object_of_data (data : (create vm size).1.data ≠ 0) :
    (create vm size).1.object = some size := by
  have acquired : (vm.typedData size).acquired = true := by
    by_contra notAcquired
    simp [create, notAcquired] at data
  simp [create, (vm.typedData size).acquired_created acquired]

/-- A scope of positive size was acquired, so its `ByteData` was created. -/
theorem create_object_of_size_pos (positive : 0 < (create vm size).1.size) :
    (create vm size).1.object = some size := by
  have acquired : (vm.typedData size).acquired = true := by
    by_contra notAcquired
    simp [create, notAcquired] at positive
  simp [create, (vm.typedData size).acquired_created acquired]

end ByteDataScope

/-- The loop of `MakeHandleList` from `index` on, over a new list of `length` elements: each value
is wrapped by `Handle::Create` and stored with `Dart_ListSetAt`, and the first store that fails
returns its error, leaving the `Handle`s created so far. -/
def setHandles (vm : DartVm) (length : ℕ) : ℕ → Heap → List MxHandle → HandleList × Heap
  | _, heap, [] => (.handles [], heap)
  | index, heap, handle :: rest =>
    let (ref, heap) := heap.create handle
    if vm.listSetAt length index then
      let (list, heap) := setHandles vm length (index + 1) heap rest
      (list.cons ref, heap)
    else (.error, heap)

/-- `MakeHandleList(in_handles)`. -/
def makeHandleList (vm : DartVm) (heap : Heap) (handles : List MxHandle) : HandleList × Heap :=
  if vm.listCreated handles.length then setHandles vm handles.length 0 heap handles
  else (.error, heap)

section HandleList

variable {vm : DartVm} {length : ℕ}

/-- Where every store succeeds, the loop wraps every value, in order. -/
theorem setHandles_of_stores {index : ℕ} {heap : Heap} {handles : List MxHandle}
    (stores : ∀ offset < handles.length, vm.listSetAt length (index + offset) = true) :
    setHandles vm length index heap handles =
      (.handles (heap.createAll handles).1, (heap.createAll handles).2) := by
  induction handles generalizing index heap with
  | nil => rfl
  | cons handle rest ih =>
    have first := stores 0 (Nat.succ_pos _)
    rw [Nat.add_zero] at first
    simp only [setHandles, first, if_true, Heap.createAll]
    rw [ih fun offset within => by
      simpa [Nat.add_assoc, Nat.add_comm 1] using stores (offset + 1) (by simpa using within)]
    rfl

/-- Whatever the VM answers, the loop wraps a prefix of the values in new `Handle`s. -/
theorem setHandles_heap (index : ℕ) (heap : Heap) (handles : List MxHandle) :
    ∃ count ≤ handles.length,
      (setHandles vm length index heap handles).2 = (heap.createAll (handles.take count)).2 := by
  induction handles generalizing index heap with
  | nil => exact ⟨0, Nat.le_refl _, rfl⟩
  | cons handle rest ih =>
    simp only [setHandles]
    split
    · obtain ⟨count, within, made⟩ := ih (index + 1) (heap.create handle).2
      exact ⟨count + 1, by simpa using within, made⟩
    · exact ⟨1, by simp, rfl⟩

/-- A VM that builds the list gets every value wrapped, in order. -/
theorem makeHandleList_of_newList {heap : Heap} {handles : List MxHandle}
    (builds : vm.newList handles.length = true) :
    makeHandleList vm heap handles =
      (.handles (heap.createAll handles).1, (heap.createAll handles).2) := by
  simp only [DartVm.newList, Bool.and_eq_true, List.all_eq_true, List.mem_range] at builds
  simp only [makeHandleList, builds.1, if_true]
  exact setHandles_of_stores fun offset within => by simpa using builds.2 offset within

/-- Whatever the VM answers, `MakeHandleList` wraps a prefix of the values in new `Handle`s:
none when `Dart_NewList` fails, those up to the first store that fails, or all. -/
theorem makeHandleList_heap (heap : Heap) (handles : List MxHandle) :
    ∃ count ≤ handles.length,
      (makeHandleList vm heap handles).2 = (heap.createAll (handles.take count)).2 := by
  unfold makeHandleList
  split
  · exact setHandles_heap 0 heap handles
  · exact ⟨0, Nat.zero_le _, rfl⟩

end HandleList

end Fidl.Dart
