import Mathlib.Data.List.GetD
import Mathlib.Data.List.Perm.Subperm
import Fidl.Magenta

/-! # Dart handles

`Handle` (handle.h) is the native peer of a Dart object and holds one `mx_handle_t`. The handles
are kept here in a heap by address: `Handle::Create` puts a new handle at the first address never
used, and `ReleaseHandle` gives the value up, leaving `MX_HANDLE_INVALID` behind. Addresses never
used hold no handle, so a valid handle is always one that was allocated.
-/

namespace Fidl.Dart

/-- The `Handle` objects: the `handle_` at each address, and the first address `Handle::Create`
has not used. -/
structure Heap where
  handleOf : ℕ → MxHandle
  next : ℕ
  unallocated : ∀ ref, next ≤ ref → handleOf ref = mxHandleInvalid

namespace Heap

/-- A heap whose first handles hold the given values, in order. -/
def ofList (values : List MxHandle) : Heap :=
  ⟨fun ref => values.getD ref mxHandleInvalid, values.length,
    fun _ beyond => List.getD_eq_default _ _ beyond⟩

/-- `is_valid()` of the handle at `ref`. -/
def isValid (heap : Heap) (ref : ℕ) : Bool := heap.handleOf ref != mxHandleInvalid

/-- Modelled from the spec: `Handle::Create(handle)`, declared in handle.h with its body in
handle.cc, which is not among the files. The new `Handle` holds `handle`, at the first address
never used. -/
def create (heap : Heap) (handle : MxHandle) : ℕ × Heap :=
  (heap.next, ⟨Function.update heap.handleOf heap.next handle, heap.next + 1, fun ref beyond => by
    rw [Function.update_noteq (by omega)]
    exact heap.unallocated ref (by omega)⟩)

/-- Modelled from the spec: `ReleaseHandle()` of the handle at `ref`, declared in handle.h with
its body in handle.cc, which is not among the files. It returns the value held and leaves
`MX_HANDLE_INVALID`. -/
def releaseHandle (heap : Heap) (ref : ℕ) : MxHandle × Heap :=
  (heap.handleOf ref, ⟨Function.update heap.handleOf ref mxHandleInvalid, heap.next,
    fun other beyond => by
      by_cases same : other = ref
      · subst same; exact Function.update_same _ _ _
      · rw [Function.update_noteq same]; exact heap.unallocated other beyond⟩)

/-- The guard every `System` call opens with: a null or invalid handle gives nothing, a valid one
its value. -/
def resolve (heap : Heap) : Option ℕ → Option MxHandle
  | none => none
  | some ref => if heap.isValid ref then some (heap.handleOf ref) else none

/-- `Handle::Create` of each value in turn. -/
def createAll : Heap → List MxHandle → List ℕ × Heap
  | heap, [] => ([], heap)
  | heap, handle :: rest =>
    let (ref, heap) := heap.create handle
    let (refs, heap) := heap.createAll rest
    (ref :: refs, heap)

/-- `ReleaseHandle()` of each listed handle in turn. -/
def releaseAll (heap : Heap) (refs : List ℕ) : Heap :=
  refs.foldl (fun heap ref => (heap.releaseHandle ref).2) heap

variable {heap : Heap}

@[simp] theorem create_ref (handle : MxHandle) : (heap.create handle).1 = heap.next := rfl

@[simp] theorem create_handleOf (handle : MxHandle) (ref : ℕ) :
    (heap.create handle).2.handleOf ref = Function.update heap.handleOf heap.next handle ref := rfl

@[simp] theorem create_next (handle : MxHandle) : (heap.create handle).2.next = heap.next + 1 :=
  rfl

@[simp] theorem releaseHandle_next (ref : ℕ) : (heap.releaseHandle ref).2.next = heap.next := rfl

/-- A valid handle has been allocated. -/
theorem lt_next_of_isValid {ref : ℕ} (valid : heap.handleOf ref ≠ mxHandleInvalid) :
    ref < heap.next :=
  Nat.lt_of_not_le fun beyond => valid (heap.unallocated ref beyond)

theorem resolve_eq_some {channel : Option ℕ} {value : MxHandle} :
    heap.resolve channel = some value ↔
      ∃ ref, channel = some ref ∧ heap.handleOf ref = value ∧ value ≠ mxHandleInvalid := by
  cases channel with
  | none => simp [resolve]
  | some ref =>
    by_cases valid : heap.handleOf ref = mxHandleInvalid
    · simp only [resolve, isValid, valid, bne_self_eq_false, Bool.false_eq_true, if_false,
        reduceCtorEq, Option.some.injEq, exists_eq_left', false_iff, not_and]
      exact fun same different => different same.symm
    · simp only [resolve, isValid, bne_iff_ne, ne_eq, valid, not_false_eq_true, if_true,
        Option.some.injEq, exists_eq_left']
      exact ⟨fun same => ⟨same, same ▸ valid⟩, And.left⟩

theorem resolve_eq_none {channel : Option ℕ} :
    heap.resolve channel = none ↔ ∀ ref, channel = some ref → heap.handleOf ref = mxHandleInvalid := by
  cases channel with
  | none => simp [resolve]
  | some ref => by_cases valid : heap.handleOf ref = mxHandleInvalid <;> simp [resolve, isValid, valid]

/-- The guard on a handle that holds `value` either rejects it or passes exactly `value`. -/
theorem resolve_some_cases {ref : ℕ} {value : MxHandle} (holds : heap.handleOf ref = value) :
    heap.resolve (some ref) = none ∨ heap.resolve (some ref) = some value := by
  by_cases valid : value = mxHandleInvalid <;> simp [resolve, isValid, holds, valid]

/-- Releasing a list of handles invalidates exactly the listed ones. -/
theorem releaseAll_handleOf (refs : List ℕ) (ref : ℕ) :
    (heap.releaseAll refs).handleOf ref = if ref ∈ refs then mxHandleInvalid else heap.handleOf ref := by
  induction refs generalizing heap with
  | nil => simp [releaseAll]
  | cons first rest ih =>
    rw [releaseAll, List.foldl_cons, ← releaseAll, ih]
    by_cases later : ref ∈ rest
    · simp [later]
    · by_cases same : ref = first <;> simp [later, same, releaseHandle]

@[simp] theorem releaseAll_next (refs : List ℕ) : (heap.releaseAll refs).next = heap.next := by
  induction refs generalizing heap with
  | nil => rfl
  | cons first rest ih => exact ih

@[simp] theorem createAll_next (handles : List MxHandle) :
    (heap.createAll handles).2.next = heap.next + handles.length := by
  induction handles generalizing heap with
  | nil => rfl
  | cons handle rest ih => simp [createAll, ih]; omega

/-- Handles allocated before `createAll` keep their values. -/
theorem createAll_handleOf_old (handles : List MxHandle) {ref : ℕ} (old : ref < heap.next) :
    (heap.createAll handles).2.handleOf ref = heap.handleOf ref := by
  induction handles generalizing heap with
  | nil => rfl
  | cons handle rest ih =>
    simp only [createAll]
    rw [ih (by simp; omega), create_handleOf, Function.update_noteq (by omega)]

/-- The new handles hold the values, in order. -/
theorem createAll_values (handles : List MxHandle) :
    (heap.createAll handles).1.map (heap.createAll handles).2.handleOf = handles := by
  induction handles generalizing heap with
  | nil => rfl
  | cons handle rest ih =>
    simp only [createAll, List.map_cons, ih, create_ref]
    rw [createAll_handleOf_old rest (by simp), create_handleOf, Function.update_same]

/-- `new` has allocated at least as far as `old`, and every handle `old` allocated holds the same
value in `new`. -/
structure Extends (old new : Heap) : Prop where
  next_le : old.next ≤ new.next
  handleOf_eq : ∀ ref < old.next, new.handleOf ref = old.handleOf ref

theorem Extends.refl (heap : Heap) : heap.Extends heap := ⟨Nat.le_refl _, fun _ _ => rfl⟩

theorem extends_createAll (handles : List MxHandle) : heap.Extends (heap.createAll handles).2 :=
  ⟨by simp, fun _ old => createAll_handleOf_old handles old⟩

theorem extends_create (heap : Heap) (handle : MxHandle) : heap.Extends (heap.create handle).2 :=
  ⟨by simp, fun _ old => by simp [Function.update_noteq (Nat.ne_of_lt old)]⟩

theorem Extends.trans {first second third : Heap} (kept : first.Extends second)
    (after : second.Extends third) : first.Extends third :=
  ⟨Nat.le_trans kept.next_le after.next_le, fun ref old => by
    rw [after.handleOf_eq ref (Nat.lt_of_lt_of_le old kept.next_le), kept.handleOf_eq ref old]⟩

theorem Extends.of_eq {old new : Heap} (same : new = old) : old.Extends new :=
  same ▸ Extends.refl old

/-- `new` has allocated at least as far as `old`, and every handle of `old` that is not `listed`
holds the same value in `new`. -/
structure KeepsExcept (listed : List ℕ) (old new : Heap) : Prop where
  next_le : old.next ≤ new.next
  handleOf_eq : ∀ ref < old.next, ref ∉ listed → new.handleOf ref = old.handleOf ref

theorem Extends.keepsExcept {old new : Heap} (extension : old.Extends new) (listed : List ℕ) :
    old.KeepsExcept listed new :=
  ⟨extension.next_le, fun ref old _ => extension.handleOf_eq ref old⟩

theorem KeepsExcept.trans {listed later : List ℕ} {first second third : Heap}
    (kept : first.KeepsExcept listed second) (after : second.KeepsExcept later third) :
    first.KeepsExcept (listed ++ later) third :=
  ⟨Nat.le_trans kept.next_le after.next_le, fun ref old unlisted => by
    rw [List.mem_append, not_or] at unlisted
    rw [after.handleOf_eq ref (Nat.lt_of_lt_of_le old kept.next_le) unlisted.2,
      kept.handleOf_eq ref old unlisted.1]⟩

theorem keepsExcept_releaseAll (heap : Heap) (refs : List ℕ) :
    heap.KeepsExcept refs (heap.releaseAll refs) :=
  ⟨by simp, fun ref _ unlisted => by simp [releaseAll_handleOf, unlisted]⟩

/-- `new` has allocated at least as far as `old`, and every handle of `old` holds in `new` its
value in `old` or `MX_HANDLE_INVALID`. -/
structure Releases (old new : Heap) : Prop where
  next_le : old.next ≤ new.next
  handleOf_cases : ∀ ref < old.next,
    new.handleOf ref = old.handleOf ref ∨ new.handleOf ref = mxHandleInvalid

theorem Extends.releases {old new : Heap} (extension : old.Extends new) : old.Releases new :=
  ⟨extension.next_le, fun ref old => .inl (extension.handleOf_eq ref old)⟩

theorem Releases.trans {first second third : Heap} (kept : first.Releases second)
    (after : second.Releases third) : first.Releases third :=
  ⟨Nat.le_trans kept.next_le after.next_le, fun ref old => by
    rcases after.handleOf_cases ref (Nat.lt_of_lt_of_le old kept.next_le) with same | released
    · rw [same]
      exact kept.handleOf_cases ref old
    · exact .inr released⟩

theorem releases_releaseAll (heap : Heap) (refs : List ℕ) : heap.Releases (heap.releaseAll refs) :=
  ⟨by simp, fun ref _ => by
    rw [releaseAll_handleOf]
    split
    · exact .inr rfl
    · exact .inl rfl⟩

/-- A step that only adds handles or releases the listed ones keeps every unlisted handle. -/
theorem keepsExcept_of_cases {listed : List ℕ} {old new : Heap}
    (cases : old.Extends new ∨ new = old.releaseAll listed) : old.KeepsExcept listed new := by
  rcases cases with extension | released
  · exact extension.keepsExcept listed
  · exact released ▸ keepsExcept_releaseAll old listed

/-- A step that only adds handles or releases some leaves every handle its value or
`MX_HANDLE_INVALID`. -/
theorem releases_of_cases {listed : List ℕ} {old new : Heap}
    (cases : old.Extends new ∨ new = old.releaseAll listed) : old.Releases new := by
  rcases cases with extension | released
  · exact extension.releases
  · exact released ▸ releases_releaseAll old listed

/-- The addresses of the valid handles, in order. -/
def live (heap : Heap) : List ℕ := (List.range heap.next).filter heap.isValid

/-- The values the valid handles hold: what the Dart side owns. -/
def held (heap : Heap) : List MxHandle := heap.live.map heap.handleOf

theorem mem_live {ref : ℕ} : ref ∈ heap.live ↔ heap.handleOf ref ≠ mxHandleInvalid := by
  simp only [live, List.mem_filter, List.mem_range, isValid, bne_iff_ne]
  exact ⟨And.right, fun valid => ⟨lt_next_of_isValid valid, valid⟩⟩

theorem nodup_live : heap.live.Nodup := (List.nodup_range _).sublist (List.filter_sublist _)

/-- A new handle with a valid value adds that value to what the Dart side holds. -/
theorem held_create {handle : MxHandle} (valid : handle ≠ mxHandleInvalid) :
    (heap.create handle).2.held = heap.held ++ [handle] := by
  have below : ∀ ref ∈ List.range heap.next, Function.update heap.handleOf heap.next handle ref =
      heap.handleOf ref := fun ref member =>
    Function.update_noteq (Nat.ne_of_lt (List.mem_range.mp member)) _ _
  have live : (heap.create handle).2.live = heap.live ++ [heap.next] := by
    simp only [live, create_next, List.range_succ, List.filter_append]
    congr 1
    · exact List.filter_congr fun ref member => by simp [isValid, below ref member]
    · simp [isValid, valid]
  simp only [held, live, List.map_append, create_handleOf, List.map_cons, Function.update_same,
    List.map_nil]
  congr 1
  exact List.map_congr_left fun ref member =>
    below ref (List.mem_filter.mp member).1

/-- `createAll` with valid values adds them, in order, to what the Dart side holds. -/
theorem held_createAll {handles : List MxHandle}
    (valid : ∀ handle ∈ handles, handle ≠ mxHandleInvalid) :
    (heap.createAll handles).2.held = heap.held ++ handles := by
  induction handles generalizing heap with
  | nil => simp [createAll]
  | cons handle rest ih =>
    simp only [createAll]
    rw [ih fun other later => valid other (.tail _ later), held_create (valid handle (.head _)),
      List.append_assoc, List.singleton_append]

/-- Releasing distinct valid handles takes exactly their values from what the Dart side holds. -/
theorem held_releaseAll {refs : List ℕ} (distinct : refs.Nodup)
    (valid : ∀ ref ∈ refs, heap.handleOf ref ≠ mxHandleInvalid) :
    List.Perm ((heap.releaseAll refs).held ++ refs.map heap.handleOf) heap.held := by
  have live : (heap.releaseAll refs).live = heap.live.filter fun ref => ref ∉ refs := by
    simp only [live, releaseAll_next, List.filter_filter]
    exact List.filter_congr fun ref _ => by
      by_cases listed : ref ∈ refs <;> simp [isValid, releaseAll_handleOf, listed]
  have kept : (heap.releaseAll refs).held = (heap.live.filter fun ref => ref ∉ refs).map
      heap.handleOf := by
    rw [held, live]
    exact List.map_congr_left fun ref member => by
      rw [releaseAll_handleOf, if_neg (of_decide_eq_true (List.mem_filter.mp member).2)]
  have listed : List.Perm (heap.live.filter fun ref => !decide (ref ∉ refs)) refs :=
    (List.perm_ext_iff_of_nodup (nodup_live.sublist (List.filter_sublist _)) distinct).mpr
      fun ref => by
        simp only [List.mem_filter, mem_live, decide_not, Bool.not_not, decide_eq_true_eq]
        exact ⟨And.right, fun member => ⟨valid ref member, member⟩⟩
  rw [kept, ← List.map_append, held]
  exact ((List.Perm.append_left _ listed.symm).trans (List.filter_append_perm _ _)).map _

end Heap

end Fidl.Dart
