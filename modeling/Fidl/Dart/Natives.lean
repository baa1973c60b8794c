import Fidl.Magenta

/-! # Resolving the extension's natives

`NativeLookup` and `NativeSymbol` (natives.cc) search `Entries`, the table `FIDL_NATIVE_LIST`
builds, and fall back on `g_natives`, the `tonic::DartLibraryNatives` that `InitNatives` fills
with the natives of `HandleWaiter`, `Handle` and `System`. `g_natives` stays null until the first
call the table cannot answer, which runs `InitNatives`. So over any sequence of calls
`InitNatives` runs at most once, and exactly when some call missed the table.
-/

namespace Fidl.Dart

/-- `Dart_NativeFunction`: the address of a native function. -/
abbrev NativeFunction := ℕ

/-- A row of `Entries`: `name`, `function`, `argument_count`. -/
structure NativeEntry where
  name : String
  function : NativeFunction
  argumentCount : ℤ
deriving DecidableEq, Repr

/-- What `InitNatives` builds: `GetNativeFunction` gives the function registered under a name and
argument count with its `auto_setup_scope`, and `GetSymbol` the name of a registered function. -/
structure LibraryNatives where
  getNativeFunction : String → ℤ → Option (NativeFunction × Bool)
  getSymbol : NativeFunction → Option String

/-- `g_natives`, with the number of times `InitNatives` has run. -/
structure NativesState where
  natives : Option LibraryNatives
  initCalls : ℕ

/-- Before any lookup `g_natives` is null. -/
def NativesState.initial : NativesState := ⟨none, 0⟩

/-- `MxTime_Get(arguments)`: the integer it returns to Dart, given its clock-id argument (`none`
when `Dart_GetNativeIntegerArgument` fails) and `mx_time_get` as Dart receives it. -/
def mxTimeGetNative (timeGet : ℤ → ℤ) (clockId : Option ℤ) : ℤ :=
  match clockId with
  | none => mxErrInvalidArgs
  | some clockId => timeGet clockId

variable (mxTimeGet : NativeFunction) (library : LibraryNatives)

/-- `Entries`, from `FIDL_NATIVE_LIST(REGISTER_FUNCTION)`, with `MxTime_Get` at `mxTimeGet`. -/
def entries : List NativeEntry := [⟨"MxTime_Get", mxTimeGet, 1⟩]

/-- The row `NativeLookup` matches: the same name by `strcmp`, and the same argument count. -/
def findEntry (name : String) (argumentCount : ℤ) : Option NativeEntry :=
  (entries mxTimeGet).find? fun entry => entry.name == name && entry.argumentCount == argumentCount

/-- The row `NativeSymbol` matches: the same function. -/
def findFunction (function : NativeFunction) : Option NativeEntry :=
  (entries mxTimeGet).find? fun entry => entry.function == function

/-- `if (!g_natives) g_natives = InitNatives();`, and then `g_natives`. -/
def ensureNatives (state : NativesState) : LibraryNatives × NativesState :=
  match state.natives with
  | some natives => (natives, state)
  | none => (library, ⟨some library, state.initCalls + 1⟩)

/-- `NativeLookup(name, argument_count, &auto_setup_scope)`: the function, `none` for `nullptr`,
and `*auto_setup_scope`, which is set to `true` before the search. -/
def nativeLookup (state : NativesState) (name : String) (argumentCount : ℤ) :
    (Option NativeFunction × Bool) × NativesState :=
  match findEntry mxTimeGet name argumentCount with
  | some entry => ((some entry.function, true), state)
  | none =>
    let (natives, state) := ensureNatives library state
    match natives.getNativeFunction name argumentCount with
    | some (function, autoSetupScope) => ((some function, autoSetupScope), state)
    | none => ((none, true), state)

/-- `NativeSymbol(native_function)`: the name, `none` for `nullptr`. -/
def nativeSymbol (state : NativesState) (function : NativeFunction) :
    Option String × NativesState :=
  match findFunction mxTimeGet function with
  | some entry => (some entry.name, state)
  | none =>
    let (natives, state) := ensureNatives library state
    (natives.getSymbol function, state)

section Lemmas

variable {mxTimeGet library} {state : NativesState}

@[simp] theorem ensureNatives_of_some {natives : LibraryNatives} (set : state.natives = some natives) :
    ensureNatives library state = (natives, state) := by
  simp [ensureNatives, set]

@[simp] theorem ensureNatives_of_none (unset : state.natives = none) :
    ensureNatives library state = (library, ⟨some library, state.initCalls + 1⟩) := by
  simp [ensureNatives, unset]

end Lemmas

/-- A call the VM makes: `NativeLookup` of a name and argument count, or `NativeSymbol` of a
function. -/
inductive NativesCall where
  | lookup (name : String) (argumentCount : ℤ)
  | symbol (function : NativeFunction)
deriving DecidableEq, Repr

/-- The call finds no row of `Entries`, and so falls back on `g_natives`. -/
def NativesCall.missesTable : NativesCall → Bool
  | .lookup name argumentCount => (findEntry mxTimeGet name argumentCount).isNone
  | .symbol function => (findFunction mxTimeGet function).isNone

namespace NativesState

/-- What one call leaves in `g_natives`. -/
def step (state : NativesState) : NativesCall → NativesState
  | .lookup name argumentCount => (nativeLookup mxTimeGet library state name argumentCount).2
  | .symbol function => (nativeSymbol mxTimeGet library state function).2

/-- A sequence of calls. -/
def run (state : NativesState) (calls : List NativesCall) : NativesState :=
  calls.foldl (step mxTimeGet library) state

variable {mxTimeGet library}

/-- A call that the table answers leaves `g_natives` alone; any other makes sure it is set. -/
theorem step_eq (state : NativesState) (call : NativesCall) :
    state.step mxTimeGet library call =
      if call.missesTable mxTimeGet then (ensureNatives library state).2 else state := by
  cases call with
  | lookup name argumentCount =>
    simp only [step, nativeLookup, NativesCall.missesTable]
    split
    · next found => simp [found]
    · next missed => simp only [missed, Option.isNone_none, if_true]; split <;> rfl
  | symbol function =>
    simp only [step, nativeSymbol, NativesCall.missesTable]
    split
    · next found => simp [found]
    · next missed => simp [missed]

/-- Once `g_natives` is set, no call changes it or runs `InitNatives` again. -/
theorem run_of_set {state : NativesState} {natives : LibraryNatives}
    (set : state.natives = some natives) (calls : List NativesCall) :
    state.run mxTimeGet library calls = state := by
  induction calls with
  | nil => rfl
  | cons call calls ih =>
    have fixed : state.step mxTimeGet library call = state := by
      rw [step_eq]
      split <;> simp [set]
    rw [run, List.foldl_cons, fixed]
    exact ih

/-- Over every sequence of calls, `InitNatives` runs once, leaving `g_natives` set to what it
built, if some call missed `Entries`; otherwise it never runs and `g_natives` stays null. -/
theorem initNatives_once (calls : List NativesCall) :
    initial.run mxTimeGet library calls =
      if calls.any (NativesCall.missesTable mxTimeGet) then ⟨some library, 1⟩ else initial := by
  induction calls with
  | nil => rfl
  | cons call calls ih =>
    rw [run, List.foldl_cons, ← run, step_eq, List.any_cons]
    by_cases missed : call.missesTable mxTimeGet
    · simp only [missed, if_true, Bool.true_or]
      exact run_of_set (by rfl) calls
    · simpa [missed] using ih

/-- Each `NativeLookup` from `Entries` resolves `MxTime_Get` with one argument, and
`InitNatives` does not run. -/
example : initial.run 0 library [.lookup "MxTime_Get" 1, .symbol 0] = initial := rfl

end NativesState

end Fidl.Dart
