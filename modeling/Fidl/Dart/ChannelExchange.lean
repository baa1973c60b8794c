import Fidl.Dart.ChannelDuplex

/-! # One direction of a channel

An exchange writes with `ChannelWrite` on A's `Handle` and reads with `ChannelQueryAndRead` on
B's. It is the run of `Duplex` that writes only on the first end and reads only on the second
(`Exchanged.toDuplex`), so every call moves messages toward B and B's direction stays first in,
first out by `Duplex.run_ordered`, without the ends being distinct. That B's `Handle` still holds
its end needs only that no write lists it.
-/

namespace Fidl.Dart

/-- A call of an exchange over a channel: `ChannelWrite` on A's `Handle` with some bytes and
handles, or `ChannelQueryAndRead` on B's. -/
inductive Exchange where
  | write (data : List UInt8) (handles : List ℕ)
  | read
deriving DecidableEq, Repr

/-- The `Handle`s a call lists for transfer. -/
def Exchange.transferred : Exchange → List ℕ
  | .write _ handles => handles
  | .read => []

/-- The same call in a `Duplex`: a write on the first end, or a read on the second. -/
def Exchange.toDuplex : Exchange → DuplexCall
  | .write data handles => .write .first data handles
  | .read => .read .second

@[simp] theorem Exchange.toward_toDuplex (call : Exchange) :
    call.toDuplex.toward .second = true := by
  cases call <;> rfl

/-- The kernel and the handles between the calls of an exchange, with what the writes that
returned `MX_OK` sent and what the reads delivered so far, in order. -/
structure Exchanged where
  kernel : Channels
  heap : Heap
  sent : List Message
  delivered : List Message

namespace Exchanged

variable (policy : WritePolicy) (vm : DartVm) (a b : ℕ)

/-- One call of the exchange from the `Handle` at `a` to the one at `b`. -/
def step (state : Exchanged) : Exchange → Exchanged
  | .write data handles =>
    let out := channelWrite (fun kernel channel => kernel.write channel policy) state.kernel
      state.heap (some a) data handles
    ⟨out.kernel, out.heap,
      state.sent ++ if out.result = mxOk then [⟨data, handles.map state.heap.handleOf⟩] else [],
      state.delivered⟩
  | .read =>
    let out := channelQueryAndRead Channels.read vm state.kernel state.heap (some b)
    ⟨out.kernel, out.heap, state.sent, state.delivered ++ out.result.message out.heap⟩

/-- A sequence of calls. -/
def run (state : Exchanged) (calls : List Exchange) : Exchanged :=
  calls.foldl (step policy vm a b) state

/-- The same state in a `Duplex`: the writes were sent from the first end, and the reads
delivered at the second. -/
def toDuplex (state : Exchanged) : Duplex :=
  ⟨state.kernel, state.heap, Side.pick state.sent [], Side.pick [] state.delivered⟩

/-- One call of the exchange is one call of the `Duplex` on the ends `a` and `b`. -/
theorem step_toDuplex (state : Exchanged) (call : Exchange) :
    (state.step policy vm a b call).toDuplex =
      state.toDuplex.step policy vm (Side.pick a b) call.toDuplex := by
  cases call <;> simp only [step, Duplex.step, toDuplex, Exchange.toDuplex, Side.pick] <;>
    congr 1 <;> funext side <;> cases side <;> rfl

theorem run_toDuplex (state : Exchanged) (calls : List Exchange) :
    (state.run policy vm a b calls).toDuplex =
      state.toDuplex.run policy vm (Side.pick a b) (calls.map Exchange.toDuplex) := by
  induction calls generalizing state with
  | nil => rfl
  | cons call calls ih =>
    show (run policy vm a b (state.step policy vm a b call) calls).toDuplex = _
    rw [ih, step_toDuplex]
    rfl

variable {vm a b}

/-- From a linked pair with nothing sent or delivered yet, what the reads on `b` delivered
followed by what is still queued at B is what was queued there at the start followed by what the
writes on `a` sent. -/
theorem run_in_order (created : (vm.typedData 0).created = true)
    (lists : ∀ length, vm.newList length = true) {kernel : Channels} {heap : Heap}
    {av bv : MxHandle}
    (linked : (Exchanged.mk kernel heap [] []).toDuplex.Linked (Side.pick a b) (Side.pick av bv))
    (calls : List Exchange) :
    kernel.queue bv ++ (run policy vm a b ⟨kernel, heap, [], []⟩ calls).sent =
      (run policy vm a b ⟨kernel, heap, [], []⟩ calls).delivered ++
        (run policy vm a b ⟨kernel, heap, [], []⟩ calls).kernel.queue bv := by
  have ordered := Duplex.run_ordered policy created lists linked
    (show Duplex.Ordered (Side.pick av bv) (fun side => kernel.queue (Side.pick av bv side)) .second
      _ by simp [Duplex.Ordered, toDuplex, Side.pick, Side.other])
    (calls.map Exchange.toDuplex) fun _ member away => by
      obtain ⟨call, -, rfl⟩ := List.mem_map.mp member
      rw [Exchange.toward_toDuplex] at away
      cases away
  rw [← run_toDuplex] at ordered
  exact ordered

/-- A channel made by `ChannelCreate`, whichever `Handle` C++ creates first, and then used from
its first `Handle` to its second, on a kernel that connects the two ends it creates with nothing
queued, and with a VM that creates an empty `ByteData` and every handle list: every sequence of
calls, whatever `Handle`s it transfers, delivers what the writes sent, in order, but for what is
still queued. -/
theorem channelCreate_then_exchange (order : ArgumentOrder) (policy : WritePolicy) {vm : DartVm}
    (created : (vm.typedData 0).created = true) (lists : ∀ length, vm.newList length = true)
    {create : Channels → ℕ → (MxStatus × MxHandle × MxHandle) × Channels} {kernel made : Channels}
    {heap : Heap} {options : ℕ} {end0 end1 : MxHandle}
    (answer : create kernel options = ((mxOk, end0, end1), made))
    (peer0 : made.peer end0 = some end1) (peer1 : made.peer end1 = some end0)
    (empty : made.queue end1 = []) (calls : List Exchange) :
    (channelCreate order create kernel heap options).result =
        ⟨mxOk, some (order.refs heap.next)⟩ ∧
    let final := Exchanged.run policy vm (order.refs heap.next).1 (order.refs heap.next).2
      ⟨(channelCreate order create kernel heap options).kernel,
        (channelCreate order create kernel heap options).heap, [], []⟩ calls
    final.sent = final.delivered ++ final.kernel.queue end1 := by
  rw [channelCreate, createPair_of_ok answer]
  have linked : (Exchanged.mk made (order.createBoth heap end0 end1) [] []).toDuplex.Linked
      (Side.pick (order.refs heap.next).1 (order.refs heap.next).2) (Side.pick end0 end1) :=
    ⟨fun side => by cases side; exacts [peer0, peer1],
      fun side => by cases side <;> cases order <;> simp [toDuplex, Side.pick, ArgumentOrder.refs],
      fun side => by cases side <;> simp [toDuplex, Side.pick]⟩
  refine ⟨rfl, ?_⟩
  simpa [empty] using run_in_order policy created lists linked calls

/-- A kernel that makes the pair `1`, `2`, with the second `Handle` created first as GCC does: the
message written on the `Handle` of `1` is delivered to the one of `2`. -/
theorem channelCreate_then_exchange_connected :
    (channelCreate .rightToLeft (fun _ _ => ((mxOk, 1, 2), Channels.connect 1 2))
        (Channels.connect 0 0) (Heap.ofList []) 0).result = ⟨mxOk, some (1, 0)⟩ ∧
    let final := Exchanged.run (fun _ _ => none) DartVm.granting 1 0
      ⟨(channelCreate .rightToLeft (fun _ _ => ((mxOk, 1, 2), Channels.connect 1 2))
          (Channels.connect 0 0) (Heap.ofList []) 0).kernel,
        (channelCreate .rightToLeft (fun _ _ => ((mxOk, 1, 2), Channels.connect 1 2))
          (Channels.connect 0 0) (Heap.ofList []) 0).heap, [], []⟩ [.write [7] [], .read]
    final.sent = final.delivered ++ final.kernel.queue 2 :=
  channelCreate_then_exchange .rightToLeft (fun _ _ => none) rfl DartVm.granting_newList rfl rfl rfl
    rfl _

end Exchanged

end Fidl.Dart
