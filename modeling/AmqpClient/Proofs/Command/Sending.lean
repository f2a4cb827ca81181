import AmqpClient.Proofs.Command.Writing
import AmqpClient.Proofs.Outlet
import AmqpClient.Declaration
import Mathlib.Data.List.Flatten

/-! Many calls on one transmitter over a sink that never fails. Every frame that a call wrote goes out, in
the order of the calls, those of failed calls among them: they wait in the outlet for the next call that
succeeds. So what goes out is the commands that succeeded, and no more, exactly if every call that failed
did so before its first frame. -/
namespace AmqpClient.Transmitter

/- A command that is sent again is a value of its own, the one whose body is taken. -/
inductive Call
  | transmit (command : Assembler) (channel : UInt16)
  | heartbeat

namespace Call

def perform (transmitter : Transmitter) : Call → Except Error Unit × Transmitter
  | transmit command channel =>
    let (result, _, transmitter) := transmitter.transmit command channel
    (result, transmitter)
  | heartbeat => transmitter.heartbeat

def frames (frameMax : UInt32) : Call → List Frame
  | transmit command channel => (Command.collected command channel frameMax).state
  | heartbeat => [Frame.heartbeat]

def output (frameMax : UInt32) (call : Call) : Bytes := ((call.frames frameMax).map Frame.encode).flatten

def answer (frameMax : UInt32) : Call → Except Error Unit
  | transmit command channel => (Command.collected command channel frameMax).result.map fun _ => ()
  | heartbeat => .ok ()

def Speechless : Call → Prop
  | transmit command channel => Command.Speechless command channel
  | heartbeat => False

theorem outputSpeechless (frameMax : UInt32) (call : Call) : call.output frameMax = [] ↔ call.Speechless := by
  cases call with
  | heartbeat => exact iff_of_false (List.cons_ne_nil _ _) id
  | transmit command channel =>
    refine Iff.trans ?_ (Command.collectedSpeechless command channel frameMax)
    simp only [output, frames]
    cases (Command.collected command channel frameMax).state with
    | nil => simp
    | cons frame rest => simp [Frame.encode, Frame.encodeHeader]

end Call

theorem putAllTireless {outlet : Outlet} (frames : List Frame) (tireless : outlet.sink.Tireless) :
    ∃ next, Command.putAll Outlet.writeFrame frames outlet = (.ok (), next) ∧
      Outlet.Gained (frames.map Frame.encode).flatten outlet next := by
  induction frames generalizing outlet with
  | nil => exact ⟨outlet, rfl, Outlet.Gained.refl outlet⟩
  | cons frame rest ih =>
    obtain ⟨middle, written, gained⟩ := Outlet.writeFrameTireless frame tireless
    obtain ⟨next, later, more⟩ := ih (gained.tireless tireless)
    refine ⟨next, ?_, gained.trans more⟩
    simp only [Command.putAll, written, later]

theorem flushTireless (transmitter : Transmitter) (tireless : transmitter.outlet.sink.Tireless) :
    ∃ outlet, transmitter.flush = (.ok (), { transmitter with outlet }) ∧
      Outlet.Gained [] transmitter.outlet outlet ∧ outlet.held = #[] := by
  obtain ⟨outlet, flushed, gained, empty⟩ := Outlet.flushTireless tireless
  exact ⟨outlet, by simp only [flush, flushed], gained, empty⟩

theorem performTireless {transmitter : Transmitter} (call : Call)
    (tireless : transmitter.outlet.sink.Tireless) :
    ∃ outlet, call.perform transmitter
        = (call.answer transmitter.frameMax, { transmitter with outlet }) ∧
      Outlet.Gained (call.output transmitter.frameMax) transmitter.outlet outlet ∧
      (call.answer transmitter.frameMax = .ok () → outlet.held = #[]) := by
  cases call with
  | heartbeat =>
    obtain ⟨middle, written, gained⟩ := Outlet.writeFrameTireless Frame.heartbeat tireless
    obtain ⟨outlet, flushed, more, empty⟩ :=
      flushTireless { transmitter with outlet := middle } (gained.tireless tireless)
    refine ⟨outlet, ?_, ?_, fun _ => empty⟩
    · simp only [Call.perform, heartbeat, written, flushed, Call.answer]
    · simpa [Call.output, Call.frames] using gained.trans more
  | transmit command channel =>
    obtain ⟨middle, written, gained⟩ := putAllTireless
      (Command.collected command channel transmitter.frameMax).state tireless
    have delivered := Command.writeCollected Outlet.writeFrame transmitter.outlet command channel
      transmitter.frameMax
    simp only [Command.deliver, written, Prod.mk.injEq] at delivered
    obtain ⟨result, state⟩ := delivered
    simp only [Call.perform, transmit, Call.answer, result, state]
    cases collected : (Command.collected command channel transmitter.frameMax).result with
    | error e => exact ⟨middle, rfl, gained, fun failed => absurd failed (by simp [Except.map])⟩
    | ok count =>
      obtain ⟨outlet, flushed, more, empty⟩ :=
        flushTireless { transmitter with outlet := middle } (gained.tireless tireless)
      refine ⟨outlet, ?_, ?_, fun _ => empty⟩
      · simp only [flushed, Except.map]
      · simpa [Call.output, Call.frames] using gained.trans more

def performAll : List Call → Transmitter → List (Call × Except Error Unit) × Transmitter
  | [], transmitter => ([], transmitter)
  | call :: rest, transmitter =>
    let (result, transmitter) := call.perform transmitter
    let (answered, transmitter) := performAll rest transmitter
    ((call, result) :: answered, transmitter)

def outputs (frameMax : UInt32) (answered : List (Call × Except Error Unit)) : Bytes :=
  answered.flatMap fun (call, _) => call.output frameMax

def succeeded (answered : List (Call × Except Error Unit)) : List (Call × Except Error Unit) :=
  answered.filter fun (_, result) => result.isOk

theorem performAllTireless (transmitter : Transmitter) (calls : List Call)
    (tireless : transmitter.outlet.sink.Tireless) :
    ∃ answered outlet, performAll calls transmitter = (answered, { transmitter with outlet }) ∧
      answered = calls.map (fun call => (call, call.answer transmitter.frameMax)) ∧
      Outlet.Gained (outputs transmitter.frameMax answered) transmitter.outlet outlet ∧
      ∀ call, answered.getLast? = some (call, .ok ()) → outlet.held = #[] := by
  induction calls generalizing transmitter with
  | nil => exact ⟨[], transmitter.outlet, rfl, rfl, Outlet.Gained.refl _, by simp⟩
  | cons call rest ih =>
    obtain ⟨middle, performed, gained, settled⟩ := performTireless call tireless
    obtain ⟨answered, outlet, later, each, more, last⟩ :=
      ih { transmitter with outlet := middle } (gained.tireless tireless)
    refine ⟨(call, call.answer transmitter.frameMax) :: answered, outlet, ?_, ?_, gained.trans more, ?_⟩
    · simp only [performAll, performed, later]
    · rw [List.map_cons, each]
    · intro final ended
      cases answered with
      | nil =>
        obtain rfl : rest = [] := List.map_eq_nil_iff.mp each.symm
        obtain rfl : middle = outlet := congrArg (fun after => after.2.outlet) later
        exact settled (congrArg Prod.snd (Option.some.inj ended))
      | cons next others => exact last final (by simpa using ended)

theorem outputsSucceeded (frameMax : UInt32) (answered : List (Call × Except Error Unit)) :
    outputs frameMax answered = outputs frameMax (succeeded answered) ↔
      ∀ call e, (call, .error e) ∈ answered → call.Speechless := by
  induction answered with
  | nil => simp [succeeded]
  | cons first rest ih =>
    obtain ⟨call, result⟩ := first
    cases result with
    | ok _ =>
      have kept : succeeded ((call, .ok ()) :: rest) = (call, .ok ()) :: succeeded rest := rfl
      simp only [kept, outputs, List.flatMap_cons, List.append_cancel_left_eq, List.mem_cons,
        Prod.mk.injEq, reduceCtorEq, and_false, false_or]
      exact ih
    | error e =>
      have dropped : succeeded ((call, .error e) :: rest) = succeeded rest := rfl
      have shorter : (outputs frameMax (succeeded rest)).length ≤ (outputs frameMax rest).length :=
        (List.Sublist.flatMap List.filter_sublist _).length_le
      have front : outputs frameMax ((call, .error e) :: rest)
          = call.output frameMax ++ outputs frameMax rest := rfl
      rw [dropped, front]
      constructor
      · intro whole
        have silent : call.output frameMax = [] := by
          have length := congrArg List.length whole
          rw [List.length_append] at length
          exact List.length_eq_zero_iff.mp (by omega)
        rw [silent, List.nil_append] at whole
        intro other e' member
        rcases List.mem_cons.mp member with same | later
        · obtain ⟨rfl, _⟩ := Prod.mk.inj same
          exact (Call.outputSpeechless frameMax _).mp silent
        · exact ih.mp whole other e' later
      · intro speechless
        have silent := (Call.outputSpeechless frameMax call).mpr (speechless call e List.mem_cons_self)
        rw [silent, List.nil_append]
        exact ih.mpr fun other e' later => speechless other e' (List.mem_cons_of_mem _ later)

theorem acceptedAfterSuccess (frameMax : UInt32) (most : Nat → Option Nat)
    (brisk : ∀ turn, most turn ≠ some 0) (calls : List Call)
    (answered : List (Call × Except Error Unit)) (final : Transmitter)
    (performed : performAll calls { frameMax, outlet := { sink := { most } } } = (answered, final)) :
    final.outlet.produced = outputs frameMax answered ∧
      ∀ call, answered.getLast? = some (call, .ok ()) →
        final.outlet.sink.accepted.toList = outputs frameMax answered ∧
        (final.outlet.sink.accepted.toList = outputs frameMax (succeeded answered) ↔
          ∀ call e, (call, .error e) ∈ answered → call.Speechless) := by
  obtain ⟨_, outlet, after, _, gained, settled⟩ := performAllTireless
    { frameMax, outlet := { sink := { most } } } calls ⟨rfl, brisk⟩
  obtain ⟨rfl, rfl⟩ := Prod.mk.inj (performed.symm.trans after)
  refine ⟨gained.produced, fun call ended => ?_⟩
  have accepted : outlet.sink.accepted.toList = outputs frameMax answered := by
    have whole := gained.produced
    rwa [Outlet.produced, settled call ended, List.append_nil] at whole
  exact ⟨accepted, accepted ▸ outputsSucceeded frameMax answered⟩

def cutShort : Assembler where
  state := .complete
  method := some (({ routingKey := "", body := .empty } : Publish).method "")
  header := some (.basic 5 .empty)
  body := .supplied (.ofSource (.ofBytes [1, 2]) 5)

theorem acceptedInThrees :
    (∀ turn, (fun _ : Nat => some 3) turn ≠ some 0) ∧
      (performAll [.transmit cutShort 1, .heartbeat]
          { frameMax := 4096, outlet := { sink := { most := fun _ => some 3 } } }).2.outlet.sink.accepted.toList
        = outputs 4096 [(.transmit cutShort 1, .error (.bodyTooShort 5 2)), (.heartbeat, .ok ())] := by
  have brisk : ∀ turn, (fun _ : Nat => some 3) turn ≠ some 0 := by simp
  have sent := (acceptedAfterSuccess 4096 (fun _ => some 3) brisk [.transmit cutShort 1, .heartbeat]
    [(.transmit cutShort 1, .error (.bodyTooShort 5 2)), (.heartbeat, .ok ())] _ rfl).2 .heartbeat rfl
  exact ⟨brisk, sent.1⟩

theorem failedCallReachesSink :
    (performAll [.transmit cutShort 1, .heartbeat] { frameMax := 4096 }).1
        = [(.transmit cutShort 1, .error (.bodyTooShort 5 2)), (.heartbeat, .ok ())] ∧
      (performAll [.transmit cutShort 1, .heartbeat] { frameMax := 4096 }).2.outlet.sink.accepted.toList
        ≠ outputs 4096
          (succeeded [(.transmit cutShort 1, .error (.bodyTooShort 5 2)), (.heartbeat, .ok ())]) :=
  ⟨rfl, by decide⟩

end AmqpClient.Transmitter
