import AmqpClient.Command.Custody
import AmqpClient.Proofs.Command.Supplied

/-! What handling a frame in place comes to. Each step of a handling has one equation, and put together they say
that a frame which is refused leaves everything as it was, while one that is accepted makes the assembler what
plain assembly makes it; besides, only a header that declares bytes touches the directory, and only one that asks
for more than memory can have makes the assembler panic. -/
namespace AmqpClient

namespace SpillOptions

def fits (options : SpillOptions) (size : UInt64) : Bool :=
  options.spills size || decide (size.toNat ≤ Bytes.longest)

theorem fitsSpilled {options : SpillOptions} {size : UInt64} (spilled : options.spills size = true) :
    options.fits size = true := by
  rw [fits, spilled, Bool.true_or]

@[simp] theorem fitsNothing (options : SpillOptions) : options.fits 0 = true :=
  Bool.or_eq_true_iff.mpr (.inr rfl)

end SpillOptions

namespace Assembler

def overwhelmed (assembler : Assembler) (frame : Frame) : Bool :=
  assembler.state == .expectingContentHeader &&
    match frame.contentHeader with
    | .ok header => !assembler.spill.fits header.bodySize
    | .error _ => false

theorem overwhelmedIff {assembler : Assembler} {frame : Frame} :
    assembler.overwhelmed frame = true ↔ assembler.state = .expectingContentHeader ∧
      ∃ header, frame.contentHeader = .ok header ∧ assembler.spill.fits header.bodySize = false := by
  unfold overwhelmed
  cases frame.contentHeader <;> simp

end Assembler

/- Assembly without effects is in `Except`, whose binds are opened by these two. -/
theorem okBind (value : α) (next : α → Except ε β) : (Except.ok value >>= next) = next value := rfl

theorem errorBind (e : ε) (next : α → Except ε β) : (Except.error e >>= next) = .error e := rfl

namespace Custody

def roomFor (custody : Custody) (next : Assembler) (size : UInt64) : Custody :=
  if custody.assembler.spill.spills size then
    { custody with
      assembler := next, file := some custody.directory.newName
      directory := custody.directory.create.letGo custody.file }
  else { custody with assembler := next, file := none, directory := custody.directory.letGo custody.file }

@[simp] theorem roomForAssembler (custody : Custody) (next : Assembler) (size : UInt64) :
    (custody.roomFor next size).assembler = next := by
  unfold roomFor
  split <;> rfl

def onward (custody : Custody) (next : Assembler) : Custody :=
  if custody.assembler.state = .expectingContentHeader ∧ next.state = .expectingContentBody then
    custody.roomFor next next.remaining
  else { custody with assembler := next }

end Custody

namespace Handling

variable {α β : Type} {custody : Custody}

@[simp] theorem runPure (value : α) : (pure value : Handling α).run custody = (.ok value, custody) := rfl

@[simp] theorem runThrow (failure : Failure) :
    (throw failure : Handling α).run custody = (.error failure, custody) := rfl

@[simp] theorem runRefuse (e : Error) : (refuse e : Handling α).run custody = (.error (.refused e), custody) := rfl

@[simp] theorem runGet : (get : Handling Custody).run custody = (.ok custody, custody) := rfl

@[simp] theorem runSet (next : Custody) : (set next : Handling PUnit).run custody = (.ok (), next) := rfl

@[simp] theorem runUpdate (change : Assembler → Assembler) :
    (update change).run custody = (.ok (), { custody with assembler := change custody.assembler }) := rfl

@[simp] theorem runBind (first : Handling α) (next : α → Handling β) :
    (first >>= next).run custody =
      match first.run custody with
      | (.ok value, after) => (next value).run after
      | (.error e, after) => (.error e, after) := by
  simp only [run, ExceptT.run, bind, ExceptT.bind, ExceptT.mk, StateT.run, StateT.bind]
  rcases first custody with ⟨e | value, after⟩ <;> rfl

@[simp] theorem runMap (change : α → β) (first : Handling α) :
    (change <$> first).run custody =
      match first.run custody with
      | (.ok value, after) => (.ok (change value), after)
      | (.error e, after) => (.error e, after) := by
  rw [map_eq_pure_bind, runBind]
  rfl

@[simp] theorem runIf (condition : Prop) [Decidable condition] (one other : Handling α) :
    (if condition then one else other).run custody
      = if condition then one.run custody else other.run custody := by
  split <;> rfl

@[simp] theorem runExcept (result : Except Error α) :
    (ofExcept result).run custody = (result.mapError .refused, custody) := by
  cases result <;> rfl

@[simp] theorem runExpect (expected : FrameKind) (frame : Frame) :
    (expect expected frame).run custody =
      if frame.kind = expected then (.ok (), custody)
      else (.error (.refused (.unexpectedFrame expected frame.kind)), custody) := by
  unfold expect
  split <;> rfl

@[simp] theorem runReplaceBody (body : BodySlot) (file : Option FileName) :
    (replaceBody body file).run custody = (.ok (),
      { custody with
        assembler := { custody.assembler with body }, file
        directory := custody.directory.letGo custody.file }) := rfl

@[simp] theorem runTakeFile : takeFile.run custody = (.ok custody.file, { custody with file := none }) := rfl

@[simp] theorem runHandOver (body : ContentBody) (file : Option FileName) :
    (handOver body file).run custody
      = (.ok body, { custody with handed := custody.handed ++ [⟨body, file⟩] }) := rfl

theorem runAllocate (size : UInt64) :
    (allocate size).run custody =
      if custody.assembler.spill.fits size then
        if custody.assembler.spill.spills size then
          match custody.assembler.spill.create with
          | .ok buffer => (.ok (.spilling buffer, some custody.directory.newName),
              { custody with directory := custody.directory.create })
          | .error e => (.error (.refused e), custody)
        else (.ok (.memory [], none), custody)
      else (.error .panicked, custody) := by
  cases spilled : custody.assembler.spill.spills size with
  | true =>
    cases created : custody.assembler.spill.create <;>
      simp [allocate, spilled, SpillOptions.fitsSpilled, created, Except.mapError]
  | false =>
    by_cases most : size.toNat ≤ Bytes.longest
    · have within : ¬ Bytes.longest < size.toNat := Nat.not_lt.mpr most
      simp [allocate, spilled, SpillOptions.fits, most, within]
    · have beyond : Bytes.longest < size.toNat := Nat.lt_of_not_le most
      simp [allocate, spilled, SpillOptions.fits, most, beyond]

theorem runAcceptHeader (header : ContentHeader) :
    (acceptHeader header).run custody =
      if custody.assembler.spill.fits header.bodySize then
        match custody.assembler.acceptHeader header with
        | .ok next => (.ok (), if header.bodySize = 0 then { custody with assembler := next }
            else custody.roomFor next header.bodySize)
        | .error e => (.error (.refused e), custody)
      else (.error .panicked, custody) := by
  by_cases zero : header.bodySize = 0
  · simp [acceptHeader, Assembler.acceptHeader, zero]
  · cases fits : custody.assembler.spill.fits header.bodySize with
    | false => simp [acceptHeader, zero, fits, runAllocate]
    | true =>
      cases spilled : custody.assembler.spill.spills header.bodySize with
      | false =>
        simp [acceptHeader, Assembler.acceptHeader, Custody.roomFor, zero, fits, spilled, runAllocate]
      | true =>
        cases created : custody.assembler.spill.create <;>
          simp [acceptHeader, Assembler.acceptHeader, Custody.roomFor, zero, fits, spilled, created, runAllocate,
            okBind, errorBind]

theorem runAppendBody (payload : Bytes) :
    (appendBody payload).run custody =
      match custody.assembler.appendBody payload with
      | .ok next => (.ok (), { custody with assembler := next })
      | .error e => (.error (.refused e), custody) := by
  by_cases overfull : custody.assembler.remaining.toNat < payload.length
  · simp [appendBody, Assembler.appendBody, overfull]
  · by_cases left : custody.assembler.remaining - UInt64.ofNat payload.length = 0 <;>
      cases held : custody.assembler.body <;>
        simp [appendBody, Assembler.appendBody, overfull, left, held]

theorem lockedPoisoned (handling : Handling α) (poisoned : custody.poisoned = true) :
    handling.locked custody = (.error .panicked, custody) := by
  rw [locked, if_pos poisoned]

end Handling

namespace Custody

theorem onwardHeader {custody : Custody} {next : Assembler} {header : ContentHeader}
    (waiting : custody.assembler.state = .expectingContentHeader)
    (accepted : custody.assembler.acceptHeader header = .ok next) :
    custody.onward next =
      if header.bodySize = 0 then { custody with assembler := next } else custody.roomFor next header.bodySize := by
  by_cases zero : header.bodySize = 0
  · rw [Assembler.acceptHeaderEmpty _ zero] at accepted
    obtain rfl := Except.ok.inj accepted
    simp [onward, zero]
  · obtain rfl := Assembler.acceptHeaderKept zero accepted
    simp [onward, waiting, zero]

def heed (custody : Custody) (frame : Frame) : Except Error Bool × Custody :=
  match custody.assembler.accept frame with
  | .ok next => (.ok next.isComplete, custody.onward next)
  | .error e => (.error e, custody)

theorem handleOf (custody : Custody) (frame : Frame) :
    (Handling.handle frame).run custody =
      if custody.assembler.overwhelmed frame then (.error .panicked, custody)
      else ((custody.heed frame).1.mapError .refused, (custody.heed frame).2) := by
  unfold Handling.handle heed Assembler.overwhelmed Assembler.accept
  cases waiting : custody.assembler.state with
  | expectingMethod =>
    by_cases kind : frame.kind = .method
    · cases parsed : frame.method <;> simp [onward, waiting, kind, okBind, errorBind, Except.mapError]
    · simp [waiting, kind, Except.mapError]
  | expectingContentHeader =>
    by_cases kind : frame.kind = .header
    · cases parsed : frame.contentHeader with
      | error e => simp [waiting, kind, errorBind, Except.mapError]
      | ok header =>
        cases fits : custody.assembler.spill.fits header.bodySize with
        | false => simp [Handling.runAcceptHeader, waiting, kind, fits, Except.mapError]
        | true =>
          cases accepted : custody.assembler.acceptHeader header with
          | error e => simp [Handling.runAcceptHeader, waiting, kind, fits, accepted, okBind, Except.mapError]
          | ok next =>
            by_cases zero : header.bodySize = 0 <;>
              simp [Handling.runAcceptHeader, onwardHeader waiting accepted, waiting, kind, fits, accepted,
                okBind, zero, Except.mapError]
    · have unread : ∀ header, frame.contentHeader ≠ .ok header := fun _ parsed => kind (Frame.kindOfHeader parsed)
      cases parsed : frame.contentHeader with
      | ok header => exact absurd parsed (unread header)
      | error e => simp [waiting, kind, Except.mapError]
  | expectingContentBody =>
    by_cases kind : frame.kind = .body
    · cases appended : custody.assembler.appendBody frame.payload <;>
        simp [Handling.runAppendBody, onward, waiting, kind, appended, Except.mapError]
    · simp [waiting, kind, Except.mapError]
  | complete => simp [waiting, Except.mapError]

theorem feedOf (custody : Custody) (frame : Frame) :
    custody.feed frame =
      if custody.poisoned then (.error .panicked, custody)
      else if custody.assembler.overwhelmed frame then (.error .panicked, { custody with poisoned := true })
      else ((custody.heed frame).1.mapError .refused, (custody.heed frame).2) := by
  cases poisoned : custody.poisoned with
  | true => exact Handling.lockedPoisoned _ poisoned
  | false =>
    unfold feed Handling.locked
    rw [handleOf, poisoned]
    cases custody.assembler.overwhelmed frame with
    | true => rfl
    | false => rcases custody.heed frame with ⟨e | complete, next⟩ <;> rfl

theorem feedCases (custody : Custody) (frame : Frame) :
    (∃ failure, custody.feed frame = (.error failure, custody)) ∨
      custody.feed frame = (.error .panicked, { custody with poisoned := true }) ∨
      ∃ next, custody.assembler.accept frame = .ok next ∧
        custody.feed frame = (.ok next.isComplete, custody.onward next) := by
  rw [feedOf]
  split
  · exact .inl ⟨_, rfl⟩
  · split
    · exact .inr (.inl rfl)
    · unfold heed
      cases custody.assembler.accept frame with
      | error e => exact .inl ⟨_, rfl⟩
      | ok next => exact .inr (.inr ⟨next, rfl, rfl⟩)

def given (custody : Custody) (body : ContentBody) (next : Assembler) : Custody :=
  match custody.assembler.body with
  | .spilling _ | .supplied _ =>
    { custody with assembler := next, file := none, handed := custody.handed ++ [⟨body, custody.file⟩] }
  | _ => { custody with assembler := next, handed := custody.handed ++ [⟨body, none⟩] }

theorem takingOf (custody : Custody) :
    Handling.take.run custody =
      match custody.assembler.takeBody with
      | (.ok body, next) => (.ok body, custody.given body next)
      | (.error e, _) => (.error (.refused e), custody) := by
  by_cases collecting : custody.assembler.state = .expectingContentBody
  · simp [Handling.take, Assembler.takeBody, collecting]
  · cases held : custody.assembler.body with
    | taken =>
      have same : { custody.assembler with body := .taken } = custody.assembler := by rw [← held]
      simp [Handling.take, Assembler.takeBody, collecting, held, same]
    | absent | memory | spilling | supplied =>
      simp [Handling.take, Assembler.takeBody, given, collecting, held]

theorem takeOf (custody : Custody) :
    custody.take =
      if custody.poisoned then (.error .panicked, custody)
      else
        match custody.assembler.takeBody with
        | (.ok body, next) => (.ok body, custody.given body next)
        | (.error e, _) => (.error (.refused e), custody) := by
  cases poisoned : custody.poisoned with
  | true => exact Handling.lockedPoisoned _ poisoned
  | false =>
    unfold take Handling.locked
    rw [takingOf, poisoned]
    rcases custody.assembler.takeBody with ⟨e | body, next⟩ <;> rfl

theorem takeCases (custody : Custody) :
    (∃ failure, custody.take = (.error failure, custody)) ∨
      ∃ body next, custody.assembler.takeBody = (.ok body, next) ∧ custody.take = (.ok body, custody.given body next) := by
  rw [takeOf]
  split
  · exact .inl ⟨_, rfl⟩
  · rcases custody.assembler.takeBody with ⟨e | body, next⟩
    · exact .inl ⟨_, rfl⟩
    · exact .inr ⟨body, next, rfl, rfl⟩

inductive Act
  | feed (frame : Frame)
  | take
  | read (index room : Nat)
  | drain (index : Nat)
  | drop (index : Nat)

/- What comes of an act. Of a body that is handed out this is its length and all that can be read of it. -/
inductive Outcome
  | fed (result : Except Failure Bool)
  | took (result : Except Failure (UInt64 × Except Error Bytes))
  | read (result : Option (Except IoFault Bytes))
  | drained (result : Option (Except Error Bytes))
  | dropped

def act (custody : Custody) : Act → Outcome × Custody
  | .feed frame => (.fed (custody.feed frame).1, (custody.feed frame).2)
  | .take => (.took (custody.take.1.map fun body => (body.length, body.remainder)), custody.take.2)
  | .read index room => (.read (custody.read index room).1, (custody.read index room).2)
  | .drain index => (.drained (custody.drain index).1, (custody.drain index).2)
  | .drop index => (.dropped, custody.drop index)

def run (custody : Custody) : List Act → List Outcome × Custody
  | [] => ([], custody)
  | act :: rest =>
    let (outcome, next) := custody.act act
    let (outcomes, last) := next.run rest
    (outcome :: outcomes, last)

@[simp] theorem runCons (custody : Custody) (act : Act) (rest : List Act) :
    custody.run (act :: rest) =
      ((custody.act act).1 :: ((custody.act act).2.run rest).1, ((custody.act act).2.run rest).2) := rfl

theorem runAppend (custody : Custody) (first second : List Act) :
    custody.run (first ++ second) =
      ((custody.run first).1 ++ ((custody.run first).2.run second).1, ((custody.run first).2.run second).2) := by
  induction first generalizing custody with
  | nil => rfl
  | cons act rest ih => simp only [List.cons_append, runCons, ih]

theorem runKeeps {P : Custody → Prop} (step : ∀ custody move, P custody → P (custody.act move).2)
    {custody : Custody} (start : P custody) (acts : List Act) : P (custody.run acts).2 := by
  induction acts generalizing custody with
  | nil => exact start
  | cons act rest ih => exact ih (step custody act start)

end Custody

end AmqpClient
