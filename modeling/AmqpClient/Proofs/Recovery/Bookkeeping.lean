import AmqpClient.Proofs.Recovery.Attending
import AmqpClient.Recovery.Rehearsal

/-! What the calls on a recovering channel leave in its record. Only a call that succeeds is noted, so a
run of calls with those that failed left out comes to the same record. -/
namespace AmqpClient

namespace ChannelRecord

def noteAll (record : ChannelRecord) (calls : List (Request × Except Error Reply)) : ChannelRecord :=
  calls.foldl (fun record call => record.note call.1 call.2) record

def succeeded (call : Request × Except Error Reply) : Bool := call.2.isOk

theorem noteAllSucceeded (record : ChannelRecord) (calls : List (Request × Except Error Reply)) :
    record.noteAll (calls.filter succeeded) = record.noteAll calls := by
  induction calls generalizing record with
  | nil => rfl
  | cons call calls ih =>
    obtain ⟨request, result⟩ := call
    cases result with
    | error e => exact ih record
    | ok reply => exact ih (record.learn request reply)

end ChannelRecord

namespace RecoveringChannel

variable {ω η κ : Type} (link : Link ω η κ)

theorem askRecord (self : RecoveringChannel ω η κ) (request : Request) :
    (self.ask link request).2.record = self.record :=
  (attendAttended link { self with world := (link.request self.delegate request self.world).2 }).record

theorem callRecord {request : Request} (lasting : request ≠ .close) (self : RecoveringChannel ω η κ) :
    (self.call link request).2.record = self.record.note request (self.call link request).1 := by
  unfold call
  cases request.check with
  | error e => rfl
  | ok =>
    dsimp only
    split
    · rfl
    · split
      · exact absurd rfl lasting
      · dsimp only
        rw [askRecord]

/- Calls other than close, with what each came to, and whatever else happens to a channel between them except
that it is closed or recovered. -/
inductive Conducts : RecoveringChannel ω η κ → List (Request × Except Error Reply) → RecoveringChannel ω η κ → Prop
  | done (self) : Conducts self [] self
  | call {self request calls last} (lasting : request ≠ .close)
      (later : Conducts (self.call link request).2 calls last) :
      Conducts self ((request, (self.call link request).1) :: calls) last
  | attend {self calls last} (later : Conducts (self.attend link) calls last) : Conducts self calls last
  | disturb {self : RecoveringChannel ω η κ} {calls last} (world : ω)
      (later : Conducts { self with world } calls last) : Conducts self calls last
  | listen {self calls last} (kind listener) (later : Conducts (self.addListener kind listener).2 calls last) :
      Conducts self calls last
  | unlisten {self calls last} (kind id) (later : Conducts (self.removeListener kind id).2 calls last) :
      Conducts self calls last
  | follow {self calls last} (listener) (later : Conducts (self.addRecoveryListener listener).2 calls last) :
      Conducts self calls last
  | unfollow {self calls last} (id) (later : Conducts (self.removeRecoveryListener id).2 calls last) :
      Conducts self calls last

variable {link} {self last : RecoveringChannel ω η κ} {calls : List (Request × Except Error Reply)}

theorem Conducts.record (conducts : Conducts link self calls last) : last.record = self.record.noteAll calls := by
  induction conducts with
  | done self => rfl
  | @call self request calls last lasting later ih =>
    rw [ih, callRecord link lasting]
    rfl
  | @attend self calls last later ih =>
    rw [ih, (attendAttended link self).record]
  | disturb | listen | unlisten | follow | unfollow => assumption

theorem callAllowed {request : Request} {reply : Reply} (granted : (self.call link request).1 = .ok reply) :
    request.check = .ok () := by
  unfold call at granted
  cases checked : request.check with
  | error e => simp [checked] at granted
  | ok => rfl

theorem Conducts.allowed (conducts : Conducts link self calls last) :
    ∀ call ∈ calls.filter ChannelRecord.succeeded,
      call.1 ≠ .close ∧ call.1.check = .ok () ∧ ∃ reply, call.2 = .ok reply := by
  induction conducts with
  | done self => exact List.forall_mem_nil _
  | @call self request calls last lasting later ih =>
    intro call member
    obtain ⟨member, good⟩ := List.mem_filter.mp member
    rcases List.mem_cons.mp member with rfl | member
    · cases result : (self.call link request).1 with
      | error e => simp [ChannelRecord.succeeded, result, Except.isOk, Except.toBool] at good
      | ok reply => exact ⟨lasting, callAllowed result, reply, rfl⟩
    · exact ih call (List.mem_filter.mpr ⟨member, good⟩)
  | attend | disturb | listen | unlisten | follow | unfollow => assumption

/- A link on which nothing happens of its own accord: its world is the answer to whatever is asked next. -/
def answering : Link (Except Error Reply) Unit Unit where
  connect answer := (.ok (), answer)
  openChannel _ number answer := (.ok (number.getD 0, ()), answer)
  attach _ _ answer := answer
  request _ _ answer := (answer, answer)
  dropChannel _ answer := answer
  dropConnection _ answer := answer
  tell _ _ answer := answer
  hear _ _ answer := (.ok (), answer)
  raised answer := ([], answer)

theorem answeringConducts {calls : List (Request × Except Error Reply)}
    (allowed : ∀ call ∈ calls, call.1 ≠ .close ∧ call.1.check = .ok () ∧ ∃ reply, call.2 = .ok reply)
    (self : RecoveringChannel (Except Error Reply) Unit Unit) (usable : self.status = .open) :
    ∃ last, Conducts answering self calls last := by
  induction calls generalizing self with
  | nil => exact ⟨self, .done self⟩
  | cons call calls ih =>
    obtain ⟨request, result⟩ := call
    obtain ⟨⟨lasting, checked, reply, granted⟩, allowed⟩ := List.forall_mem_cons.mp allowed
    have answered : ∃ record, RecoveringChannel.call answering { self with world := result } request
        = (result, { self with record, world := result }) := by
      unfold RecoveringChannel.call
      simp only at checked granted lasting
      rw [checked, granted]
      cases request with
      | close => exact absurd rfl lasting
      | _ => simp [ask, attend, answering, usable]
    obtain ⟨record, answered⟩ := answered
    obtain ⟨last, later⟩ := ih allowed { self with record, world := result } usable
    have after : Conducts answering (RecoveringChannel.call answering { self with world := result } request).2
        calls last := by
      rw [answered]
      exact later
    have here := Conducts.call lasting after
    rw [answered] at here
    exact ⟨last, .disturb result here⟩

theorem failedCallsLeaveNoTrace (conducts : Conducts link self calls last) :
    (∀ {ω η κ : Type} (other : Link ω η κ) (start final : RecoveringChannel ω η κ), start.record = self.record →
      Conducts other start (calls.filter ChannelRecord.succeeded) final → final.record = last.record) ∧
    ∃ start final : RecoveringChannel (Except Error Reply) Unit Unit, start.record = self.record ∧
      Conducts answering start (calls.filter ChannelRecord.succeeded) final := by
  constructor
  · intro ω η κ other start final same again
    rw [again.record, conducts.record, same, ChannelRecord.noteAllSucceeded]
  · let start : RecoveringChannel (Except Error Reply) Unit Unit :=
      { options := {}, channel := 0, delegate := (), connection := (), generation := 0, record := self.record
        world := .ok .done }
    obtain ⟨final, again⟩ := answeringConducts conducts.allowed start rfl
    exact ⟨start, final, rfl, again⟩

def refusing : RecoveringChannel Rehearsal Nat Nat :=
  { options := {}, channel := 7, delegate := 0, connection := 1, generation := 1
    world := { script := { fail := "queue.declare spare" }, channels := [⟨7, 1, false, false, [], some 1⟩] } }

def declarations : List Request := [.declareQueue "orders" {}, .declareQueue "spare" {}, .selectConfirm]

theorem refusedQueueLeavesNoTrace :
    ∃ calls last, Conducts Rehearsal.link refusing calls last ∧
      calls.map ChannelRecord.succeeded = [true, false, true] ∧
      ∀ final, Conducts Rehearsal.link refusing (calls.filter ChannelRecord.succeeded) final →
        final.record = last.record := by
  have first : declarations[0] ≠ .close := by simp [declarations]
  have second : declarations[1] ≠ .close := by simp [declarations]
  have third : declarations[2] ≠ .close := by simp [declarations]
  have conducts : Conducts Rehearsal.link refusing _ _ :=
    .call first (.call second (.call third (.done _)))
  refine ⟨_, _, conducts, rfl, fun final again => ?_⟩
  exact (failedCallsLeaveNoTrace conducts).1 Rehearsal.link refusing final rfl again

end RecoveringChannel

end AmqpClient
