import AmqpClient.Connection.Live
import AmqpClient.Proofs.Connection.Working

/-! What an application does with a connection, one thing after the other, and what comes of it: the reader goes on in
between, and listeners let go of channels or of the connection while they are called. All of it is done to the same
connection, one thing at a time. -/
namespace AmqpClient

namespace LiveConnection

open Connection (Wrought)

variable {α : Type} {mended : Prop} {before core : Connection (ActingListener α)}

def Civil (mended : Prop) (before : Connection (ActingListener α)) (act : Acting α) : Prop :=
  ∀ side action line, Wrought mended before line.core →
    Wrought mended before (act side action line).core

section Reading

variable {act : Acting α} (civil : Civil mended before act)

include civil

theorem announceWrought (side : Side) (line : LiveConnection α)
    (wrought : Wrought mended before line.core) :
    Wrought mended before (line.announce act side).core := by
  refine List.foldlRecOn (motive := fun next : LiveConnection α => Wrought mended before next.core) _ _
    (wrought.passed line.core.intake line.core.assemblers {}) fun next wrought notice _ => ?_
  exact civil side notice.1.action (next.hear notice.1.label notice.2) wrought

theorem proceedWrought (side : Side) (line : LiveConnection α) (wrought : Wrought mended before core) :
    Wrought mended before (line.proceed act side core).core :=
  announceWrought civil side (line.adopt core) (wrought.passed core.intake core.assemblers _)

theorem readWithinWrought (enough : LiveConnection α → Bool) (fuel : Nat) (line : LiveConnection α)
    (wrought : Wrought mended before line.core) :
    Wrought mended before (readWithin enough act fuel line).core := by
  induction fuel generalizing line with
  | zero => exact wrought
  | succ fuel ih =>
    unfold readWithin
    split
    · exact wrought
    · split
      · exact wrought
      · rename_i step
        exact ih _ (proceedWrought civil .reader _ (wrought.stepped step))

theorem readUntilWrought (enough : LiveConnection α → Bool) (line : LiveConnection α)
    (wrought : Wrought mended before line.core) :
    Wrought mended before (line.readUntil enough act).core :=
  readWithinWrought civil enough _ line wrought

theorem callWrought (id : SlotId) (request : Request) (line : LiveConnection α)
    (wrought : Wrought mended before line.core) :
    Wrought mended before (line.call act id request).2.core := by
  have issued := wrought.issued id request
  unfold call
  split <;> rename_i answer
  · exact proceedWrought civil .application line (issued.into answer)
  · have asked := proceedWrought civil .application line (issued.into answer)
    have answered := readUntilWrought civil (replied id) _ asked
    exact proceedWrought civil .application _ (answered.concluded id request)

theorem releaseWrought (side : Side) (id : SlotId) (line : LiveConnection α)
    (wrought : Wrought mended before line.core) :
    Wrought mended before (line.release act side id).core := by
  unfold release
  dsimp only
  split
  · cases side with
    | reader => exact (proceedWrought civil .reader line (wrought.left id)).dropped id
    | application => exact (callWrought civil id .close line wrought).dropped id
  · exact wrought.dropped id

theorem dropChannelWrought (side : Side) (name : String) (line : LiveConnection α)
    (wrought : Wrought mended before line.core) :
    Wrought mended before (line.dropChannel act side name).2.core := by
  unfold dropChannel
  split
  · exact wrought
  · dsimp only
    split
    · exact wrought
    · exact releaseWrought civil side _ (line.forget name) wrought

theorem closeWrought (side : Side) (line : LiveConnection α)
    (wrought : Wrought mended before line.core) :
    Wrought mended before (line.close act side).2.core := by
  unfold close
  split
  · have asked := proceedWrought civil side { line with held := false } wrought.closeIssued
    cases side with
    | reader => exact asked
    | application => exact readUntilWrought civil _ _ asked
  · exact wrought

theorem claimWrought (asked : Option UInt16) (line : LiveConnection α)
    (wrought : Wrought mended before line.core) :
    Wrought mended before (line.claim act asked).2.core := by
  have issued := wrought.openIssued asked
  unfold claim
  split
  · rename_i answer
    exact proceedWrought civil .application line (issued.into answer)
  · rename_i number id core answer
    have asked := proceedWrought civil .application line (issued.into answer)
    have concluded := (readUntilWrought civil (replied id) _ asked).openConcluded id
    dsimp only
    split <;> rename_i ending <;> exact proceedWrought civil .application _ (concluded.into ending)

end Reading

theorem actWithinCivil (depth : Nat) : Civil mended before (actWithin (α := α) depth) := by
  induction depth with
  | zero => exact fun _ _ _ wrought => wrought
  | succ depth ih =>
    intro side action line wrought
    unfold actWithin
    split
    · exact wrought
    · exact wrought
    · exact dropChannelWrought ih side _ line wrought
    · exact closeWrought ih side line wrought

theorem openChannelWrought (name : String) (asked : Option UInt16) (line : LiveConnection α)
    (wrought : Wrought mended before line.core) :
    Wrought mended before (line.openChannel name asked).2.core := by
  have civil : Civil mended before line.acting := actWithinCivil _
  have claimed := claimWrought civil asked line wrought
  unfold openChannel
  split
  · exact wrought
  · dsimp only
    split <;> rename_i answer <;> rw [answer] at claimed
    · exact claimed
    · split
      · exact releaseWrought civil .application _ _ claimed
      · exact claimed

theorem unbusyWrought {act : Acting α} (civil : Civil mended before act) (id : SlotId)
    (line : LiveConnection α) (wrought : Wrought mended before line.core) :
    Wrought mended before (line.unbusy act id).core := by
  unfold unbusy
  dsimp only
  split
  · exact releaseWrought civil .application id _ wrought
  · exact wrought

theorem callNamedWrought (name : String) (request : Request) (line : LiveConnection α)
    (wrought : Wrought mended before line.core) :
    Wrought mended before (line.callNamed name request).2.core := by
  have civil : Civil mended before line.acting := actWithinCivil _
  unfold callNamed
  split
  · exact wrought
  · exact unbusyWrought civil _ _ (callWrought civil _ request _ wrought)

theorem addListenerWrought (name : String) (kind : EventKind) (listener : ActingListener α)
    (line : LiveConnection α) (wrought : Wrought mended before line.core) :
    Wrought mended before (line.addListener name kind listener).2.core := by
  unfold addListener listen
  split
  · exact wrought
  · split
    · exact wrought
    · rename_i there
      exact wrought.setSlot (.listen kind listener) there rfl

theorem removeListenerWrought (name : String) (kind : EventKind) (listener : ListenerId)
    (line : LiveConnection α) (wrought : Wrought mended before line.core) :
    Wrought mended before (line.removeListener name kind listener).2.core := by
  unfold removeListener
  split
  · exact wrought
  · rename_i id slot found
    obtain ⟨_, -, named⟩ := Option.bind_eq_some_iff.mp found
    obtain ⟨_, there, same⟩ := Option.map_eq_some_iff.mp named
    cases same
    exact wrought.setSlot (.unlisten kind listener) there rfl

/-! What comes of calls -/

theorem claimNumber {act : Acting α} {line : LiveConnection α} {asked : Option UInt16} {number : UInt16} {id : SlotId}
    (claimed : (line.claim act asked).1 = .ok (number, id)) : (line.core.allocate asked).1 = .ok (number, id) := by
  unfold claim at claimed
  split at claimed
  · cases claimed
  · rename_i answer
    unfold Connection.issueOpen at answer
    split at answer
    · cases answer
    · rename_i allocated
      rw [allocated]
      dsimp only at claimed
      split at answer <;> cases answer
      split at claimed <;> cases claimed
      rfl

theorem openChannelNumber {line : LiveConnection α} {name : String} {asked : Option UInt16} {number : UInt16}
    (opened : (line.openChannel name asked).1 = some (.ok number)) :
    ∃ id, (line.core.allocate asked).1 = .ok (number, id) := by
  unfold openChannel at opened
  split at opened
  · cases opened
  · dsimp only at opened
    split at opened
    · cases opened
    · rename_i claimed id after answer
      have allocated : (line.core.allocate asked).1 = .ok (claimed, id) := claimNumber (congrArg Prod.fst answer)
      split at opened <;> cases opened <;> exact ⟨id, allocated⟩

theorem callAtOnce {line : LiveConnection α} {name : String} {request : Request} {result : Except Error Reply}
    (called : (line.callNamed name request).1 = some result) :
    ∃ id, ∀ sent, (line.core.issue id request).1 = some sent → result = sent := by
  unfold callNamed at called
  split at called
  · cases called
  · rename_i id _
    refine ⟨id, fun sent answered => ?_⟩
    cases called
    split <;> rename_i answer <;> rw [answer] at answered <;> cases answered
    rfl

/-! Many things one after the other -/

/- What an application does, and what happens meanwhile. What the network has accepted nobody looks at again. -/
inductive Use (α : Type)
  | awaits (answers : List Inbound)
  | receives (more : Inbound)
  | rests
  | opens (name : String) (asked : Option UInt16)
  | calls (name : String) (request : Request)
  | drops (name : String)
  | closes
  | listens (name : String) (kind : EventKind) (listener : ActingListener α)
  | unlistens (name : String) (kind : EventKind) (listener : ListenerId)
  | changesMail (change : Mail → Mail)
  | beats
  | rewires (fault : Option IoFault)

def use (line : LiveConnection α) : Use α → LiveConnection α
  | .awaits answers => { line with answers }
  | .receives more => line.inject more
  | .rests => line.rest
  | .opens name asked => (line.openChannel name asked).2
  | .calls name request => (line.callNamed name request).2
  | .drops name => (line.dropChannel line.acting .application name).2
  | .closes => (line.close line.acting .application).2
  | .listens name kind listener => (line.addListener name kind listener).2
  | .unlistens name kind listener => (line.removeListener name kind listener).2
  | .changesMail change => line.changeMail change
  | .beats => { line with core := line.core.beat }
  | .rewires fault => line.breakWrites fault

def useAll (line : LiveConnection α) (uses : List (Use α)) : LiveConnection α := uses.foldl use line

theorem useWrought (line : LiveConnection α) (use : Use α) (may : use = .rewires none → mended)
    (wrought : Wrought mended before line.core) : Wrought mended before (line.use use).core := by
  have civil : Civil mended before line.acting := actWithinCivil _
  cases use with
  | awaits answers => exact wrought
  | receives more => exact wrought
  | rests => exact readUntilWrought civil _ line wrought
  | opens name asked => exact openChannelWrought name asked line wrought
  | calls name request => exact callNamedWrought name request line wrought
  | drops name => exact dropChannelWrought civil .application name line wrought
  | closes => exact closeWrought civil .application line wrought
  | listens name kind listener => exact addListenerWrought name kind listener line wrought
  | unlistens name kind listener => exact removeListenerWrought name kind listener line wrought
  | changesMail change => exact wrought
  | beats => exact wrought.beaten
  | rewires fault => cases fault with
    | none => exact wrought.rewired none fun _ => may rfl
    | some fault => exact wrought.rewired (some fault) nofun

theorem useAllWrought (line : LiveConnection α) (uses : List (Use α)) :
    Wrought (.rewires none ∈ uses) line.core (line.useAll uses).core :=
  List.foldlRecOn (motive := fun next : LiveConnection α => Wrought (.rewires none ∈ uses) line.core next.core) uses use
    .nothing fun next wrought use member => next.useWrought use (fun mends => mends ▸ member) wrought

end LiveConnection

end AmqpClient
