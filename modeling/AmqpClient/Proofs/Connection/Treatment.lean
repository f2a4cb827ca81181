import AmqpClient.Connection.Slot
import Mathlib.Data.List.Nodup

/-! What can happen to the slot of a channel, and what its consumers and listeners are told of it. A slot holds
the receivers of its consumers and of the consumer that it expects. It lets go of a receiver with the last message
that it sends there, and of all of them when it closes; unless the connection was lost, they are told why. -/
namespace AmqpClient

namespace Error

def isLoss : Error → Bool
  | clientClosedChannel => false
  | serverClosedChannel .. => false
  | clientClosedConnection => false
  | _ => true

end Error

namespace ConsumerMessage

def isClosing : ConsumerMessage → Bool
  | clientClosedChannel => true
  | serverClosedChannel _ => true
  | clientClosedConnection => true
  | _ => false

def isCancellation : ConsumerMessage → Bool
  | clientCancelled => true
  | serverCancelled => true
  | _ => false

theorem endingCloses {reason : Error} (known : reason.isLoss = false) : (ending reason).isClosing = true := by
  cases reason <;> first | rfl | cases known

theorem cancellationCloses {message : ConsumerMessage} (cancels : message.isCancellation = true) :
    message.isClosing = false := by
  cases message <;> first | rfl | cases cancels

theorem connectionUnspoken {message : ConsumerMessage}
    (spoken : message.isClosing = true ∨ message.isCancellation = true) (reason : Error) :
    message ≠ .serverClosedConnection reason := by
  rintro rfl
  rcases spoken with closing | cancels
  · cases closing
  · cases cancels

end ConsumerMessage

/- Who is still held and what has been said: whoever was told something final is not held any more and is told
nothing after that. -/
structure Orderly (final : ConsumerMessage → Bool) (held : List ReceiverId)
    (said : List (ReceiverId × ConsumerMessage)) : Prop where
  once : held.Nodup
  parted : ∀ entry ∈ said, final entry.2 = true → entry.1 ∉ held
  ordered : said.Pairwise fun earlier later => final earlier.2 = true → earlier.1 ≠ later.1

namespace Orderly

variable {final : ConsumerMessage → Bool} {held fewer : List ReceiverId}
  {said told heard : List (ReceiverId × ConsumerMessage)}

theorem empty : Orderly final [] [] := ⟨List.nodup_nil, List.forall_mem_nil _, List.Pairwise.nil⟩

theorem release (orderly : Orderly final held said) (left : fewer.Sublist held) : Orderly final fewer said where
  once := orderly.once.sublist left
  parted entry member last inside := orderly.parted entry member last (left.subset inside)
  ordered := orderly.ordered

theorem receive (orderly : Orderly final held said) {receiver : ReceiverId} (new : receiver ∉ held)
    (fresh : ∀ entry ∈ said, final entry.2 = true → entry.1 ≠ receiver) : Orderly final (held ++ [receiver]) said where
  once := List.nodup_append'.mpr ⟨orderly.once, List.nodup_singleton _, by simpa using new⟩
  parted entry member last inside := (List.mem_append.mp inside).elim (orderly.parted entry member last)
    fun same => fresh entry member last (List.mem_singleton.mp same)
  ordered := orderly.ordered

theorem tell (orderly : Orderly final held said) (left : fewer.Sublist held) (known : ∀ entry ∈ told, entry.1 ∈ held)
    (parted : ∀ entry ∈ told, final entry.2 = true → entry.1 ∉ fewer)
    (ordered : told.Pairwise fun earlier later => final earlier.2 = true → earlier.1 ≠ later.1) :
    Orderly final fewer (said ++ told) where
  once := orderly.once.sublist left
  parted := List.forall_mem_append.mpr ⟨(orderly.release left).parted, parted⟩
  ordered := List.pairwise_append.mpr ⟨orderly.ordered, ordered, fun earlier before later after last same =>
    orderly.parted earlier before last (same ▸ known later after)⟩

theorem inform (orderly : Orderly final held said) {others : List ReceiverId} (message : ConsumerMessage)
    (once : others.Nodup) (unended : ∀ entry ∈ said, final entry.2 = true → entry.1 ∉ others)
    (free : final message = true → ∀ receiver ∈ others, receiver ∉ held) :
    Orderly final held (said ++ others.map fun receiver => (receiver, message)) where
  once := orderly.once
  parted := List.forall_mem_append.mpr ⟨orderly.parted, List.forall_mem_map.mpr fun receiver member last =>
    free last receiver member⟩
  ordered := by
    have apart : others.Pairwise fun earlier later => final message = true → earlier ≠ later :=
      once.imp fun differ _ => differ
    refine List.pairwise_append.mpr ⟨orderly.ordered, List.pairwise_map.mpr apart, ?_⟩
    intro earlier before later after last same
    obtain ⟨receiver, member, rfl⟩ := List.mem_map.mp after
    exact unended earlier before last (same ▸ member)

theorem lose (orderly : Orderly final held said) (arrived : heard.Sublist said) : Orderly final held heard where
  once := orderly.once
  parted entry member := orderly.parted entry (arrived.subset member)
  ordered := orderly.ordered.sublist arrived

theorem last {receiver : ReceiverId} (orderly : Orderly final held said) {before later : List ConsumerMessage}
    {message : ConsumerMessage}
    (heard : (said.filter fun entry => entry.1 == receiver).map Prod.snd = before ++ message :: later)
    (ends : final message = true) : later = [] := by
  obtain ⟨early, rest, split, _, same⟩ := List.map_eq_append_iff.mp heard
  obtain ⟨entry, late, rfl, rfl, rfl⟩ := List.map_eq_cons_iff.mp same
  have its : ∀ other ∈ entry :: late, other.1 = receiver := fun other member => by
    have inside : other ∈ said.filter fun entry => entry.1 == receiver := split ▸ List.mem_append_right _ member
    simpa using (List.mem_filter.mp inside).2
  have fewer : (early ++ entry :: late).Sublist said := split ▸ List.filter_sublist
  obtain ⟨after, _⟩ := List.pairwise_cons.mp (List.pairwise_append.mp (orderly.ordered.sublist fewer)).2.1
  refine List.map_eq_nil_iff.mpr (List.eq_nil_iff_forall_not_mem.mpr fun other member => ?_)
  exact after other member ends ((its entry (List.mem_cons_self ..)).trans
    (its other (List.mem_cons_of_mem _ member)).symm)

end Orderly

namespace Slot

variable {α : Type} {slot next : Slot α} {effects : Effects α}

def receivers (slot : Slot α) : List ReceiverId := slot.consumers.map Prod.snd

def held (slot : Slot α) : List ReceiverId := slot.receivers ++ slot.expected.toList

inductive Treated (slot : Slot α) : Slot α → Effects α → Prop
  | quiet {next : Slot α} {notices : List (α × ChannelEvent)} (closed : next.closed = slot.closed)
      (listeners : next.listeners = slot.listeners) (held : next.held.Sublist slot.held)
      (other : ∀ notice ∈ notices, ∀ signal, notice.2 ≠ .shutdown signal) : Treated slot next { notices }
  | delivered {receiver : ReceiverId} (delivery : Delivery) (member : receiver ∈ slot.held) :
      Treated slot slot { messages := [(receiver, .delivery delivery)] }
  | cancelled {next : Slot α} {receiver : ReceiverId} {message : ConsumerMessage}
      (closed : next.closed = slot.closed) (listeners : next.listeners = slot.listeners)
      (held : next.held.Sublist slot.held) (member : receiver ∈ slot.held)
      (gone : slot.held.Nodup → receiver ∉ next.held) (cancels : message.isCancellation = true) :
      Treated slot next { messages := [(receiver, message)] }
  | lost {next : Slot α} (reason : Error) (wasOpen : slot.closed = none) (closed : next.closed = some reason)
      (listeners : next.listeners = slot.listeners) (held : next.held = []) :
      Treated slot next { notices := slot.listeners.notices (.shutdown ⟨slot.number, true, false, reason⟩) }
  | shut {next : Slot α} (reason : Error) (connectionLevel byApplication : Bool) (wasOpen : slot.closed = none)
      (closed : next.closed = some reason) (listeners : next.listeners = slot.listeners) (held : next.held = [])
      (known : reason.isLoss = false) (deliberate : (connectionLevel && !byApplication) = false) :
      Treated slot next
        { messages := slot.receivers.map fun receiver => (receiver, .ending reason)
          notices := slot.listeners.notices (.shutdown ⟨slot.number, connectionLevel, byApplication, reason⟩) }

theorem Treated.none (closed : next.closed = slot.closed) (listeners : next.listeners = slot.listeners)
    (held : next.held.Sublist slot.held) : Treated slot next {} :=
  .quiet closed listeners held (List.forall_mem_nil _)

theorem consumerHeld {tag : String} {receiver : ReceiverId} (found : slot.consumer? tag = some receiver) :
    receiver ∈ slot.held := by
  obtain ⟨entry, here, rfl⟩ := Option.map_eq_some_iff.mp found
  exact List.mem_append_left _ (List.mem_map_of_mem (List.mem_of_find?_eq_some here))

theorem replyTreated (slot : Slot α) (reply : Except Error Assembler) : slot.Treated (slot.reply reply) {} := by
  unfold Slot.reply
  split <;> exact .none rfl rfl (List.Sublist.refl _)

theorem dropTreated (slot : Slot α) : slot.Treated slot.drop {} := .none rfl rfl (List.Sublist.refl _)

theorem expectNoneTreated (slot : Slot α) : slot.Treated (slot.expect none) {} :=
  .none rfl rfl ((List.Sublist.refl _).append (List.nil_sublist _))

theorem startTreated (slot : Slot α) (tag : String) : slot.Treated (slot.startConsumer tag).2 {} := by
  unfold startConsumer
  split
  · exact .none rfl rfl (List.Sublist.refl _)
  · rename_i receiver expected
    dsimp only
    split
    · exact slot.expectNoneTreated
    · have same : { slot.expect none with consumers := slot.consumers ++ [(tag, receiver)] }.held = slot.held := by
        simp [held, receivers, expect, expected]
      exact .none rfl rfl (same ▸ List.Sublist.refl _)

theorem deliverTreated (slot : Slot α) (tag : String) (delivery : Delivery) :
    slot.Treated slot (slot.deliver tag delivery) := by
  unfold deliver
  cases found : slot.consumer? tag with
  | none => exact .none rfl rfl (List.Sublist.refl _)
  | some receiver => exact .delivered delivery (consumerHeld found)

theorem raiseTreated (slot : Slot α) {event : ChannelEvent} (other : ∀ signal, event ≠ .shutdown signal) :
    slot.Treated slot (slot.raise event) := by
  refine .quiet rfl rfl (List.Sublist.refl _) fun notice member signal => ?_
  obtain ⟨listener, _, rfl⟩ := List.mem_map.mp member
  exact other signal

theorem endGone {tag : String} {receiver : ReceiverId} (found : slot.consumer? tag = some receiver)
    (once : slot.held.Nodup) (message : ConsumerMessage) : receiver ∉ (slot.endConsumer tag message).1.held := by
  intro left
  obtain ⟨entry, here, rfl⟩ := Option.map_eq_some_iff.mp found
  obtain ⟨distinct, _, apart⟩ := List.nodup_append'.mp once
  have member := List.mem_of_find?_eq_some here
  rcases List.mem_append.mp left with kept | expected
  · obtain ⟨other, inside, same⟩ := List.mem_map.mp kept
    obtain ⟨inside, differs⟩ := List.mem_filter.mp inside
    obtain rfl := List.inj_on_of_nodup_map distinct inside member same
    exact absurd (List.find?_some here) (by simpa using differs)
  · exact apart (List.mem_map_of_mem member) expected

theorem endTreated (slot : Slot α) (tag : String) {message : ConsumerMessage}
    (cancels : message.isCancellation = true) :
    slot.Treated (slot.endConsumer tag message).1 (slot.endConsumer tag message).2 := by
  have fewer : (slot.endConsumer tag message).1.held.Sublist slot.held :=
    (List.filter_sublist.map _).append (List.Sublist.refl _)
  cases found : slot.consumer? tag with
  | none =>
    have silent : (slot.endConsumer tag message).2 = {} := by simp [endConsumer, found]
    rw [silent]
    exact .none rfl rfl fewer
  | some receiver =>
    have told : (slot.endConsumer tag message).2 = { messages := [(receiver, message)] } := by
      simp [endConsumer, found]
    rw [told]
    exact .cancelled rfl rfl fewer (consumerHeld found) (fun once => endGone found once message) cancels

theorem shutDownTreated (slot : Slot α) (reason : Error) (connectionLevel byApplication : Bool)
    (known : (connectionLevel && !byApplication) = false → reason.isLoss = false) :
    slot.Treated (slot.shutDown reason connectionLevel byApplication).1
      (slot.shutDown reason connectionLevel byApplication).2 := by
  unfold shutDown
  split
  · exact .none rfl rfl (List.Sublist.refl _)
  · rename_i wasOpen
    have wasOpen : slot.closed = none := by simpa using wasOpen
    dsimp only
    have after : ∀ reply, (Slot.reply { slot with closed := some reason, consumers := [], expected := none } reply).closed
          = some reason ∧
        (Slot.reply { slot with closed := some reason, consumers := [], expected := none } reply).listeners
          = slot.listeners ∧
        (Slot.reply { slot with closed := some reason, consumers := [], expected := none } reply).held = [] := by
      intro reply
      unfold Slot.reply
      split <;> exact ⟨rfl, rfl, rfl⟩
    obtain ⟨closed, listeners, held⟩ := after (.error reason)
    cases lost : connectionLevel && !byApplication with
    | true =>
      obtain ⟨rfl, rfl⟩ : connectionLevel = true ∧ byApplication = false := by simpa using lost
      exact .lost reason wasOpen closed listeners held
    | false =>
      have told : slot.consumers.map (fun entry => (entry.2, ConsumerMessage.ending reason))
          = slot.receivers.map fun receiver => (receiver, ConsumerMessage.ending reason) :=
        (List.map_map (g := fun receiver => (receiver, ConsumerMessage.ending reason)) (f := Prod.snd)).symm
      rw [if_neg (by simp), told]
      exact .shut reason connectionLevel byApplication wasOpen closed listeners held (known lost) lost

namespace Treated

theorem listeners (treated : slot.Treated next effects) : next.listeners = slot.listeners := by
  cases treated <;> first | rfl | assumption

theorem fewer (treated : slot.Treated next effects) : next.held.Sublist slot.held := by
  cases treated with
  | quiet _ _ held | cancelled _ _ held => exact held
  | delivered => exact List.Sublist.refl _
  | lost _ _ _ _ held | shut _ _ _ _ _ _ held => exact held ▸ List.nil_sublist _

theorem closedStays (treated : slot.Treated next effects) {reason : Error} (closed : slot.closed = some reason) :
    next.closed = some reason := by
  cases treated with
  | quiet same | cancelled same => exact same.trans closed
  | delivered => exact closed
  | lost _ wasOpen | shut _ _ _ wasOpen => cases wasOpen.symm.trans closed

theorem closedHolds (treated : slot.Treated next effects) (before : slot.closed.isSome → slot.held = [])
    (closed : next.closed.isSome) : next.held = [] := by
  cases treated with
  | quiet same _ held | cancelled same _ held =>
    exact List.sublist_nil.mp (before (same ▸ closed) ▸ held)
  | delivered => exact before closed
  | lost _ _ _ _ held | shut _ _ _ _ _ _ held => exact held

theorem orderly {final : ConsumerMessage → Bool} (plain : ∀ delivery, final (.delivery delivery) = false)
    {said : List (ReceiverId × ConsumerMessage)} (treated : slot.Treated next effects)
    (orderly : Orderly final slot.held said) : Orderly final next.held (said ++ effects.messages) := by
  cases treated with
  | quiet _ _ held => exact orderly.tell held (List.forall_mem_nil _) (List.forall_mem_nil _) List.Pairwise.nil
  | delivered delivery member =>
    refine orderly.tell (List.Sublist.refl _) (by simpa using member) ?_ (List.pairwise_singleton _ _)
    simp [plain]
  | cancelled _ _ held member gone =>
    exact orderly.tell held (by simpa using member) (by simpa using fun _ => gone orderly.once)
      (List.pairwise_singleton _ _)
  | lost _ _ _ _ held =>
    exact orderly.tell (held ▸ List.nil_sublist _) (List.forall_mem_nil _) (List.forall_mem_nil _) List.Pairwise.nil
  | shut reason _ _ _ _ _ held =>
    refine orderly.tell (held ▸ List.nil_sublist _) ?_ (fun _ _ _ => held ▸ List.not_mem_nil) ?_
    · exact List.forall_mem_map.mpr fun receiver member => List.mem_append_left _ member
    · have once : slot.receivers.Nodup := orderly.once.sublist (List.sublist_append_left _ _)
      refine List.pairwise_map.mpr (once.imp ?_)
      intro _ _ differ _
      exact differ

theorem known (treated : slot.Treated next effects) {entry : ReceiverId × ConsumerMessage}
    (member : entry ∈ effects.messages) :
    entry.1 ∈ slot.held ∧ ∀ reason, entry.2 ≠ .serverClosedConnection reason := by
  cases treated with
  | quiet | lost => cases member
  | delivered _ here =>
    obtain rfl := List.mem_singleton.mp member
    exact ⟨here, by simp⟩
  | cancelled _ _ _ here _ cancels =>
    obtain rfl := List.mem_singleton.mp member
    exact ⟨here, ConsumerMessage.connectionUnspoken (.inr cancels)⟩
  | shut cause _ _ _ _ _ _ known =>
    obtain ⟨receiver, here, rfl⟩ := List.mem_map.mp member
    exact ⟨List.mem_append_left _ here,
      ConsumerMessage.connectionUnspoken (.inl (ConsumerMessage.endingCloses known))⟩

theorem silent (treated : slot.Treated next effects) (idle : slot.held = []) : effects.messages = [] :=
  List.eq_nil_iff_forall_not_mem.mpr fun _ member => List.not_mem_nil (idle ▸ (treated.known member).1)

theorem shutdownHeard (treated : slot.Treated next effects) {notice : α × ChannelEvent} {signal : ShutdownSignal}
    (member : notice ∈ effects.notices) (shutdown : notice.2 = .shutdown signal) :
    notice.1 ∈ slot.listeners.shutdown.listeners ∧ slot.closed = .none := by
  cases treated with
  | quiet _ _ _ other => exact absurd shutdown (other notice member signal)
  | delivered | cancelled => cases member
  | lost _ wasOpen | shut _ _ _ wasOpen =>
    obtain ⟨listener, inside, rfl⟩ := List.mem_map.mp member
    exact ⟨inside, wasOpen⟩

end Treated

end Slot

end AmqpClient
