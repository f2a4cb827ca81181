import AmqpClient.Connection.Handshake

/-! Limits that client and server agree on. The client takes the lower of two limits, and any limit is lower than
none, so that neither side is asked for more than it allows. -/
namespace AmqpClient

namespace Limits

structure Honours (limits side : Limits) : Prop where
  channelMax : side.channelMax ≠ 0 → limits.channelMax ≤ side.channelMax
  frameMax : side.frameMax ≠ 0 → limits.frameMax ≤ side.frameMax

theorem lowerBounds {β : Type} [DecidableEq β] [LE β] [Min β] [Std.IsLinearOrder β] [Std.LawfulOrderMin β]
    (none top a b : β) :
    let lower := if a = none ∧ b = none then top else if a = none then b else if b = none then a else min a b
    (a ≠ none → lower ≤ a) ∧ (b ≠ none → lower ≤ b) := by
  dsimp only
  split
  · rename_i unlimited
    exact ⟨fun any => absurd unlimited.1 any, fun any => absurd unlimited.2 any⟩
  · split
    · rename_i theirs
      exact ⟨fun any => absurd theirs any, fun _ => Std.le_refl _⟩
    · split
      · rename_i ours
        exact ⟨fun _ => Std.le_refl _, fun any => absurd ours any⟩
      · exact ⟨fun _ => Std.min_le_left, fun _ => Std.min_le_right⟩

end Limits

namespace ConnectionOptions

def wished (options : ConnectionOptions) : Limits := ⟨options.channelMax, options.frameMax, options.heartbeat⟩

theorem tuneHonours {options : ConnectionOptions} {proposed limits : Limits}
    (agreed : options.tune proposed = .ok limits) :
    4096 ≤ limits.frameMax ∧ limits.Honours options.wished ∧ limits.Honours proposed := by
  unfold tune at agreed
  dsimp only at agreed
  split at agreed
  · cases agreed
  · rename_i enough
    cases agreed
    obtain ⟨ourChannels, theirChannels⟩ := Limits.lowerBounds 0 65535 options.channelMax proposed.channelMax
    obtain ⟨ourFrames, theirFrames⟩ := Limits.lowerBounds 0 4294967295 options.frameMax proposed.frameMax
    exact ⟨UInt32.not_lt.mp enough, ⟨ourChannels, ourFrames⟩, ⟨theirChannels, theirFrames⟩⟩

end ConnectionOptions

namespace Handshake

variable {options : ConnectionOptions} {self next : Handshake} {limits : Limits} {properties : FieldTable}

def proposal? (options : ConnectionOptions) (self : Handshake) : Option Limits :=
  match self.write Frame.protocolHeader with
  | (.error _, _) => none
  | (.ok (), self) =>
    match self.start options with
    | (.error _, _) => none
    | (.ok _, self) =>
      match self.receive with
      | (.ok ⟨.connectionTune, (channelMax, frameMax, heartbeat, ())⟩, _) => some ⟨channelMax, frameMax, heartbeat⟩
      | _ => none

theorem tuneProposed (tuned : self.tune options = (.ok limits, next)) :
    ∃ channelMax frameMax heartbeat middle,
      self.receive = (.ok ⟨.connectionTune, (channelMax, frameMax, heartbeat, ())⟩, middle) ∧
      options.tune ⟨channelMax, frameMax, heartbeat⟩ = .ok limits := by
  unfold tune at tuned
  split at tuned
  · cases tuned
  · cases tuned
  · rename_i channelMax frameMax heartbeat middle received
    refine ⟨channelMax, frameMax, heartbeat, middle, received, ?_⟩
    split at tuned
    · cases tuned
    · rename_i agreed
      split at tuned <;> cases tuned
      exact agreed
  · cases tuned

theorem runProposed (opened : self.run options = (.ok (limits, properties), next)) :
    ∃ proposed, self.proposal? options = some proposed ∧ options.tune proposed = .ok limits := by
  unfold run at opened
  split at opened
  · cases opened
  · rename_i greeting written
    split at opened
    · cases opened
    · rename_i begun started
      split at opened
      · cases opened
      · rename_i tuned
        split at opened <;> cases opened
        obtain ⟨channelMax, frameMax, heartbeat, middle, received, agreed⟩ := tuneProposed tuned
        exact ⟨⟨channelMax, frameMax, heartbeat⟩, by simp only [proposal?, written, started, received], agreed⟩

end Handshake

end AmqpClient
