import AmqpClient.Proofs.Connection.Limiting
import AmqpClient.Proofs.Connection.Opening
import AmqpClient.Proofs.Connection.Using
import AmqpClient.Proofs.Negotiation

/-! Limits from end to end: what a client and a server have agreed on when a connection opens holds for all that is done
with the connection afterwards, by whatever threads. -/
namespace AmqpClient

open ChannelIds (Usable)

structure Connection.Abides {α : Type} (limits : Limits) (sides : List Limits) (mended : Prop)
    (now first : Connection α) : Prop where
  held : ∀ number, now.ids.Holds number → Usable limits.channelMax number
  taken : ∀ number ∈ now.numbers, Usable limits.channelMax number
  allocates : ∀ asked number id, (now.allocate asked).1 = .ok (number, id) → Usable limits.channelMax number
  publishes : ∀ id exchange publish,
    ∃ result, (now.issue id (.publish exchange publish)).1 = some result ∧ Error.Roomy result
  writes : ∃ frames, Outlet.Puts mended first.transmitter.outlet frames now.transmitter.outlet ∧
    (∀ frame ∈ frames, frame.kind = .body →
      ∀ side ∈ sides, side.frameMax ≠ 0 → frame.encode.length ≤ side.frameMax.toNat) ∧
    (¬ mended → first.transmitter.outlet.sink.Brisk →
      now.transmitter.outlet.sink.accepted.toList <+: (frames.map Frame.encode).flatten)

namespace Connection

variable {α : Type} {mended : Prop} {limits : Limits} {sides : List Limits} {first now : Connection α}

structure Fresh (limits : Limits) (connection : Connection α) : Prop where
  frameMax : connection.transmitter.frameMax = limits.frameMax
  unwritten : connection.transmitter.outlet.produced = []
  ids : connection.ids = { max := limits.channelMax }
  slots : connection.slots = []

theorem Fresh.numbered (fresh : first.Fresh limits) : first.Numbered where
  held := fresh.ids ▸ ChannelIds.boundedNone limits.channelMax
  taken := by
    rw [numbers, fresh.slots]
    exact List.forall_mem_nil _

theorem Wrought.abides (wrought : Wrought mended first now) (fresh : first.Fresh limits)
    (least : 4096 ≤ limits.frameMax) (honours : ∀ side ∈ sides, limits.Honours side) :
    now.Abides limits sides mended first := by
  have large : 9 ≤ first.transmitter.frameMax.toNat := by
    rw [fresh.frameMax]
    exact Nat.le_trans (by decide) (UInt32.le_iff_toNat_le.mp least)
  have kept := wrought.kept fresh.numbered large
  have top : first.ids.max = limits.channelMax := congrArg ChannelIds.max fresh.ids
  have max : now.ids.max = limits.channelMax := kept.max.trans top
  obtain ⟨frames, puts, within⟩ := kept.wrote.written
  constructor
  case held => exact max ▸ kept.numbered.held
  case taken => exact max ▸ kept.numbered.taken
  case allocates => exact fun asked number id allocated => top ▸ kept.allocates allocated
  case publishes => exact kept.issues large
  case writes =>
    refine ⟨frames, puts, fun frame member body side known any => ?_, fun unmended brisk => ?_⟩
    · have fits : frame.encode.length ≤ limits.frameMax.toNat := fresh.frameMax ▸ within frame member body
      exact Nat.le_trans fits (UInt32.le_iff_toNat_le.mp ((honours side known).frameMax any))
    · have accepted := (puts.forwards unmended brisk).accepted
      rwa [fresh.unwritten, List.nil_append] at accepted

end Connection

namespace LiveConnection

variable {α : Type}

theorem startFresh {options : ConnectionOptions} {inbound : Inbound} {sink : Sink} {limits : Limits}
    {properties : FieldTable} {line : LiveConnection α} {written : Bytes}
    (started : start options inbound sink = (.ok (limits, properties, line), written)) :
    (∃ next, Handshake.run options { stream := inbound.patient, sink } = (.ok (limits, properties), next)) ∧
      line.core.Fresh limits := by
  unfold start at started
  split at started
  · cases started
  · rename_i next ran
    cases started
    exact ⟨⟨next, ran⟩, rfl, rfl, rfl, rfl⟩

/- Once a connection is open, no side is asked for more than it allows: not for a number, not for a frame of a body.
That goes for whatever threads do, one thing at a time, and for what an application does with channels by their names.
And no publish is too large for what was agreed. -/
theorem honoursLimits (options : ConnectionOptions) (inbound : Inbound) (sink : Sink) {limits : Limits}
    {properties : FieldTable} {line : LiveConnection α} {written : Bytes}
    (started : start options inbound sink = (.ok (limits, properties, line), written)) :
    ∃ proposed, Handshake.proposal? options { stream := inbound.patient, sink } = some proposed ∧
      options.tune proposed = .ok limits ∧ 4096 ≤ limits.frameMax ∧
      limits.Honours options.wished ∧ limits.Honours proposed ∧
      (∀ mended now, Connection.Wrought mended line.core now →
        now.Abides limits [options.wished, proposed] mended line.core) ∧
      (∀ acts, (∀ transmitter, .rewires transmitter ∉ acts) →
        Connection.Wrought False line.core (line.core.actAll acts)) ∧
      ∀ uses,
        Connection.Wrought (.rewires none ∈ uses) line.core (line.useAll uses).core ∧
        (∀ name asked number, ((line.useAll uses).openChannel name asked).1 = some (.ok number) →
          Usable limits.channelMax number) ∧
        ∀ name exchange publish result,
          ((line.useAll uses).callNamed name (.publish exchange publish)).1 = some result → Error.Roomy result := by
  obtain ⟨⟨next, ran⟩, fresh⟩ := startFresh started
  obtain ⟨proposed, known, agreed⟩ := Handshake.runProposed ran
  obtain ⟨least, ours, theirs⟩ := ConnectionOptions.tuneHonours agreed
  have abides : ∀ mended now, Connection.Wrought mended line.core now →
      now.Abides limits [options.wished, proposed] mended line.core := fun mended now wrought =>
    wrought.abides fresh least (List.forall_mem_cons.mpr ⟨ours, List.forall_mem_singleton.mpr theirs⟩)
  refine ⟨proposed, known, agreed, least, ours, theirs, abides, fun acts => line.core.actAllWrought acts,
    fun uses => ?_⟩
  have wrought := line.useAllWrought uses
  have here := abides _ _ wrought
  refine ⟨wrought, fun name asked number opened => ?_, fun name exchange publish result called => ?_⟩
  · obtain ⟨id, allocated⟩ := openChannelNumber opened
    exact here.allocates asked number id allocated
  · obtain ⟨id, atOnce⟩ := callAtOnce called
    obtain ⟨sent, answered, roomy⟩ := here.publishes id exchange publish
    exact atOnce sent answered ▸ roomy

theorem lowerLimitsHold :
    ∃ properties line written,
      start (α := Unit) { channelMax := 3, frameMax := 8192 } uncut {}
          = (.ok (⟨3, 4096, 10⟩, properties, line), written) ∧
        ∀ uses name asked number, ((line.useAll uses).openChannel name asked).1 = some (.ok number) →
          number = 1 ∨ number = 2 ∨ number = 3 := by
  have opens : (agreed (start (α := Unit) { channelMax := 3, frameMax := 8192 } uncut {}).1).toOption
      = some (⟨3, 4096, 10⟩, FieldTable.ofList []) := by decide +kernel
  rcases started : start (α := Unit) { channelMax := 3, frameMax := 8192 } uncut {} with
    ⟨reason | ⟨limits, properties, line⟩, written⟩ <;> rw [started] at opens <;> cases opens
  refine ⟨_, line, written, rfl, fun uses name asked number opened => ?_⟩
  obtain ⟨_, _, _, _, _, _, _, _, used⟩ := honoursLimits { channelMax := 3, frameMax := 8192 } uncut {} started
  obtain ⟨positive, below⟩ := (ChannelIds.usableIff ..).mp ((used uses).2.1 name asked number opened)
  have top : number.toNat ≤ 3 := below
  have each : number.toNat = 1 ∨ number.toNat = 2 ∨ number.toNat = 3 := by omega
  exact each.imp UInt16.toNat_inj.mp (Or.imp UInt16.toNat_inj.mp UInt16.toNat_inj.mp)

end LiveConnection

end AmqpClient
