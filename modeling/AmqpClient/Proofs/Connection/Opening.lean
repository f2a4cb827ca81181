import AmqpClient.Connection.Live
import AmqpClient.Proofs.Connection.Conversing
import AmqpClient.Proofs.Outlet

/-! How a connection opens. What the client writes, and what comes of it, is the talk with the server's words,
however these arrive and whatever heartbeats stand between them; the bytes behind the last word are left to
whoever reads next. -/
namespace AmqpClient

open AmqpClient.Frame (Piece Spoken Beaten words)

structure Sink.Took (bytes : Bytes) (sink next : Sink) : Prop where
  tireless : next.Tireless
  accepted : next.accepted.toList = sink.accepted.toList ++ bytes

theorem Sink.Took.nothing {sink : Sink} (tireless : sink.Tireless) : Took [] sink sink :=
  ⟨tireless, (List.append_nil _).symm⟩

theorem Sink.Took.trans {bytes more : Bytes} {sink middle next : Sink} (one : Took bytes sink middle)
    (two : Took more middle next) : Took (bytes ++ more) sink next :=
  ⟨two.tireless, by rw [two.accepted, one.accepted, List.append_assoc]⟩

namespace Handshake

variable {options : ConnectionOptions} {ended : Bool} {stage last : Stage} {bytes : Bytes}

theorem writeTook (self : Handshake) (tireless : self.sink.Tireless) (bytes : Bytes) :
    ∃ sink, self.write bytes = (.ok (), { self with sink }) ∧ Sink.Took bytes self.sink sink := by
  obtain ⟨sink, pushed, untiring, accepted⟩ := Sink.pushTireless bytes tireless
  exact ⟨sink, by simp only [write, pushed], untiring, accepted⟩

theorem sendAllTook (methods : List Method) (self : Handshake) (tireless : self.sink.Tireless) :
    ∃ sink, self.sendAll methods = ((Stage.uttered methods).1, { self with sink }) ∧
      Sink.Took ((Stage.uttered methods).2.flatMap Method.wire) self.sink sink := by
  induction methods generalizing self with
  | nil => exact ⟨self.sink, rfl, .nothing tireless⟩
  | cons method rest ih =>
    cases framed : method.frame 0 with
    | error e =>
      refine ⟨self.sink, ?_, ?_⟩
      · simp only [sendAll, send, framed, Stage.uttered]
      · simp only [Stage.uttered, framed]
        exact .nothing tireless
    | ok frame =>
      obtain ⟨_, rfl⟩ := Frame.ofPayloadIff.mp framed
      obtain ⟨middle, written, took⟩ := self.writeTook tireless method.wire
      obtain ⟨sink, sent, further⟩ := ih { self with sink := middle } took.tireless
      refine ⟨sink, ?_, ?_⟩
      · rw [Method.wire] at written
        simp only [sendAll, send, framed, written, sent, Stage.uttered]
      · simp only [Stage.uttered, framed, List.flatMap_cons]
        exact took.trans further

theorem sendAllOne (method : Method) (self : Handshake) : self.sendAll [method] = self.send method := by
  rw [sendAll]
  rcases self.send method with ⟨e | ⟨⟩, next⟩ <;> rfl

theorem heedTook (method : Method) (self : Handshake) (tireless : self.sink.Tireless) :
    ∃ sink, self.heed method = (method.told.1, { self with sink }) ∧
      Sink.Took (method.told.2.flatMap Method.wire) self.sink sink := by
  unfold heed
  split
  · obtain ⟨sink, sent, took⟩ := sendAllTook [.closeOk] self tireless
    rw [sendAllOne, Method.closeOk] at sent
    exact ⟨sink, by rw [sent]; rfl, took⟩
  · rename_i other
    have plain : method.told = (.ok method, []) := by
      unfold Method.told
      split
      · exact (other _ _ _ _ rfl).elim
      · rfl
    rw [plain]
    exact ⟨self.sink, rfl, .nothing tireless⟩

theorem heartbeatOfBytes {piece : Bytes} (beats : (Piece.ofBytes piece).beats = true) :
    ∃ frame, Frame.parse piece = .ok frame ∧ frame.kind = .heartbeat := by
  unfold Piece.ofBytes at beats
  cases parsed : Frame.parse? piece with
  | none =>
    rw [parsed] at beats
    contradiction
  | some frame =>
    rw [parsed] at beats
    exact ⟨frame, by rw [Frame.parse, parsed], by simpa [Piece.beats] using beats⟩

theorem wordTook {piece : Bytes} {intake : Intake} {stream : Stream}
    (speaks : (Piece.ofBytes piece).beats = false) (fuel : Nat) (self : Handshake) (tireless : self.sink.Tireless)
    (fetched : self.intake.nextFrame self.stream = (Frame.parse piece, intake, stream)) :
    ∃ sink, self.receiveWithin (fuel + 1) = ((Piece.ofBytes piece).told.1, ⟨intake, stream, sink⟩) ∧
      Sink.Took ((Piece.ofBytes piece).told.2.flatMap Method.wire) self.sink sink := by
  rw [receiveWithin, fetched]
  unfold Piece.ofBytes at speaks ⊢
  cases parsed : Frame.parse? piece with
  | none =>
    simp only [Frame.parse, parsed, Piece.told]
    exact ⟨self.sink, rfl, .nothing tireless⟩
  | some frame =>
    rw [parsed] at speaks
    have plain : frame.kind ≠ .heartbeat := by simpa [Piece.beats] using speaks
    simp only [Frame.parse, parsed, if_neg plain, Piece.told]
    cases methodOf frame with
    | error e => exact ⟨self.sink, rfl, .nothing tireless⟩
    | ok method => exact heedTook method { self with intake, stream } tireless

theorem receiveWithinHeard {fuel : Nat} (self : Handshake) (tireless : self.sink.Tireless)
    (ahead : Intake.Ahead ended bytes self.intake self.stream) (enough : bytes.length < fuel) :
    (words bytes = [] ∧
      ∃ intake stream, self.receiveWithin fuel = (.error (Inbound.silence ended), { self with intake, stream })) ∨
    ∃ word rest intake stream sink, Spoken bytes [word] rest ∧
      self.receiveWithin fuel = (word.told.1, ⟨intake, stream, sink⟩) ∧
      Sink.Took (word.told.2.flatMap Method.wire) self.sink sink ∧ Intake.Ahead ended rest intake stream := by
  -- each heartbeat takes bytes away, so that the fuel lasts as long as they do
  induction fuel generalizing self bytes with
  | zero => exact absurd enough (Nat.not_lt_zero _)
  | succ fuel ih =>
    obtain ⟨stuck, intake, stream, fetched⟩ | ⟨piece, rest, intake, stream, whole, rfl, fetched, later⟩ :=
      Intake.nextFrameAhead ahead
    · rw [receiveWithin, fetched]
      exact .inl ⟨Frame.wordsStuck stuck, intake, stream, rfl⟩
    · cases beats : (Piece.ofBytes piece).beats with
      | false =>
        obtain ⟨sink, received, took⟩ := wordTook beats fuel self tireless fetched
        exact .inr ⟨_, rest, intake, stream, sink, .word whole beats (.nothing rest), received, took, later⟩
      | true =>
        obtain ⟨frame, parsed, heartbeat⟩ := heartbeatOfBytes beats
        have large := Frame.wholeLength whole
        unfold Frame.overhead at large
        rw [List.length_append] at enough
        simp only [receiveWithin, fetched, parsed, if_pos heartbeat]
        obtain ⟨silent, more⟩ | ⟨word, rest, intake, stream, sink, spoken, more⟩ :=
          ih { self with intake, stream } tireless later (by omega)
        · exact .inl ⟨by rw [Frame.wordsCons whole, if_pos beats, silent], more⟩
        · exact .inr ⟨word, rest, intake, stream, sink, .beat whole beats spoken, more⟩

theorem receiveHeard (self : Handshake) (tireless : self.sink.Tireless)
    (ahead : Intake.Ahead ended bytes self.intake self.stream) :
    (words bytes = [] ∧
      ∃ intake stream, self.receive = (.error (Inbound.silence ended), { self with intake, stream })) ∨
    ∃ word rest intake stream sink, Spoken bytes [word] rest ∧
      self.receive = (word.told.1, ⟨intake, stream, sink⟩) ∧
      Sink.Took (word.told.2.flatMap Method.wire) self.sink sink ∧ Intake.Ahead ended rest intake stream :=
  self.receiveWithinHeard tireless ahead (Nat.lt_succ_of_le ahead.weight)

/- The handshake has gone along with a talk: it has heard the words and said what is said there. A server that
has no more to say before the talk is over ends it. -/
inductive Went (options : ConnectionOptions) (ended : Bool) (stage : Stage) (bytes : Bytes) (self : Handshake) :
    Stage → Handshake → Prop
  | talked {heard : List Piece} {said : List Method} {rest : Bytes} {last : Stage} {next : Handshake}
      (spoken : Spoken bytes heard rest) (talk : Talk options stage heard said last)
      (took : Sink.Took (said.flatMap Method.wire) self.sink next.sink)
      (ahead : Intake.Ahead ended rest next.intake next.stream) : Went options ended stage bytes self last next
  | left {heard : List Piece} {said : List Method} {rest : Bytes} {last : Stage} {next : Handshake}
      (spoken : Spoken bytes heard rest) (silent : words rest = []) (talk : Talk options stage heard said last)
      (going : last.isOver = false) (took : Sink.Took (said.flatMap Method.wire) self.sink next.sink) :
      Went options ended stage bytes self (.concluded (.error (Inbound.silence ended))) next

def Answering {β : Type} (onward : β → Stage) (answer : Stage × List Method) (self : Handshake)
    (acted : Except Error β × Handshake) : Prop :=
  ∃ result sink, acted = (result, { self with sink }) ∧ answer.1 = .after onward result ∧
    Sink.Took (answer.2.flatMap Method.wire) self.sink sink

namespace Answering

variable {β : Type} {onward : β → Stage} {self : Handshake}

theorem silently (result : Except Error β) (tireless : self.sink.Tireless) :
    Answering onward (.after onward result, []) self (result, self) :=
  ⟨result, self.sink, rfl, rfl, .nothing tireless⟩

theorem saying (methods : List Method) (b : β) (tireless : self.sink.Tireless) :
    Answering onward (Stage.say methods (onward b)) self
      (match self.sendAll methods with
        | (.error e, next) => (.error e, next)
        | (.ok (), next) => (.ok b, next)) := by
  obtain ⟨sink, sent, took⟩ := self.sendAllTook methods tireless
  rw [sent, Stage.say]
  rcases uttered : Stage.uttered methods with ⟨e | ⟨⟩, said⟩ <;> rw [uttered] at took
  · exact ⟨.error e, sink, rfl, rfl, took⟩
  · exact ⟨.ok b, sink, rfl, rfl, took⟩

end Answering

namespace Went

variable {self next final : Handshake} {middle : Stage}

theorem heard {word : Piece} {said : List Method} {rest : Bytes} (going : stage.isOver = false)
    (spoken : Spoken bytes [word] rest) (heard : stage.hear options word = (last, said))
    (took : Sink.Took (said.flatMap Method.wire) self.sink next.sink)
    (ahead : Intake.Ahead ended rest next.intake next.stream) : Went options ended stage bytes self last next := by
  have talk : Talk options stage [word] ((stage.hear options word).2 ++ []) (stage.hear options word).1 :=
    .hear going (.still _)
  rw [heard, List.append_nil] at talk
  exact .talked spoken talk took ahead

theorem trans (one : Went options ended stage bytes self middle next) (going : middle.isOver = false)
    (two : ∀ rest, Intake.Ahead ended rest next.intake next.stream → next.sink.Tireless →
      Went options ended middle rest next last final) : Went options ended stage bytes self last final := by
  cases one with
  | left => contradiction
  | @talked heard said rest _ _ spoken talk took ahead =>
    cases two rest ahead took.tireless with
    | talked further later tookLater ahead =>
      refine .talked (spoken.trans further) (talk.trans later) ?_ ahead
      rw [List.flatMap_append]
      exact took.trans tookLater
    | left further silent later going tookLater =>
      refine .left (spoken.trans further) silent (talk.trans later) going ?_
      rw [List.flatMap_append]
      exact took.trans tookLater

theorem exchange {β : Type} (onward : β → Stage) {act : Handshake → Except Error β × Handshake}
    (going : stage.isOver = false) (tireless : self.sink.Tireless)
    (ahead : Intake.Ahead ended bytes self.intake self.stream)
    (failing : ∀ e next, self.receive = (.error e, next) → act self = (.error e, next))
    (answering : ∀ method next, self.receive = (.ok method, next) → next.sink.Tireless →
      Answering onward (stage.answer options method) next (act self)) :
    Went options ended stage bytes self (.after onward (act self).1) (act self).2 := by
  obtain ⟨silent, intake, stream, received⟩ | ⟨word, rest, intake, stream, sink, spoken, received, took, later⟩ :=
    self.receiveHeard tireless ahead
  · rw [failing _ _ received]
    exact .left (.nothing bytes) silent (.still _) going (.nothing tireless)
  · rcases told : word.told with ⟨e | method, said⟩
    · rw [told] at received took
      rw [failing _ _ received]
      exact .heard going spoken (by rw [Stage.hear, told]; rfl) took later
    · obtain rfl := toldPlain told
      rw [told] at received took
      obtain ⟨result, sinkAfter, acted, answered, tookAfter⟩ := answering method _ received took.tireless
      rw [acted]
      refine .heard going spoken ?_ (took.trans tookAfter) later
      rw [Stage.hear, told, ← answered]

end Went

variable (self : Handshake) (tireless : self.sink.Tireless)
  (ahead : Intake.Ahead ended bytes self.intake self.stream)

include tireless ahead

theorem startWent :
    Went options ended .greeting bytes self (.after .tuning (self.start options).1) (self.start options).2 := by
  refine Went.exchange .tuning rfl tireless ahead (fun e next received => by rw [start, received]) ?_
  intro method next received untiring
  rw [start, received, Stage.answer]
  split
  · rename_i same
    cases same
  · rename_i same
    cases same
    rename_i properties mechanisms locales
    cases offered : options.startOk mechanisms locales with
    | error e =>
      simp only [Stage.greet, offered]
      exact .silently (.error e) untiring
    | ok startOk =>
      simp only [Stage.greet, offered, ← sendAllOne]
      exact .saying [startOk] properties untiring
  · rename_i other same
    cases same
    unfold Stage.greet
    split
    · exact (other _ _ _ _ _ rfl).elim
    · exact .silently (.error .frameUnexpected) untiring

theorem tuneWent (properties : FieldTable) :
    Went options ended (.tuning properties) bytes self
      (.after (.opening properties) (self.tune options).1) (self.tune options).2 := by
  refine Went.exchange (.opening properties) rfl tireless ahead (fun e next received => by rw [tune, received]) ?_
  intro method next received untiring
  rw [tune, received, Stage.answer]
  split
  · rename_i same
    cases same
  · rename_i same
    cases same
    exact .silently (.error .saslSecureNotSupported) untiring
  · rename_i same
    cases same
    rename_i channelMax frameMax heartbeat
    cases agreed : options.tune ⟨channelMax, frameMax, heartbeat⟩ with
    | error e =>
      simp only [Stage.tune, agreed]
      exact .silently (.error e) untiring
    | ok limits =>
      simp only [Stage.tune, agreed]
      exact .saying [limits.method, options.openMethod] limits untiring
  · rename_i secure other same
    cases same
    unfold Stage.tune
    split
    · exact (secure _ rfl).elim
    · exact (other _ _ _ rfl).elim
    · exact .silently (.error .frameUnexpected) untiring

theorem consentWent (properties : FieldTable) (limits : Limits) :
    Went options ended (.opening properties limits) bytes self
      (.after (fun _ => .concluded (.ok (limits, properties))) self.consent.1) self.consent.2 := by
  refine Went.exchange (fun _ => .concluded (.ok (limits, properties))) rfl tireless ahead
    (fun e next received => by rw [consent, received]) ?_
  intro method next received untiring
  rw [consent, received, Stage.answer]
  split
  · rename_i same
    cases same
  · rename_i same
    cases same
    exact .silently (.ok ()) untiring
  · rename_i other same
    cases same
    unfold Stage.consent
    split
    · exact (other _ rfl).elim
    · exact .silently (.error .frameUnexpected) untiring

omit tireless ahead in
theorem Went.finished {self next : Handshake} {result : Except Error (Limits × FieldTable)}
    (went : Went options ended stage bytes self (.concluded result) next) :
    ∃ heard said rest last, Spoken bytes heard rest ∧ Talk options stage heard said last ∧
      Sink.Took (said.flatMap Method.wire) self.sink next.sink ∧ (last.isOver = true ∨ words rest = []) ∧
      last.result ended = result ∧
      ∀ opened, result = .ok opened →
        last = .concluded (.ok opened) ∧ Intake.Ahead ended rest next.intake next.stream := by
  cases went with
  | talked spoken talk took ahead =>
    exact ⟨_, _, _, _, spoken, talk, took, .inl rfl, rfl, fun opened ok => ⟨congrArg Stage.concluded ok, ahead⟩⟩
  | @left heard said rest last _ spoken silent talk going took =>
    refine ⟨_, _, _, _, spoken, talk, took, .inr silent, ?_, fun opened ok => by cases ok⟩
    cases last with
    | concluded => contradiction
    | greeting | tuning | opening => rfl

variable (options) in
theorem runWent : ∃ sink, Sink.Took Frame.protocolHeader self.sink sink ∧
    Went options ended .greeting bytes { self with sink } (.concluded (self.run options).1) (self.run options).2 := by
  obtain ⟨sink, written, took⟩ := self.writeTook tireless Frame.protocolHeader
  refine ⟨sink, took, ?_⟩
  rw [run, written]
  have began : Went options ended .greeting bytes { self with sink } _ _ := startWent _ took.tireless ahead
  rcases started : start options { self with sink } with ⟨e | properties, next⟩ <;> rw [started] at began
  · simp only [started]
    exact began
  · simp only [started]
    refine began.trans rfl fun rest ahead tireless => ?_
    have went : Went options ended (.tuning properties) rest next _ _ := tuneWent next tireless ahead properties
    rcases tuned : next.tune options with ⟨e | limits, next⟩ <;> rw [tuned] at went
    · exact went
    · refine went.trans rfl fun rest ahead tireless => ?_
      have agreed : Went options ended (.opening properties limits) rest next _ _ :=
        consentWent next tireless ahead properties limits
      rcases consented : next.consent with ⟨e | ⟨⟩, next⟩ <;>
      · rw [consented] at agreed
        simp only [consented]
        exact agreed

end Handshake

namespace Talk

variable {options : ConnectionOptions} {heard : List Piece} {said : List Method} {last : Stage}

theorem concludes (talk : Talk options .greeting heard said last) (ended : Bool) :
    ∃ methods, methods.map some <+: heard.map Piece.method? ∧
      Concludes options methods said (last.result ended) ∧
      ∀ opened, last = .concluded (.ok opened) → methods.map some = heard.map Piece.method? := by
  obtain ⟨methods, front, standing, whole⟩ := talk.standing .greeting
  refine ⟨methods, front, ?_, whole⟩
  cases last with
  | concluded result => exact standing
  | greeting | tuning | opening => exact .failed standing (List.prefix_refl _)

end Talk

namespace LiveConnection

variable {α : Type} (options : ConnectionOptions)

def agreed : Except Error (Limits × FieldTable × LiveConnection α) → Except Error (Limits × FieldTable) :=
  Except.map fun (limits, properties, _) => (limits, properties)

theorem startTalked (inbound : Inbound) (calm : inbound.arrivals.Calm) (most : Nat → Option Nat)
    (brisk : ∀ turn, most turn ≠ some 0) :
    let opened := start (α := α) options inbound { most }
    ∃ heard said rest last, Spoken inbound.arrivals.bytes heard rest ∧ Talk options .greeting heard said last ∧
      opened.2 = Frame.protocolHeader ++ said.flatMap Method.wire ∧ (last.isOver = true ∨ words rest = []) ∧
      agreed opened.1 = last.result inbound.ended ∧
      ∀ limits properties connection, opened.1 = .ok (limits, properties, connection) →
        last = .concluded (.ok (limits, properties)) ∧
        connection.core.intake.pending ++ connection.inbound.arrivals.bytes = rest ∧
        connection.inbound.arrivals.Calm ∧ connection.inbound.ended = inbound.ended := by
  let shake : Handshake := { stream := inbound.patient, sink := { most } }
  obtain ⟨sink, header, went⟩ :=
    shake.runWent options ⟨rfl, brisk⟩ (Intake.aheadAtFirst inbound calm)
  obtain ⟨heard, said, rest, last, spoken, talk, took, ended, result, left⟩ := went.finished
  have written : (shake.run options).2.sink.accepted.toList = Frame.protocolHeader ++ said.flatMap Method.wire :=
    (header.trans took).accepted
  refine ⟨heard, said, rest, last, spoken, talk, ?_⟩
  unfold start
  rcases outcome : shake.run options with ⟨e | ⟨limits, properties⟩, next⟩ <;> rw [outcome] at written result left
  · simp only
    exact ⟨written, ended, result.symm, fun limits properties connection ok => by cases ok⟩
  · simp only
    refine ⟨written, ended, result.symm, fun _ _ connection ok => ?_⟩
    cases ok
    obtain ⟨concluded, arrivals, quiet, stream, bytes⟩ := left _ rfl
    rw [stream, inbound.leavingEnding]
    exact ⟨concluded, bytes.symm, quiet, rfl⟩

/- The client answers a start with start-ok, and then a tune with tune-ok and open. Cuts and heartbeats change
neither what it writes nor what is agreed, and while the server has said less it has written no more. The
connection's reader goes on right behind open-ok. -/
theorem opensByWhatIsSaid (inbound : Inbound) (calm : inbound.arrivals.Calm) (most : Nat → Option Nat)
    (brisk : ∀ turn, most turn ≠ some 0) :
    let bytes := inbound.arrivals.bytes
    let opened := start (α := α) options inbound { most }
    (∃ heard said, heard.map some <+: (words bytes).map Piece.method? ∧
      opened.2 = Frame.protocolHeader ++ said.flatMap Method.wire ∧
      Talk.Concludes options heard said (agreed opened.1) ∧
      ∀ limits properties connection, opened.1 = .ok (limits, properties, connection) →
        ∃ spoken, spoken.map Piece.method? = heard.map some ∧
          Spoken bytes spoken (connection.core.intake.pending ++ connection.inbound.arrivals.bytes) ∧
          connection.inbound.arrivals.Calm ∧ connection.inbound.ended = inbound.ended) ∧
    (∀ (other : Inbound) (pace : Nat → Option Nat), other.arrivals.Calm → other.ended = inbound.ended →
      (∀ turn, pace turn ≠ some 0) → Beaten bytes other.arrivals.bytes →
      let again := start (α := α) options other { most := pace }
      agreed again.1 = agreed opened.1 ∧ again.2 = opened.2) ∧
    ∀ early : Inbound, early.arrivals.Calm → early.arrivals.bytes <+: bytes →
      (start (α := α) options early { most }).2 <+: opened.2 := by
  intro bytes opened
  obtain ⟨heard, said, rest, last, spoken, talk, written, ended, result, left⟩ :=
    startTalked (α := α) options inbound calm most brisk
  have told : words bytes = heard ++ words rest := spoken.words
  refine ⟨?_, ?_, ?_⟩
  · obtain ⟨methods, front, concludes, whole⟩ := talk.concludes inbound.ended
    refine ⟨methods, said, ?_, written, result ▸ concludes, fun limits properties connection ok => ?_⟩
    · rw [told, List.map_append]
      exact front.trans (List.prefix_append _ _)
    · obtain ⟨concluded, bytes, quiet, same⟩ := left limits properties connection ok
      exact ⟨heard, (whole _ concluded).symm, bytes ▸ spoken, quiet, same⟩
  · intro other pace quiet together paced beaten
    obtain ⟨heardToo, saidToo, restToo, lastToo, spokenToo, talkToo, writtenToo, endedToo, resultToo, -⟩ :=
      startTalked (α := α) options other quiet pace paced
    have same : heardToo ++ words restToo = heard ++ words rest := by
      rw [← spokenToo.words, beaten.words, told]
    obtain ⟨rfl, rfl⟩ := talkToo.alike talk same endedToo ended
    exact ⟨by rw [resultToo, result, together], by rw [writtenToo, written]⟩
  · intro early quiet shorter
    obtain ⟨heardEarly, saidEarly, restEarly, lastEarly, spokenEarly, talkEarly, writtenEarly, -⟩ :=
      startTalked (α := α) options early quiet most brisk
    have first : heardEarly ++ words restEarly <+: heard ++ words rest := by
      rw [← spokenEarly.words, ← told]
      exact Frame.wordsPrefix shorter
    obtain ⟨⟨more, rfl⟩, -⟩ := talkEarly.further talk first ended
    rw [writtenEarly, written, List.flatMap_append, ← List.append_assoc]
    exact List.prefix_append _ _

def invitation : List Frame :=
  [ ⟨.method, 0, [0, 10, 0, 10, 0, 9, 0, 0, 0, 0, 0, 0, 0, 5, 80, 76, 65, 73, 78, 0, 0, 0, 5, 101, 110, 95, 85, 83]⟩
  , ⟨.method, 0, [0, 10, 0, 30, 0, 16, 0, 0, 16, 0, 0, 10]⟩
  , ⟨.method, 0, [0, 10, 0, 41, 0]⟩ ]

def uncut : Inbound where
  arrivals := [.data ((invitation.map Frame.encode).flatten ++ [1, 0, 1])]

def straggling : Inbound where
  arrivals :=
    let bytes := (invitation.flatMap fun frame => Frame.heartbeat.encode ++ frame.encode) ++ [1, 0, 1]
    [.data (bytes.take 11), .fault .interrupted, .data ((bytes.drop 11).take 50), .data (bytes.drop 61)]

theorem stragglingOpens :
    uncut.arrivals.Calm ∧ straggling.arrivals.Calm ∧ (∀ turn, (fun _ : Nat => some 7) turn ≠ some 0) ∧
      (agreed (start (α := Unit) {} straggling {}).1).toOption = some (⟨16, 4096, 10⟩, FieldTable.ofList []) ∧
      (start (α := Unit) {} straggling {}).2 = (start (α := Unit) {} uncut { most := fun _ => some 7 }).2 := by
  have calm : uncut.arrivals.Calm := by decide
  have calmToo : straggling.arrivals.Calm := by decide
  have brisk : ∀ turn, (fun _ : Nat => some 7) turn ≠ some 0 := by simp
  have opens : (agreed (start (α := Unit) {} uncut { most := fun _ => some 7 }).1).toOption
      = some (⟨16, 4096, 10⟩, FieldTable.ofList []) := by decide +kernel
  have beaten : Beaten uncut.arrivals.bytes straggling.arrivals.bytes :=
    Frame.beatenEach (by decide : ∀ frame ∈ invitation, frame.payload.length < UInt32.size) [1, 0, 1]
  have alike : agreed (start (α := Unit) {} straggling {}).1
        = agreed (start (α := Unit) {} uncut { most := fun _ => some 7 }).1 ∧
      (start (α := Unit) {} straggling {}).2 = (start (α := Unit) {} uncut { most := fun _ => some 7 }).2 :=
    (opensByWhatIsSaid (α := Unit) {} uncut calm (fun _ => some 7) brisk).2.1 straggling (fun _ => none) calmToo rfl
      (by simp) beaten
  rw [alike.1, alike.2]
  exact ⟨calm, calmToo, brisk, opens, rfl⟩

end LiveConnection

end AmqpClient
