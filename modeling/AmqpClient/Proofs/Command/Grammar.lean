import AmqpClient.Command.Assembler
import AmqpClient.Proofs.Content.Reading
import Mathlib.Data.List.Induction

/-! The frames that make up one command. `Progress` says what an assembler has become once it has accepted
some frames and no others, and both directions of it are proved: an assembler that accepts frames is where
`Progress` says, and whatever `Progress` allows is accepted. What the grammar of commands is, and what
every assembler on its way satisfies, is read off it. -/
namespace AmqpClient

def Frame.bodyBytes (frame : Frame) : Bytes := if frame.kind = .body then frame.payload else []

def bodyBytes (frames : List Frame) : Bytes := frames.flatMap Frame.bodyBytes

@[simp] theorem bodyBytesNil : bodyBytes [] = [] := rfl

@[simp] theorem bodyBytesCons (frame : Frame) (rest : List Frame) :
    bodyBytes (frame :: rest) = frame.bodyBytes ++ bodyBytes rest := rfl

@[simp] theorem bodyBytesAppend (first second : List Frame) :
    bodyBytes (first ++ second) = bodyBytes first ++ bodyBytes second := by
  simp [bodyBytes]

theorem Frame.kindOfMethod {frame : Frame} {method : Method} (parsed : frame.method = .ok method) :
    frame.kind = .method := by
  unfold Frame.method at parsed
  split at parsed
  · assumption
  · split at parsed <;> contradiction
  · contradiction

theorem Frame.kindOfHeader {frame : Frame} {header : ContentHeader}
    (parsed : frame.contentHeader = .ok header) : frame.kind = .header := by
  unfold Frame.contentHeader at parsed
  split at parsed
  · assumption
  · split at parsed <;> contradiction
  · contradiction

theorem Frame.bodyBytesOfMethod {frame : Frame} {method : Method} (parsed : frame.method = .ok method) :
    frame.bodyBytes = [] := by
  simp [Frame.bodyBytes, Frame.kindOfMethod parsed]

theorem Frame.bodyBytesOfHeader {frame : Frame} {header : ContentHeader}
    (parsed : frame.contentHeader = .ok header) : frame.bodyBytes = [] := by
  simp [Frame.bodyBytes, Frame.kindOfHeader parsed]

def SpillOptions.keep (spill : SpillOptions) (size : UInt64) (bytes : Bytes) : BodySlot :=
  if spill.spills size then .spilling ⟨bytes⟩ else .memory bytes

namespace Assembler

theorem acceptHeaderEmpty (assembler : Assembler) {header : ContentHeader} (zero : header.bodySize = 0) :
    assembler.acceptHeader header =
      .ok { assembler with state := .complete, remaining := 0, header := some header } := by
  simp [acceptHeader, zero]

theorem acceptHeaderSized (assembler : Assembler) {header : ContentHeader}
    (working : assembler.spill.directory = true) (sized : header.bodySize ≠ 0) :
    assembler.acceptHeader header =
      .ok { assembler with
        state := .expectingContentBody, remaining := header.bodySize, header := some header
        body := assembler.spill.keep header.bodySize [] } := by
  simp only [acceptHeader, if_neg sized, SpillOptions.keep]
  split
  · simp [SpillOptions.create, working, bind, Except.bind]
  · rfl

theorem appendBodyOverflow {assembler : Assembler} {payload : Bytes}
    (overfull : assembler.remaining.toNat < payload.length) :
    ∃ size received, assembler.appendBody payload = .error (.bodyOverflow size received) := by
  simp only [appendBody, if_pos overfull]
  exact ⟨_, _, rfl⟩

theorem appendBodyKept {assembler : Assembler} {size : UInt64} {bytes payload : Bytes}
    (kept : assembler.body = assembler.spill.keep size bytes)
    (fits : payload.length ≤ assembler.remaining.toNat) :
    assembler.appendBody payload =
      .ok { assembler with
        body := assembler.spill.keep size (bytes ++ payload)
        remaining := assembler.remaining - UInt64.ofNat payload.length
        state := if assembler.remaining - UInt64.ofNat payload.length = 0 then .complete
          else assembler.state } := by
  simp only [appendBody, if_neg (Nat.not_lt.mpr fits), kept, SpillOptions.keep]
  cases assembler.spill.spills size <;> rfl

theorem acceptMethodIff {assembler next : Assembler} {frame : Frame}
    (waiting : assembler.state = .expectingMethod) :
    assembler.accept frame = .ok next ↔ ∃ method, frame.method = .ok method ∧
      next = { assembler with
        state := if method.hasContent then .expectingContentHeader else .complete
        method := some method } := by
  simp only [accept, waiting]
  constructor
  · intro ok
    split at ok
    · contradiction
    · cases parsed : frame.method with
      | error e => simp [parsed, bind, Except.bind] at ok
      | ok method =>
        simp only [parsed, bind, Except.bind] at ok
        exact ⟨method, rfl, (Except.ok.inj ok).symm⟩
  · rintro ⟨method, parsed, rfl⟩
    simp [Frame.kindOfMethod parsed, parsed, bind, Except.bind]

theorem acceptHeaderIff {assembler next : Assembler} {frame : Frame}
    (waiting : assembler.state = .expectingContentHeader) :
    assembler.accept frame = .ok next ↔
      ∃ header, frame.contentHeader = .ok header ∧ assembler.acceptHeader header = .ok next := by
  simp only [accept, waiting]
  constructor
  · intro ok
    split at ok
    · contradiction
    · cases parsed : frame.contentHeader with
      | error e => simp [parsed, bind, Except.bind] at ok
      | ok header => exact ⟨header, rfl, by simpa [parsed, bind, Except.bind] using ok⟩
  · rintro ⟨header, parsed, ok⟩
    simp [Frame.kindOfHeader parsed, parsed, bind, Except.bind, ok]

theorem acceptBodyIff {assembler next : Assembler} {frame : Frame}
    (waiting : assembler.state = .expectingContentBody) :
    assembler.accept frame = .ok next ↔
      frame.kind = .body ∧ assembler.appendBody frame.payload = .ok next := by
  simp only [accept, waiting]
  by_cases body : frame.kind = .body <;> simp [body]

theorem acceptComplete {assembler : Assembler} (complete : assembler.state = .complete) (frame : Frame) :
    assembler.accept frame = .error (.frameAfterComplete frame.kind) := by
  simp only [accept, complete]

theorem remainingToNat {size : UInt64} {count : Nat} (within : count ≤ size.toNat) :
    (size - UInt64.ofNat count).toNat = size.toNat - count := by
  have small : (UInt64.ofNat count).toNat = count :=
    UInt64.toNat_ofNat_of_lt' (Nat.lt_of_le_of_lt within size.toNat_lt)
  rw [UInt64.toNat_sub_of_le _ _ (by rw [UInt64.le_iff_toNat_le, small]; exact within), small]

theorem remainingAppend {size : UInt64} {count more : Nat} (within : count + more ≤ size.toNat) :
    size - UInt64.ofNat count - UInt64.ofNat more = size - UInt64.ofNat (count + more) := by
  have left := remainingToNat (Nat.le_trans (Nat.le_add_right count more) within)
  apply UInt64.toNat_inj.mp
  rw [remainingToNat (by rw [left]; omega), left, remainingToNat within]
  omega

theorem remainingZero {size : UInt64} {count : Nat} (within : count ≤ size.toNat) :
    size - UInt64.ofNat count = 0 ↔ count = size.toNat := by
  rw [← UInt64.toNat_inj, remainingToNat within, UInt64.toNat_zero]
  omega

def collecting (spill : SpillOptions) (method : Method) (header : ContentHeader) (bytes : Bytes) :
    Assembler where
  state := .expectingContentBody
  method := some method
  header := some header
  remaining := header.bodySize - UInt64.ofNat bytes.length
  body := spill.keep header.bodySize bytes
  spill := spill

def collected (spill : SpillOptions) (method : Method) (header : ContentHeader) (bytes : Bytes) :
    Assembler where
  state := .complete
  method := some method
  header := some header
  body := spill.keep header.bodySize bytes
  spill := spill

theorem acceptCollecting {spill : SpillOptions} {method : Method} {header : ContentHeader}
    {bytes : Bytes} {frame : Frame} {next : Assembler} (lacking : bytes.length < header.bodySize.toNat) :
    (collecting spill method header bytes).accept frame = .ok next ↔ frame.kind = .body ∧
      ((bytes ++ frame.payload).length < header.bodySize.toNat ∧
          next = collecting spill method header (bytes ++ frame.payload) ∨
        (bytes ++ frame.payload).length = header.bodySize.toNat ∧
          next = collected spill method header (bytes ++ frame.payload)) := by
  rw [acceptBodyIff rfl]
  refine and_congr_right fun _ => ?_
  have left : (collecting spill method header bytes).remaining.toNat
      = header.bodySize.toNat - bytes.length := remainingToNat (Nat.le_of_lt lacking)
  have length : (bytes ++ frame.payload).length = bytes.length + frame.payload.length :=
    List.length_append
  by_cases fits : frame.payload.length ≤ header.bodySize.toNat - bytes.length
  · have within : bytes.length + frame.payload.length ≤ header.bodySize.toNat := by omega
    rw [appendBodyKept rfl (by rw [left]; exact fits)]
    simp only [collecting, remainingAppend within, ← length, remainingZero (length.symm ▸ within),
      Except.ok.injEq, eq_comm (b := next)]
    by_cases total : (bytes ++ frame.payload).length = header.bodySize.toNat
    · simp [total, collected]
    · simp only [total, false_and, or_false]
      exact ⟨fun same => ⟨by omega, same⟩, And.right⟩
  · have more : (collecting spill method header bytes).remaining.toNat < frame.payload.length := by
      rw [left]
      omega
    obtain ⟨size, received, overfull⟩ := appendBodyOverflow more
    rw [overfull]
    constructor
    · intro ok
      contradiction
    · rintro (⟨fits', _⟩ | ⟨fits', _⟩) <;> omega

theorem acceptAnnounced {spill : SpillOptions} (working : spill.directory = true) {method : Method}
    {frame : Frame} {next : Assembler} :
    ({ state := .expectingContentHeader, method := some method, spill } : Assembler).accept frame
        = .ok next ↔
      ∃ header, frame.contentHeader = .ok header ∧
        (header.bodySize = 0 ∧ next = { state := .complete, method := some method
                                        header := some header, spill } ∨
          0 < header.bodySize.toNat ∧ next = collecting spill method header []) := by
  rw [acceptHeaderIff rfl]
  refine exists_congr fun header => and_congr_right fun _ => ?_
  by_cases zero : header.bodySize = 0
  · simp [acceptHeaderEmpty _ zero, zero, eq_comm]
  · have sized : 0 < header.bodySize.toNat :=
      Nat.pos_of_ne_zero fun empty => zero (UInt64.toNat_inj.mp empty)
    simp [acceptHeaderSized { state := .expectingContentHeader, method := some method, spill }
      working zero, zero, sized, collecting, eq_comm]

structure Opening (first second : Frame) (method : Method) (header : ContentHeader) : Prop where
  parsed : first.method = .ok method
  content : method.hasContent = true
  titled : second.contentHeader = .ok header

inductive Progress (spill : SpillOptions) : List Frame → Assembler → Prop where
  | fresh : Progress spill [] { spill }
  | bare {first method} (parsed : first.method = .ok method) (plain : method.hasContent = false) :
      Progress spill [first] { state := .complete, method := some method, spill }
  | announced {first method} (parsed : first.method = .ok method)
      (content : method.hasContent = true) :
      Progress spill [first] { state := .expectingContentHeader, method := some method, spill }
  | empty {first second method header} (opening : Opening first second method header)
      (zero : header.bodySize = 0) :
      Progress spill [first, second]
        { state := .complete, method := some method, header := some header, spill }
  | growing {first second method header bodies} (opening : Opening first second method header)
      (only : ∀ frame ∈ bodies, frame.kind = .body)
      (lacking : (bodyBytes bodies).length < header.bodySize.toNat) :
      Progress spill (first :: second :: bodies) (collecting spill method header (bodyBytes bodies))
  | whole {first second method header bodies last} (opening : Opening first second method header)
      (only : ∀ frame ∈ bodies ++ [last], frame.kind = .body)
      (total : (bodyBytes (bodies ++ [last])).length = header.bodySize.toNat)
      (filled : last.payload ≠ []) :
      Progress spill (first :: second :: (bodies ++ [last]))
        (collected spill method header (bodyBytes (bodies ++ [last])))

variable {spill : SpillOptions} {frames : List Frame} {assembler next : Assembler} {frame : Frame}

theorem progressAccept (working : spill.directory = true) (progress : Progress spill frames assembler)
    (ok : assembler.accept frame = .ok next) : Progress spill (frames ++ [frame]) next := by
  cases progress with
  | fresh =>
    obtain ⟨method, parsed, rfl⟩ := (acceptMethodIff rfl).mp ok
    cases content : method.hasContent with
    | false => exact .bare parsed content
    | true => exact .announced parsed content
  | announced parsed content =>
    obtain ⟨header, titled, ⟨zero, rfl⟩ | ⟨sized, rfl⟩⟩ := (acceptAnnounced working).mp ok
    · exact .empty ⟨parsed, content, titled⟩ zero
    · exact .growing ⟨parsed, content, titled⟩ (by simp) sized
  | @growing first second method header bodies opening only lacking =>
    obtain ⟨body, outcome⟩ := (acceptCollecting lacking).mp ok
    have bytes : bodyBytes bodies ++ frame.payload = bodyBytes (bodies ++ [frame]) := by
      simp [Frame.bodyBytes, body]
    have only' : ∀ other ∈ bodies ++ [frame], other.kind = .body := by
      simpa [body, or_imp, forall_and] using only
    rw [bytes] at outcome
    obtain ⟨fewer, rfl⟩ | ⟨total, rfl⟩ := outcome
    · exact .growing opening only' fewer
    · refine .whole opening only' total fun empty => ?_
      rw [← bytes, empty, List.append_nil] at total
      omega
  | bare parsed plain => rw [acceptComplete rfl] at ok; contradiction
  | empty opening zero => rw [acceptComplete rfl] at ok; contradiction
  | whole opening only total filled => rw [acceptComplete rfl] at ok; contradiction

theorem progressLast (working : spill.directory = true) (progress : Progress spill frames next) :
    frames = [] ∨ ∃ earlier last prior, frames = earlier ++ [last] ∧ Progress spill earlier prior ∧
      prior.accept last = .ok next := by
  cases progress with
  | fresh => exact .inl rfl
  | @bare first method parsed plain =>
    refine .inr ⟨[], first, _, rfl, .fresh, (acceptMethodIff rfl).mpr ⟨method, parsed, ?_⟩⟩
    simp [plain]
  | @announced first method parsed content =>
    refine .inr ⟨[], first, _, rfl, .fresh, (acceptMethodIff rfl).mpr ⟨method, parsed, ?_⟩⟩
    simp [content]
  | @empty first second method header opening zero =>
    refine .inr ⟨[first], second, _, rfl, .announced opening.parsed opening.content, ?_⟩
    exact (acceptAnnounced working).mpr ⟨header, opening.titled, .inl ⟨zero, rfl⟩⟩
  | @growing first second method header bodies opening only lacking =>
    cases bodies using List.reverseRecOn with
    | nil =>
      refine .inr ⟨[first], second, _, rfl, .announced opening.parsed opening.content, ?_⟩
      exact (acceptAnnounced working).mpr ⟨header, opening.titled, .inr ⟨lacking, rfl⟩⟩
    | append_singleton bodies last =>
      have body : last.kind = .body := only last (by simp)
      have bytes : bodyBytes (bodies ++ [last]) = bodyBytes bodies ++ last.payload := by
        simp [Frame.bodyBytes, body]
      rw [bytes] at lacking ⊢
      have fewer : (bodyBytes bodies).length < header.bodySize.toNat := by
        rw [List.length_append] at lacking
        omega
      refine .inr ⟨first :: second :: bodies, last, _, rfl,
        .growing opening (fun frame known => only frame (by simp [known])) fewer, ?_⟩
      exact (acceptCollecting fewer).mpr ⟨body, .inl ⟨lacking, rfl⟩⟩
  | @whole first second method header bodies last opening only total filled =>
    have body : last.kind = .body := only last (by simp)
    have bytes : bodyBytes (bodies ++ [last]) = bodyBytes bodies ++ last.payload := by
      simp [Frame.bodyBytes, body]
    rw [bytes] at total ⊢
    have fewer : (bodyBytes bodies).length < header.bodySize.toNat := by
      have positive := List.length_pos_iff.mpr filled
      rw [List.length_append] at total
      omega
    refine .inr ⟨first :: second :: bodies, last, _, rfl,
      .growing opening (fun frame known => only frame (by simp [known])) fewer, ?_⟩
    exact (acceptCollecting fewer).mpr ⟨body, .inr ⟨total, rfl⟩⟩

theorem acceptAllSnoc (assembler : Assembler) (frames : List Frame) (last : Frame) :
    assembler.acceptAll (frames ++ [last]) = (assembler.acceptAll frames).bind (·.accept last) := by
  induction frames generalizing assembler with
  | nil =>
    simp only [List.nil_append, acceptAll, bind, Except.bind]
    cases assembler.accept last <;> rfl
  | cons head rest ih =>
    simp only [List.cons_append, acceptAll, bind, Except.bind]
    cases assembler.accept head with
    | error e => rfl
    | ok next => exact ih next

theorem acceptAllIff (working : spill.directory = true) :
    acceptAll { spill } frames = .ok assembler ↔ Progress spill frames assembler := by
  induction frames using List.reverseRecOn generalizing assembler with
  | nil =>
    constructor
    · intro ok
      cases Except.ok.inj ok
      exact .fresh
    · intro progress
      cases progress
      rfl
  | append_singleton earlier last ih =>
    rw [acceptAllSnoc]
    constructor
    · intro ok
      cases accepted : acceptAll { spill } earlier with
      | error e => simp [accepted, Except.bind] at ok
      | ok prior =>
        rw [accepted] at ok
        exact progressAccept working (ih.mp accepted) ok
    · intro progress
      obtain empty | ⟨earlier', last', prior, same, before, ok⟩ := progressLast working progress
      · simp at empty
      · obtain ⟨rfl, rfl⟩ := List.append_singleton_inj.mp same
        rw [ih.mpr before]
        exact ok

def feedAll (assembler : Assembler) : List Frame → List Frame × Assembler
  | [] => ([], assembler)
  | frame :: rest =>
    match assembler.feed frame with
    | (.ok _, next) => (frame :: (feedAll next rest).1, (feedAll next rest).2)
    | (.error _, same) => feedAll same rest

theorem feedAllProgress (working : spill.directory = true) (progress : Progress spill frames assembler)
    (fed : List Frame) :
    Progress spill (frames ++ (assembler.feedAll fed).1) (assembler.feedAll fed).2 := by
  induction fed generalizing frames assembler with
  | nil => simpa [feedAll] using progress
  | cons frame rest ih =>
    simp only [feedAll, feed]
    cases ok : assembler.accept frame with
    | error e => exact ih progress
    | ok next => simpa using ih (progressAccept working progress ok)

inductive Sentence : List Frame → Prop where
  | bare {first method} (parsed : first.method = .ok method) (plain : method.hasContent = false) :
      Sentence [first]
  | empty {first second method header} (parsed : first.method = .ok method)
      (content : method.hasContent = true) (titled : second.contentHeader = .ok header)
      (zero : header.bodySize = 0) : Sentence [first, second]
  | full {first second method header bodies last} (parsed : first.method = .ok method)
      (content : method.hasContent = true) (titled : second.contentHeader = .ok header)
      (sized : 0 < header.bodySize.toNat) (only : ∀ frame ∈ bodies ++ [last], frame.kind = .body)
      (total : ((bodies ++ [last]).flatMap Frame.payload).length = header.bodySize.toNat)
      (filled : last.payload ≠ []) : Sentence (first :: second :: (bodies ++ [last]))

theorem bodyBytesOnly {bodies : List Frame} (only : ∀ frame ∈ bodies, frame.kind = .body) :
    bodyBytes bodies = bodies.flatMap Frame.payload := by
  induction bodies with
  | nil => rfl
  | cons frame rest ih =>
    have body : frame.kind = .body := only frame (by simp)
    have later := ih fun other known => only other (by simp [known])
    simp [Frame.bodyBytes, body, later]

theorem sentenceIff (spill : SpillOptions) :
    (∃ assembler, Progress spill frames assembler ∧ assembler.state = .complete) ↔ Sentence frames := by
  constructor
  · rintro ⟨assembler, progress, complete⟩
    cases progress with
    | bare parsed plain => exact .bare parsed plain
    | empty opening zero => exact .empty opening.parsed opening.content opening.titled zero
    | whole opening only total filled =>
      have sized := List.length_pos_iff.mpr filled
      rw [bodyBytesOnly only] at total
      refine .full opening.parsed opening.content opening.titled ?_ only total filled
      simp only [List.flatMap_append, List.flatMap_cons, List.length_append] at total
      omega
    | fresh | announced | growing => contradiction
  · intro sentence
    cases sentence with
    | bare parsed plain => exact ⟨_, .bare parsed plain, rfl⟩
    | empty parsed content titled zero => exact ⟨_, .empty ⟨parsed, content, titled⟩ zero, rfl⟩
    | full parsed content titled sized only total filled =>
      rw [← bodyBytesOnly only] at total
      exact ⟨_, .whole ⟨parsed, content, titled⟩ only total filled, rfl⟩

theorem progressRemaining (progress : Progress spill frames assembler) :
    assembler.remaining.toNat + (bodyBytes frames).length
      = (assembler.header.map fun header => header.bodySize.toNat).getD 0 := by
  cases progress with
  | fresh => rfl
  | bare parsed plain => simp [Frame.bodyBytesOfMethod parsed]
  | announced parsed content => simp [Frame.bodyBytesOfMethod parsed]
  | empty opening zero =>
    simp [Frame.bodyBytesOfMethod opening.parsed, Frame.bodyBytesOfHeader opening.titled, zero]
  | growing opening only lacking =>
    have left := remainingToNat (Nat.le_of_lt lacking)
    simp only [collecting, left, bodyBytesCons, Frame.bodyBytesOfMethod opening.parsed,
      Frame.bodyBytesOfHeader opening.titled, List.nil_append, Option.map_some, Option.getD_some]
    omega
  | whole opening only total filled =>
    simp only [collected, bodyBytesCons, Frame.bodyBytesOfMethod opening.parsed,
      Frame.bodyBytesOfHeader opening.titled, List.nil_append, Option.map_some, Option.getD_some, total]
    exact Nat.zero_add _

theorem progressPositive (progress : Progress spill frames assembler) :
    0 < assembler.remaining.toNat ↔ assembler.state = .expectingContentBody := by
  cases progress with
  | growing opening only lacking =>
    have left := remainingToNat (Nat.le_of_lt lacking)
    simp only [collecting, left, iff_true]
    omega
  | fresh | bare | announced | empty | whole => simp [collected]

theorem progressHeader (progress : Progress spill frames assembler)
    (titled : assembler.header.isSome = true) :
    ∃ method, assembler.method = some method ∧ method.hasContent = true := by
  cases progress with
  | fresh | bare | announced => contradiction
  | empty opening | growing opening | whole opening => exact ⟨_, rfl, opening.content⟩

theorem keepRest (spill : SpillOptions) (size : UInt64) (bytes : Bytes) (assembler : Assembler)
    (complete : assembler.state = .complete) (kept : assembler.body = spill.keep size bytes) :
    ∃ body next, assembler.takeBody = (.ok body, next) ∧ body.length = UInt64.ofNat bytes.length ∧
      body.remainder = .ok bytes := by
  have ready : assembler.state ≠ .expectingContentBody := by simp [complete]
  simp only [takeBody, if_neg ready, kept, SpillOptions.keep]
  cases spill.spills size with
  | true => exact ⟨_, _, rfl, rfl, ContentBody.remainderOfSpill ⟨bytes.length, bytes⟩⟩
  | false => exact ⟨_, _, rfl, rfl, ContentBody.remainderOfBytes bytes⟩

theorem progressBody (progress : Progress spill frames assembler)
    (complete : assembler.state = .complete) :
    ∃ body next, assembler.takeBody = (.ok body, next) ∧
      body.length.toNat = (bodyBytes frames).length ∧ body.remainder = .ok (bodyBytes frames) := by
  have nothing : ContentBody.empty.remainder = .ok [] := ContentBody.remainderOfBytes []
  cases progress with
  | fresh | announced | growing => contradiction
  | bare parsed plain =>
    rw [bodyBytesCons, Frame.bodyBytesOfMethod parsed]
    exact ⟨_, _, rfl, rfl, nothing⟩
  | empty opening zero =>
    rw [bodyBytesCons, bodyBytesCons, Frame.bodyBytesOfMethod opening.parsed,
      Frame.bodyBytesOfHeader opening.titled]
    exact ⟨_, _, rfl, rfl, nothing⟩
  | @whole first second method header bodies last opening only total filled =>
    have bytes : bodyBytes (first :: second :: (bodies ++ [last])) = bodyBytes (bodies ++ [last]) := by
      rw [bodyBytesCons, bodyBytesCons, Frame.bodyBytesOfMethod opening.parsed,
        Frame.bodyBytesOfHeader opening.titled]
      rfl
    obtain ⟨body, next, taken, length, remainder⟩ := keepRest spill header.bodySize
      (bodyBytes (bodies ++ [last])) (collected spill method header _) rfl rfl
    refine ⟨body, next, taken, ?_, by rw [bytes]; exact remainder⟩
    rw [bytes, length]
    exact UInt64.toNat_ofNat_of_lt' (total ▸ header.bodySize.toNat_lt)

theorem acceptsExactlySentences (spill : SpillOptions) (working : spill.directory = true)
    (frames : List Frame) :
    ((∃ assembler, acceptAll { spill } frames = .ok assembler ∧ assembler.state = .complete) ↔
        Sentence frames) ∧
      ∀ accepted assembler, feedAll { spill } frames = (accepted, assembler) →
        assembler.remaining.toNat + (bodyBytes accepted).length
          = (assembler.header.map fun header => header.bodySize.toNat).getD 0 ∧
        (0 < assembler.remaining.toNat ↔ assembler.state = .expectingContentBody) ∧
        (assembler.header.isSome = true →
          ∃ method, assembler.method = some method ∧ method.hasContent = true) ∧
        (assembler.state = .complete →
          ∃ body next, assembler.takeBody = (.ok body, next) ∧
            body.length.toNat = (bodyBytes accepted).length ∧
            body.remainder = .ok (bodyBytes accepted)) := by
  constructor
  · rw [← sentenceIff spill]
    exact exists_congr fun assembler => and_congr_left' (acceptAllIff working)
  · intro accepted assembler fed
    have progress := feedAllProgress working .fresh frames
    rw [fed] at progress
    exact ⟨progressRemaining progress, progressPositive progress, progressHeader progress,
      progressBody progress⟩

set_option maxRecDepth 1000 in
theorem acceptsMessageOfTwoBytes :
    ({ threshold := 0 } : SpillOptions).directory = true ∧
      Sentence [⟨.method, 1, [0, 60, 0, 71, 0, 0, 0, 0, 0, 0, 0, 1, 0, 0, 0, 0, 0, 0, 0]⟩,
        ⟨.header, 1, [0, 60, 0, 0, 0, 0, 0, 0, 0, 0, 0, 2, 0, 0]⟩, .body 1 [5], .body 1 [], .body 1 [6]] ∧
      ∃ body next,
        (feedAll { spill := { threshold := 0 } }
          [⟨.method, 1, [0, 60, 0, 71, 0, 0, 0, 0, 0, 0, 0, 1, 0, 0, 0, 0, 0, 0, 0]⟩,
            ⟨.header, 1, [0, 60, 0, 0, 0, 0, 0, 0, 0, 0, 0, 2, 0, 0]⟩, .body 1 [5], .body 1 [],
            .body 1 [6], .heartbeat]).2.takeBody = (.ok body, next) ∧
        body.length.toNat = 2 ∧ body.remainder = .ok [5, 6] := by
  refine ⟨rfl, (acceptsExactlySentences { threshold := 0 } rfl _).1.mp ⟨_, rfl, rfl⟩, ?_⟩
  have sound := (acceptsExactlySentences { threshold := 0 } rfl
    [⟨.method, 1, [0, 60, 0, 71, 0, 0, 0, 0, 0, 0, 0, 1, 0, 0, 0, 0, 0, 0, 0]⟩,
      ⟨.header, 1, [0, 60, 0, 0, 0, 0, 0, 0, 0, 0, 0, 2, 0, 0]⟩, .body 1 [5], .body 1 [],
      .body 1 [6], .heartbeat]).2 _ _ rfl
  exact sound.2.2.2 rfl

end Assembler

end AmqpClient
