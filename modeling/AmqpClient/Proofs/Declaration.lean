import AmqpClient.Declaration
import AmqpClient.Proofs.Content.Heading

/-! What a server reads of the requests that are made of an application's names and options. All of a short text is
written, but only one byte of its length, so that a longer one comes to be read as something else. -/
namespace AmqpClient

namespace Method

variable {method other : Method} {channel : UInt16} {frame : Frame}

theorem argumentsSame {kind : MethodKind} {one two : Arguments kind.parts} (same : Method.mk kind one = ⟨kind, two⟩) :
    one = two := by
  cases same
  rfl

theorem frameIff :
    method.frame channel = .ok frame ↔ method.write.length < UInt32.size ∧ frame = ⟨.method, channel, method.write⟩ := by
  rw [Method.frame, Frame.ofPayload]
  split
  · rename_i fits
    simp [fits, eq_comm]
  · rename_i large
    simp [large]

theorem frameRead (framed : method.frame channel = .ok frame) :
    (frame.method = .ok method.kept ↔ method.Sound) ∧
      (frame.method = .ok method ↔ method.Sound ∧ method.kept = method) := by
  obtain ⟨fits, rfl⟩ := frameIff.mp framed
  constructor
  · constructor
    · intro read
      have sound := (readSound (Frame.methodIff.mp read).2).1
      exact (Arguments.soundKept _ _).mp sound
    · exact fun sound => Frame.methodIff.mpr ⟨rfl, readWritten fits sound⟩
  · constructor
    · intro read
      have taken := readSound (Frame.methodIff.mp read).2
      exact ⟨taken.1, taken.2.1⟩
    · rintro ⟨sound, same⟩
      have read := readWritten fits sound
      rw [same] at read
      exact Frame.methodIff.mpr ⟨rfl, read⟩

end Method

inductive OptionedRequest
  | exchange (options : ExchangeOptions) (type : ExchangeType) (name : String) (passive : Bool)
  | queue (options : QueueOptions) (name : String) (passive : Bool)
  | deletion (options : QueueDeleteOptions) (queue : String)
  | consumer (options : ConsumerOptions) (queue tag : String)
  | message (publish : Publish) (exchange : String)

namespace OptionedRequest

def method : OptionedRequest → Method
  | .exchange options type name passive => options.declare type name passive
  | .queue options name passive => options.declare name passive
  | .deletion options name => options.delete name
  | .consumer options name tag => options.consume name tag
  | .message publish name => publish.method name

def texts : OptionedRequest → List String
  | .exchange _ type name _ => [name, type.name]
  | .queue _ name _ => [name]
  | .deletion _ name => [name]
  | .consumer _ name tag => [name, tag]
  | .message publish name => [name, publish.routingKey]

def arguments : OptionedRequest → FieldTable
  | .exchange options .. => options.arguments
  | .queue options .. => options.arguments
  | .deletion .. => .nil
  | .consumer options .. => options.arguments
  | .message .. => .nil

def unread : OptionedRequest → List Bool
  | .exchange options .. => [options.autoDelete]
  | .queue options .. => [options.autoDelete]
  | .deletion options _ => [options.ifUnused, options.ifEmpty]
  | .consumer options .. => [options.noLocal, options.noAck]
  | .message .. => []

def cleared : OptionedRequest → OptionedRequest
  | .exchange options type name passive => .exchange { options with autoDelete := false } type name passive
  | .queue options name passive => .queue { options with autoDelete := false } name passive
  | .deletion _ name => .deletion {} name
  | .consumer options name tag => .consumer { options with noLocal := false, noAck := false } name tag
  | .message publish name => .message publish name

def Fits (request : OptionedRequest) : Prop :=
  (∀ text ∈ request.texts, Text.IsShort text) ∧ request.arguments.Throughout KeysShort

variable {request : OptionedRequest}

theorem soundParts (request : OptionedRequest) :
    request.method.Sound ↔ (∀ text ∈ request.texts, Text.IsShort text) ∧ request.arguments.Throughout KeysSound := by
  cases request with
  | exchange options type name passive =>
    show True ∧ _ ∧ _ ∧ True ∧ options.arguments.Throughout KeysSound ∧ True ↔ _
    simp [texts, arguments, Part.Sound, and_assoc]
  | queue options name passive =>
    show True ∧ _ ∧ True ∧ options.arguments.Throughout KeysSound ∧ True ↔ _
    simp [texts, arguments, Part.Sound]
  | deletion options name =>
    show True ∧ Text.IsShort name ∧ True ∧ True ↔ _
    simp [texts, arguments, FieldTable.nilSound]
  | consumer options name tag =>
    show True ∧ Text.IsShort name ∧ Text.IsShort tag ∧ True ∧ options.arguments.Throughout KeysSound ∧ True ↔ _
    simp [texts, arguments, and_assoc]
  | message publish name =>
    show True ∧ Text.IsShort name ∧ Text.IsShort publish.routingKey ∧ True ∧ True ↔ _
    simp [texts, arguments, FieldTable.nilSound]

theorem keptMethod (request : OptionedRequest) : request.method.kept = request.cleared.method := by
  cases request <;> rfl

theorem clearedIff (request : OptionedRequest) :
    request.cleared.method = request.method ↔ ∀ flag ∈ request.unread, flag = false := by
  constructor
  · intro same
    cases request with
    | exchange options type name passive =>
      have flag := congrArg (fun arguments : Arguments MethodKind.exchangeDeclare.parts => arguments.2.2.2.1.2.2.1)
        (Method.argumentsSame same)
      simpa [unread] using flag.symm
    | queue options name passive =>
      have flag := congrArg (fun arguments : Arguments MethodKind.queueDeclare.parts => arguments.2.2.1.2.2.2.1)
        (Method.argumentsSame same)
      simpa [unread] using flag.symm
    | deletion options name =>
      have flags := congrArg (fun arguments : Arguments MethodKind.queueDelete.parts =>
        (arguments.2.2.1.1, arguments.2.2.1.2.1)) (Method.argumentsSame same)
      simpa [unread] using Prod.mk.inj flags.symm
    | consumer options name tag =>
      have flags := congrArg (fun arguments : Arguments MethodKind.basicConsume.parts =>
        (arguments.2.2.2.1.1, arguments.2.2.2.1.2.1)) (Method.argumentsSame same)
      simpa [unread] using Prod.mk.inj flags.symm
    | message => exact nofun
  · intro unset
    have same : request.cleared = request := by
      cases request with
      | exchange options | queue options | deletion options | consumer options =>
        cases options
        simp_all [unread, cleared]
      | message => rfl
    rw [same]

/- A request makes a frame unless the frame would be too long for its length field, and the frame is read as the
request, but for the flags that are never read, exactly if every text and every key is short enough. -/
theorem readExactly (request : OptionedRequest) (channel : UInt16)
    (ordered : request.arguments.Throughout KeysOrdered) :
    (∀ publish name, request = .message publish name →
      ∃ command, publish.command name = .ok command ∧ command.method = some request.method) ∧
    ((request.method.frame channel = .error .malformedFrame ∧ UInt32.size ≤ request.method.write.length) ∨
      ∃ frame, request.method.frame channel = .ok frame ∧ frame.kind = .method ∧ frame.channel = channel ∧
        (frame.method = .ok request.cleared.method ↔ request.Fits) ∧
        (frame.method = .ok request.method ↔ request.Fits ∧ ∀ flag ∈ request.unread, flag = false)) := by
  constructor
  · rintro publish name rfl
    exact ⟨_, rfl, rfl⟩
  by_cases fits : request.method.write.length < UInt32.size
  · have framed : request.method.frame channel = .ok _ := Method.frameIff.mpr ⟨fits, rfl⟩
    obtain ⟨kept, same⟩ := Method.frameRead framed
    have sound : request.method.Sound ↔ request.Fits := by
      rw [soundParts, FieldTable.soundIff, and_iff_right ordered, Fits]
    rw [keptMethod, sound] at kept
    rw [keptMethod, sound, clearedIff] at same
    exact .inr ⟨_, framed, rfl, rfl, kept, same⟩
  · exact .inl ⟨if_neg fits, Nat.le_of_not_lt fits⟩

def labelled : OptionedRequest :=
  .queue { durable := true, arguments := .cons "x-label" (.text "one") (.cons "x-rank" (.uint8 1) .nil) } "orders" false

theorem labelledReadExactly :
    labelled.arguments.Throughout KeysOrdered ∧
    (∀ publish name, labelled = .message publish name →
      ∃ command, publish.command name = .ok command ∧ command.method = some labelled.method) ∧
    ((labelled.method.frame 1 = .error .malformedFrame ∧ UInt32.size ≤ labelled.method.write.length) ∨
      ∃ frame, labelled.method.frame 1 = .ok frame ∧ frame.kind = .method ∧ frame.channel = 1 ∧
        (frame.method = .ok labelled.cleared.method ↔ labelled.Fits) ∧
        (frame.method = .ok labelled.method ↔ labelled.Fits ∧ ∀ flag ∈ labelled.unread, flag = false)) := by
  have ordered : labelled.arguments.Throughout KeysOrdered := by
    refine ⟨.cons ?_ (.cons nofun .nil), trivial, trivial, trivial⟩
    decide
  exact ⟨ordered, readExactly labelled 1 ordered⟩

/- 256 bytes, of which none is counted: a flag byte, four bytes for an empty table, and what is left over. -/
def overlongName : String := "\x02\x00\x00\x00\x00" ++ String.ofList (List.replicate 251 'a')

set_option maxRecDepth 4000 in
theorem overlongNameReadEmpty :
    ∃ frame, (({} : QueueOptions).declare overlongName false).frame 1 = .ok frame ∧
      frame.method = .ok (({ durable := true } : QueueOptions).declare "" false) ∧
      frame.method ≠ .ok (({} : QueueOptions).declare overlongName false) := by
  have framed : (({} : QueueOptions).declare overlongName false).frame 1 = .ok _ :=
    Method.frameIff.mpr ⟨by decide +kernel, rfl⟩
  have read : Method.read? (({} : QueueOptions).declare overlongName false).write =
      some (({ durable := true } : QueueOptions).declare "" false) := rfl
  have decoded : (Frame.mk .method 1 (({} : QueueOptions).declare overlongName false).write).method = .ok _ :=
    Frame.methodIff.mpr ⟨rfl, read⟩
  refine ⟨_, framed, decoded, fun same => ?_⟩
  have durable := congrArg (fun arguments : Arguments MethodKind.queueDeclare.parts => arguments.2.2.1.2.1)
    (Method.argumentsSame (Except.ok.inj (decoded.symm.trans same)))
  exact Bool.noConfusion durable

end OptionedRequest

end AmqpClient
