import AmqpClient.Connection.Handshake
import AmqpClient.Connection.Inbound
import AmqpClient.Proofs.Frame.Listening

/-! The opening of a connection as a talk. The server has its say word by word, and to each word the client says
what the stage they are at calls for before it hears the next. -/
namespace AmqpClient

open AmqpClient.Frame (Piece)

def Method.wire (method : Method) : Bytes := Frame.encode ⟨.method, 0, method.write⟩

def Method.closeOk : Method := ⟨.connectionCloseOk, ()⟩

def Frame.Piece.method? : Piece → Option Method
  | .frame whole => (Handshake.methodOf whole).toOption
  | .malformed _ => none

def Method.told : Method → Except Error Method × List Method
  | ⟨.connectionClose, (code, text, _, _, ())⟩ => (.error (.serverClosedConnection code text), [.closeOk])
  | method => (.ok method, [])

def Frame.Piece.told : Piece → Except Error Method × List Method
  | .malformed _ => (.error .malformedFrame, [])
  | .frame whole =>
    match Handshake.methodOf whole with
    | .error e => (.error e, [])
    | .ok method => method.told

theorem toldCases (word : Piece) :
    (∃ e, word.told = (.error e, [])) ∨
    (∃ code text classCode methodCode,
      word.method? = some ⟨.connectionClose, (code, text, classCode, methodCode, ())⟩ ∧
      word.told = (.error (.serverClosedConnection code text), [.closeOk])) ∨
    ∃ method, word.method? = some method ∧ word.told = (.ok method, []) := by
  cases word with
  | malformed bytes => exact .inl ⟨_, rfl⟩
  | frame whole =>
    cases known : Handshake.methodOf whole with
    | error e => exact .inl ⟨e, by simp only [Piece.told, known]⟩
    | ok method =>
      have heard : (Piece.frame whole).method? = some method := by simp only [Piece.method?, known]; rfl
      have told : (Piece.frame whole).told = method.told := by simp only [Piece.told, known]
      rw [heard, told]
      unfold Method.told
      split
      · exact .inr (.inl ⟨_, _, _, _, rfl, rfl⟩)
      · exact .inr (.inr ⟨_, rfl, rfl⟩)

theorem toldPlain {word : Piece} {method : Method} {said : List Method} (plain : word.told = (.ok method, said)) :
    said = [] := by
  obtain ⟨e, told⟩ | ⟨_, _, _, _, _, told⟩ | ⟨other, _, told⟩ := toldCases word <;> rw [told] at plain <;> cases plain
  rfl

inductive Stage
  | greeting
  | tuning (properties : FieldTable)
  | opening (properties : FieldTable) (limits : Limits)
  | concluded (result : Except Error (Limits × FieldTable))

namespace Stage

def isOver : Stage → Bool
  | concluded _ => true
  | _ => false

def result (ended : Bool) : Stage → Except Error (Limits × FieldTable)
  | concluded result => result
  | _ => .error (Inbound.silence ended)

/- A method that no frame can hold is not said, and nothing after it. -/
def uttered : List Method → Except Error Unit × List Method
  | [] => (.ok (), [])
  | method :: rest =>
    match method.frame 0 with
    | .error e => (.error e, [])
    | .ok _ => ((uttered rest).1, method :: (uttered rest).2)

def say (methods : List Method) (next : Stage) : Stage × List Method :=
  match uttered methods with
  | (.error e, said) => (concluded (.error e), said)
  | (.ok (), said) => (next, said)

def unexpected : Stage × List Method := (concluded (.error .frameUnexpected), [])

def greet (options : ConnectionOptions) : Method → Stage × List Method
  | ⟨.connectionStart, (_, _, properties, mechanisms, locales, ())⟩ =>
    match options.startOk mechanisms locales with
    | .error e => (concluded (.error e), [])
    | .ok startOk => say [startOk] (tuning properties)
  | _ => unexpected

def tune (options : ConnectionOptions) (properties : FieldTable) : Method → Stage × List Method
  | ⟨.connectionSecure, _⟩ => (concluded (.error .saslSecureNotSupported), [])
  | ⟨.connectionTune, (channelMax, frameMax, heartbeat, ())⟩ =>
    match options.tune ⟨channelMax, frameMax, heartbeat⟩ with
    | .error e => (concluded (.error e), [])
    | .ok limits => say [limits.method, options.openMethod] (opening properties limits)
  | _ => unexpected

def consent (properties : FieldTable) (limits : Limits) : Method → Stage × List Method
  | ⟨.connectionOpenOk, _⟩ => (concluded (.ok (limits, properties)), [])
  | _ => unexpected

def answer (options : ConnectionOptions) : Stage → Method → Stage × List Method
  | greeting, method => greet options method
  | tuning properties, method => tune options properties method
  | opening properties limits, method => consent properties limits method
  | concluded result, _ => (concluded result, [])

def hear (options : ConnectionOptions) (stage : Stage) (word : Piece) : Stage × List Method :=
  match word.told with
  | (.error e, said) => (concluded (.error e), said)
  | (.ok method, _) => stage.answer options method

def after (onward : β → Stage) : Except Error β → Stage
  | .ok b => onward b
  | .error e => concluded (.error e)

end Stage

inductive Talk (options : ConnectionOptions) : Stage → List Piece → List Method → Stage → Prop
  | still (stage : Stage) : Talk options stage [] [] stage
  | hear {stage last : Stage} {word : Piece} {heard : List Piece} {said : List Method}
      (going : stage.isOver = false) (later : Talk options (stage.hear options word).1 heard said last) :
      Talk options stage (word :: heard) ((stage.hear options word).2 ++ said) last

namespace Talk

variable {options : ConnectionOptions} {stage middle last other : Stage} {heard more rest behind : List Piece}
  {said others : List Method}

theorem trans (one : Talk options stage heard said middle) (two : Talk options middle more others last) :
    Talk options stage (heard ++ more) (said ++ others) last := by
  induction one with
  | still => exact two
  | hear going later ih =>
    rw [List.append_assoc]
    exact .hear going (ih two)

theorem further (one : Talk options stage heard said last) (two : Talk options stage more others other)
    (longer : heard ++ rest <+: more ++ behind) (ended : other.isOver = true ∨ behind = []) :
    said <+: others ∧ heard <+: more := by
  induction one generalizing more others with
  | still => exact ⟨List.nil_prefix, List.nil_prefix⟩
  | hear going later ih =>
    cases two with
    | still =>
      obtain concluded | rfl := ended
      · rw [going] at concluded
        contradiction
      · simp at longer
    | hear _ laterToo =>
      obtain ⟨rfl, after⟩ := List.cons_prefix_cons.mp longer
      obtain ⟨saying, hearing⟩ := ih laterToo after
      exact ⟨(List.prefix_append_right_inj _).mpr saying, List.cons_prefix_cons.mpr ⟨rfl, hearing⟩⟩

theorem unique (one : Talk options stage heard said last) (two : Talk options stage heard others other) :
    last = other := by
  induction one generalizing others with
  | still =>
    cases two
    rfl
  | hear going later ih =>
    cases two with
    | hear _ laterToo => exact ih laterToo

theorem alike (one : Talk options stage heard said last) (two : Talk options stage more others other)
    (same : heard ++ rest = more ++ behind) (ended : last.isOver = true ∨ rest = [])
    (endedToo : other.isOver = true ∨ behind = []) : said = others ∧ last = other := by
  obtain ⟨saidMore, heardMore⟩ := one.further two ⟨[], by rw [List.append_nil, same]⟩ endedToo
  obtain ⟨saidLess, heardLess⟩ := two.further one ⟨[], by rw [List.append_nil, same]⟩ ended
  obtain rfl := saidMore.eq_of_length_le saidLess.length_le
  obtain rfl := heardMore.eq_of_length_le heardLess.length_le
  exact ⟨rfl, one.unique two⟩

/- What the server has said, what the client has said to that, and where they are now. -/
inductive Answers (options : ConnectionOptions) : List Method → List Method → Stage → Prop
  | greeting : Answers options [] [] .greeting
  | tuning {major minor : UInt8} {properties : FieldTable} {mechanisms locales : String} {startOk : Method}
      (offered : options.startOk mechanisms locales = .ok startOk) :
      Answers options [⟨.connectionStart, (major, minor, properties, mechanisms, locales, ())⟩] [startOk]
        (.tuning properties)
  | opening {start startOk : Method} {properties : FieldTable} {channelMax heartbeat : UInt16} {frameMax : UInt32}
      {limits : Limits} (begun : Answers options [start] [startOk] (.tuning properties))
      (agreed : options.tune ⟨channelMax, frameMax, heartbeat⟩ = .ok limits) :
      Answers options [start, ⟨.connectionTune, (channelMax, frameMax, heartbeat, ())⟩]
        [startOk, limits.method, options.openMethod] (.opening properties limits)

/- The same once it is over: nobody answers an open-ok, a close is answered last, and any other end cuts the
answers short. -/
inductive Concludes (options : ConnectionOptions) :
    List Method → List Method → Except Error (Limits × FieldTable) → Prop
  | opened {heard said : List Method} {properties : FieldTable} {limits : Limits}
      {arguments : Arguments MethodKind.connectionOpenOk.parts}
      (answers : Answers options heard said (.opening properties limits)) :
      Concludes options (heard ++ [⟨.connectionOpenOk, arguments⟩]) said (.ok (limits, properties))
  | closed {heard said : List Method} {stage : Stage} {code classCode methodCode : UInt16} {text : String}
      (answers : Answers options heard said stage) :
      Concludes options (heard ++ [⟨.connectionClose, (code, text, classCode, methodCode, ())⟩]) (said ++ [.closeOk])
        (.error (.serverClosedConnection code text))
  | failed {heard said answers : List Method} {stage : Stage} {e : Error}
      (answered : Answers options heard answers stage) (front : said <+: answers) :
      Concludes options heard said (.error e)

def Standing (options : ConnectionOptions) (heard said : List Method) : Stage → Prop
  | .concluded result => Concludes options heard said result
  | stage => Answers options heard said stage

section

variable {heard said methods : List Method} {next : Stage}

theorem Standing.going (standing : Standing options heard said stage) (going : stage.isOver = false) :
    Answers options heard said stage := by
  cases stage with
  | concluded => contradiction
  | greeting | tuning | opening => exact standing

theorem Answers.standing (answers : Answers options heard said stage) : Standing options heard said stage := by
  cases answers with
  | greeting => exact .greeting
  | tuning offered => exact .tuning offered
  | opening begun agreed => exact .opening begun agreed

theorem utteredFront (methods : List Method) :
    (Stage.uttered methods).2 <+: methods ∧
      ((Stage.uttered methods).1 = .ok () → (Stage.uttered methods).2 = methods) := by
  induction methods with
  | nil => exact ⟨List.prefix_refl _, fun _ => rfl⟩
  | cons method rest ih =>
    cases framed : method.frame 0 with
    | error e =>
      simp only [Stage.uttered, framed]
      exact ⟨List.nil_prefix, fun ok => by cases ok⟩
    | ok frame =>
      simp only [Stage.uttered, framed]
      exact ⟨List.cons_prefix_cons.mpr ⟨rfl, ih.1⟩, fun ok => by rw [ih.2 ok]⟩

theorem Answers.say (answers : Answers options heard (said ++ methods) next) :
    Standing options heard (said ++ (Stage.say methods next).2) (Stage.say methods next).1 := by
  obtain ⟨front, whole⟩ := utteredFront methods
  unfold Stage.say
  rcases uttered : Stage.uttered methods with ⟨e | ⟨⟩, some⟩ <;> rw [uttered] at front whole
  · exact .failed answers ((List.prefix_append_right_inj said).mpr front)
  · rw [← whole rfl] at answers
    exact answers.standing

theorem Answers.answer (answers : Answers options heard said stage) (method : Method) :
    Standing options (heard ++ [method]) (said ++ (stage.answer options method).2) (stage.answer options method).1 ∨
    ∃ e, stage.answer options method = (.concluded (.error e), []) := by
  cases answers with
  | greeting =>
    rw [Stage.answer]
    unfold Stage.greet
    split
    · rename_i major minor properties mechanisms locales
      cases offered : options.startOk mechanisms locales with
      | error e => exact .inr ⟨e, rfl⟩
      | ok startOk =>
        have answers : Answers options [⟨.connectionStart, (major, minor, properties, mechanisms, locales, ())⟩]
            ([] ++ [startOk]) (.tuning properties) := .tuning offered
        exact .inl answers.say
    · exact .inr ⟨_, rfl⟩
  | @tuning major minor properties mechanisms locales startOk offered =>
    have begun : Answers options [⟨.connectionStart, (major, minor, properties, mechanisms, locales, ())⟩] [startOk]
        (.tuning properties) := .tuning offered
    rw [Stage.answer]
    unfold Stage.tune
    split
    · exact .inr ⟨_, rfl⟩
    · rename_i channelMax frameMax heartbeat
      cases agreed : options.tune ⟨channelMax, frameMax, heartbeat⟩ with
      | error e => exact .inr ⟨e, rfl⟩
      | ok limits =>
        have answers : Answers options _ ([startOk] ++ [limits.method, options.openMethod])
            (.opening properties limits) := .opening begun agreed
        exact .inl answers.say
    · exact .inr ⟨_, rfl⟩
  | opening begun agreed =>
    rw [Stage.answer]
    unfold Stage.consent
    split
    · refine .inl ?_
      rw [List.append_nil]
      exact .opened (.opening begun agreed)
    · exact .inr ⟨_, rfl⟩

theorem Answers.hear (answers : Answers options heard said stage) (word : Piece) :
    (∃ method, word.method? = some method ∧
      Standing options (heard ++ [method]) (said ++ (stage.hear options word).2) (stage.hear options word).1) ∨
    ∃ e, stage.hear options word = (.concluded (.error e), []) := by
  unfold Stage.hear
  obtain ⟨e, told⟩ | ⟨code, text, classCode, methodCode, known, told⟩ | ⟨method, known, told⟩ := toldCases word <;>
    rw [told]
  · exact .inr ⟨e, rfl⟩
  · exact .inl ⟨_, known, .closed answers⟩
  · exact (answers.answer method).imp (fun standing => ⟨method, known, standing⟩) id

theorem ended {words : List Piece} {result : Except Error (Limits × FieldTable)}
    (talk : Talk options (.concluded result) words said last) :
    words = [] ∧ said = [] ∧ last = .concluded result := by
  cases talk with
  | still => exact ⟨rfl, rfl, rfl⟩
  | hear going => contradiction

theorem standing {words : List Piece} {more : List Method} (talk : Talk options stage words more last)
    (answers : Answers options heard said stage) :
    ∃ further, further.map some <+: words.map Piece.method? ∧
      Standing options (heard ++ further) (said ++ more) last ∧
      ∀ opened, last = .concluded (.ok opened) → further.map some = words.map Piece.method? := by
  induction talk generalizing heard said with
  | still stage =>
    refine ⟨[], List.nil_prefix, ?_, fun _ _ => rfl⟩
    rw [List.append_nil, List.append_nil]
    exact answers.standing
  | @hear stage last word words more going later ih =>
    obtain ⟨method, known, standing⟩ | ⟨e, failed⟩ := answers.hear word
    · have further : ∃ further, further.map some <+: words.map Piece.method? ∧
          Standing options (heard ++ [method] ++ further) (said ++ (stage.hear options word).2 ++ more) last ∧
          ∀ opened, last = .concluded (.ok opened) → further.map some = words.map Piece.method? := by
        -- a talk that this word has brought to its end takes up no other
        cases concluded : (stage.hear options word).1 with
        | concluded result =>
          rw [concluded] at later standing
          obtain ⟨rfl, rfl, rfl⟩ := later.ended
          exact ⟨[], List.nil_prefix, by rwa [List.append_nil, List.append_nil], fun _ _ => rfl⟩
        | greeting | tuning | opening => exact ih (standing.going (by rw [concluded]; rfl))
      obtain ⟨further, front, last, whole⟩ := further
      refine ⟨method :: further, ?_, by simpa using last, fun opened ok => ?_⟩
      · rw [List.map_cons, List.map_cons, known]
        exact List.cons_prefix_cons.mpr ⟨rfl, front⟩
      · rw [List.map_cons, List.map_cons, known, whole opened ok]
    · rw [failed] at later ⊢
      obtain ⟨rfl, rfl, rfl⟩ := later.ended
      refine ⟨[], List.nil_prefix, ?_, fun _ ok => by cases ok⟩
      simp only [List.append_nil]
      exact .failed answers (List.prefix_refl _)

end

end Talk

end AmqpClient
