import AmqpClient.Content.Spill.Buffered
import Mathlib.Data.List.Infix

/-! A buffered writer in front of a file. Whatever the sizes of the pieces, however little the file takes in one
call and wherever a call is interrupted or fails, the file's content and what is held behind it are together what
the writer has taken, in order, and its length counts them. -/
namespace AmqpClient.Spill

def Conduct.Mild (conduct : Conduct) : Prop := ∃ most, conduct = .takes (most + 1)

namespace File

def AtEnd (file : File) : Prop := file.cursor = file.content.length

def Mild (file : File) : Prop := ∀ conduct ∈ file.script, conduct.Mild

variable {file next : File} {count whole : Nat} {fault : IoFault} {bytes : Bytes}

theorem answerOk (answered : file.answer whole = (.ok count, next)) :
    count ≤ whole ∧ next.content = file.content ∧ next.cursor = file.cursor ∧ next.script <:+ file.script ∧
      (file.Mild → 0 < whole → 0 < count) := by
  unfold answer at answered
  split at answered
  · cases answered
    exact ⟨Nat.le_refl _, rfl, rfl, List.suffix_refl _, fun _ positive => positive⟩
  · cases answered
  · rename_i most later script
    cases answered
    refine ⟨Nat.min_le_left .., rfl, rfl, ⟨[.takes most], script.symm⟩, fun mild positive => ?_⟩
    obtain ⟨less, same⟩ := mild (.takes most) (by rw [script]; exact List.mem_cons_self)
    cases same
    omega

theorem answerError (answered : file.answer whole = (.error fault, next)) :
    next.content = file.content ∧ next.cursor = file.cursor ∧ file.script = .fails fault :: next.script := by
  unfold answer at answered
  split at answered
  · cases answered
  · rename_i script
    cases answered
    exact ⟨rfl, rfl, script⟩
  · cases answered

theorem failsNotMild (script : file.script = .fails fault :: next.script) : ¬ file.Mild := by
  intro mild
  obtain ⟨most, same⟩ := mild (.fails fault) (by rw [script]; exact List.mem_cons_self)
  cases same

theorem overwriteEnd (part bytes : Bytes) : Bytes.overwrite bytes.length part bytes = bytes ++ part := by
  rw [Bytes.overwrite, List.take_length, List.drop_eq_nil_of_le (Nat.le_add_right ..), List.append_nil]

structure Extended (part : Bytes) (file next : File) : Prop where
  content : next.content = file.content ++ part
  atEnd : next.AtEnd
  script : next.script <:+ file.script

theorem writeOk (atEnd : file.AtEnd) (written : file.write bytes = (.ok count, next)) :
    count ≤ bytes.length ∧ Extended (bytes.take count) file next ∧
      (file.Mild → 0 < bytes.length → 0 < count) := by
  unfold write at written
  rcases answered : file.answer bytes.length with ⟨fault | count', middle⟩
  · rw [answered] at written
    cases written
  · rw [answered] at written
    cases written
    obtain ⟨few, content, cursor, script, mild⟩ := answerOk answered
    have joined :
        Bytes.overwrite middle.cursor (bytes.take count) middle.content = file.content ++ bytes.take count := by
      rw [content, cursor, atEnd, overwriteEnd]
    refine ⟨few, ⟨joined, ?_, script⟩, mild⟩
    rw [AtEnd, joined, cursor, atEnd, List.length_append, List.length_take_of_le few]

theorem writeError (written : file.write bytes = (.error fault, next)) :
    next.content = file.content ∧ next.cursor = file.cursor ∧ file.script = .fails fault :: next.script := by
  unfold write at written
  rcases answered : file.answer bytes.length with ⟨fault' | count, middle⟩
  · rw [answered] at written
    cases written
    exact answerError answered
  · rw [answered] at written
    cases written

end File

namespace Writer

def produced (writer : Writer) : Bytes := writer.file.content ++ writer.held

structure Took (bytes : Bytes) (writer next : Writer) : Prop where
  produced : next.produced = writer.produced ++ bytes
  length : next.length = writer.length + bytes.length
  atEnd : next.file.AtEnd
  script : next.file.script <:+ writer.file.script

variable {writer middle next : Writer} {bytes first second : Bytes} {fault : IoFault} {count fuel : Nat}

theorem Took.nothing (writer : Writer) (atEnd : writer.file.AtEnd) : Took [] writer writer :=
  ⟨(List.append_nil _).symm, rfl, atEnd, List.suffix_refl _⟩

theorem Took.trans (one : Took first writer middle) (two : Took second middle next) :
    Took (first ++ second) writer next :=
  ⟨by rw [two.produced, one.produced, List.append_assoc],
    by rw [two.length, one.length, List.length_append, Nat.add_assoc], two.atEnd, two.script.trans one.script⟩

theorem Took.mild (took : Took bytes writer next) (mild : writer.file.Mild) : next.file.Mild :=
  fun conduct member => mild conduct (took.script.subset member)

theorem tookFailing {file : File} (atEnd : writer.file.AtEnd) (content : file.content = writer.file.content)
    (cursor : file.cursor = writer.file.cursor) (script : writer.file.script = .fails fault :: file.script) :
    Took [] writer { writer with file } where
  produced := by rw [produced, produced, content, List.append_nil]
  length := rfl
  atEnd := by rw [File.AtEnd, cursor, content, atEnd]
  script := ⟨[.fails fault], script.symm⟩

inductive Flushing (writer : Writer) : Except IoFault Unit × Writer → Prop
  | done {next : Writer} (took : Took [] writer next) (empty : next.held = []) : Flushing writer (.ok (), next)
  | failed {fault : IoFault} {next : Writer} (took : Took [] writer next) (lasting : fault.kind ≠ .interrupted)
      (rough : ¬ writer.file.Mild) : Flushing writer (.error fault, next)

theorem Flushing.after {answer : Except IoFault Unit × Writer} (took : Took [] writer middle)
    (flushing : Flushing middle answer) : Flushing writer answer := by
  cases flushing with
  | done more empty => exact .done (took.trans more) empty
  | failed more lasting rough => exact .failed (took.trans more) lasting fun mild => rough (took.mild mild)

theorem flushWithinFlushing (writer : Writer) (atEnd : writer.file.AtEnd)
    (enough : writer.held.length + writer.file.script.length ≤ fuel) :
    Flushing writer (flushWithin fuel writer) := by
  induction fuel generalizing writer with
  | zero => exact .done (.nothing writer atEnd) (List.length_eq_zero_iff.mp (by omega))
  | succ fuel ih =>
    unfold flushWithin
    split
    · rename_i empty
      exact .done (.nothing writer atEnd) empty
    · rename_i filled
      have some : 0 < writer.held.length := List.length_pos_iff.mpr filled
      rcases written : writer.file.write writer.held with ⟨fault | count, file⟩
      · obtain ⟨content, cursor, script⟩ := File.writeError written
        have took := tookFailing atEnd content cursor script
        have shorter := congrArg List.length script
        rw [List.length_cons] at shorter
        dsimp only
        split
        · exact .after took (ih { writer with file } took.atEnd (by dsimp only; omega))
        · rename_i lasting
          exact .failed took lasting (File.failsNotMild script)
      · obtain ⟨few, extended, going⟩ := File.writeOk atEnd written
        have fewer := extended.script.length_le
        cases count with
        | zero =>
          have idle : Took [] writer { writer with file } :=
            ⟨by rw [produced, produced, extended.content, List.take_zero, List.append_nil, List.append_nil],
              rfl, extended.atEnd, extended.script⟩
          exact .failed idle (by simp) fun mild => Nat.lt_irrefl 0 (going mild some)
        | succ count =>
          have took : Took [] writer { writer with file, held := writer.held.drop (count + 1) } := by
            refine ⟨?_, rfl, extended.atEnd, extended.script⟩
            rw [produced, produced, extended.content, List.append_assoc, List.take_append_drop, List.append_nil]
          exact .after took (ih _ took.atEnd (by simp only [List.length_drop]; omega))

theorem flushFlushing (writer : Writer) (atEnd : writer.file.AtEnd) : Flushing writer writer.flush :=
  flushWithinFlushing writer atEnd (Nat.le_refl _)

inductive Writing (bytes : Bytes) (writer : Writer) : Except IoFault Nat × Writer → Prop
  | took {count : Nat} {next : Writer} (few : count ≤ bytes.length) (took : Took (bytes.take count) writer next)
      (going : writer.file.Mild → 0 < bytes.length → 0 < count) : Writing bytes writer (.ok count, next)
  | failed {fault : IoFault} {next : Writer} (took : Took [] writer next)
      (spent : fault.kind = .interrupted → next.file.script.length < writer.file.script.length)
      (rough : ¬ writer.file.Mild) : Writing bytes writer (.error fault, next)

theorem Writing.after {answer : Except IoFault Nat × Writer} (took : Took [] writer middle)
    (writing : Writing bytes middle answer) : Writing bytes writer answer := by
  cases writing with
  | took few more going => exact .took few (took.trans more) fun mild => going (took.mild mild)
  | failed more spent rough =>
    exact .failed (took.trans more) (fun again => Nat.lt_of_lt_of_le (spent again) took.script.length_le)
      fun mild => rough (took.mild mild)

theorem placeWriting (writer : Writer) (bytes : Bytes) (atEnd : writer.file.AtEnd)
    (behind : writer.held = [] ∨ bytes.length < capacity) : Writing bytes writer (writer.place bytes) := by
  unfold place
  split
  · rename_i large
    have nothing : writer.held = [] := behind.resolve_right (by omega)
    rcases written : writer.file.write bytes with ⟨fault | count, file⟩
    · obtain ⟨content, cursor, script⟩ := File.writeError written
      have shorter := congrArg List.length script
      rw [List.length_cons] at shorter
      exact .failed (tookFailing atEnd content cursor script) (fun _ => by dsimp only; omega)
        (File.failsNotMild script)
    · obtain ⟨few, extended, going⟩ := File.writeOk atEnd written
      refine .took few ⟨?_, ?_, extended.atEnd, extended.script⟩ going
      · rw [produced, produced, extended.content, nothing, List.append_nil, List.append_nil]
      · rw [List.length_take_of_le few]
  · refine .took (Nat.le_refl _) ⟨?_, ?_, atEnd, List.suffix_refl _⟩ fun _ positive => positive
    · rw [produced, produced, List.take_length, List.append_assoc]
    · rw [List.take_length]

theorem writeWriting (writer : Writer) (bytes : Bytes) (atEnd : writer.file.AtEnd) :
    Writing bytes writer (writer.write bytes) := by
  unfold write
  split
  · have flushing := writer.flushFlushing atEnd
    generalize writer.flush = answer at flushing ⊢
    cases flushing with
    | done took empty => exact .after took (placeWriting _ bytes took.atEnd (.inl empty))
    | failed took lasting rough => exact .failed took (fun again => absurd again lasting) rough
  · refine placeWriting writer bytes atEnd ?_
    by_cases large : capacity ≤ bytes.length
    · exact .inl (List.length_eq_zero_iff.mp (by omega))
    · exact .inr (by omega)

/- What appending comes to: all the bytes are taken, or it fails with some of the first of them taken. -/
inductive Appending (bytes : Bytes) (writer : Writer) : Except IoFault Unit × Writer → Prop
  | done {next : Writer} (took : Took bytes writer next) : Appending bytes writer (.ok (), next)
  | failed {fault : IoFault} {front : Bytes} {next : Writer} (part : front <+: bytes)
      (took : Took front writer next) (rough : ¬ writer.file.Mild) : Appending bytes writer (.error fault, next)

theorem Appending.after {answer : Except IoFault Unit × Writer} (took : Took first writer middle)
    (appending : Appending second middle answer) : Appending (first ++ second) writer answer := by
  cases appending with
  | done more => exact .done (took.trans more)
  | failed part more rough =>
    exact .failed ((List.prefix_append_right_inj first).mpr part) (took.trans more)
      fun mild => rough (took.mild mild)

theorem appendWithinAppending (writer : Writer) (bytes : Bytes) (atEnd : writer.file.AtEnd)
    (enough : bytes.length + writer.file.script.length ≤ fuel) :
    Appending bytes writer (appendWithin fuel bytes writer) := by
  induction fuel generalizing writer bytes with
  | zero =>
    obtain rfl : bytes = [] := List.length_eq_zero_iff.mp (by omega)
    exact .done (.nothing writer atEnd)
  | succ fuel ih =>
    cases bytes with
    | nil => exact .done (.nothing writer atEnd)
    | cons head tail =>
      have writing := writer.writeWriting (head :: tail) atEnd
      unfold appendWithin
      generalize writer.write (head :: tail) = answer at writing ⊢
      cases writing with
      | @failed fault next took spent rough =>
        dsimp only
        split
        · rename_i again
          have shorter := spent again
          exact .after took (ih next (head :: tail) took.atEnd (by omega))
        · exact .failed List.nil_prefix took rough
      | @took count next few took going =>
        cases count with
        | zero =>
          exact .failed List.nil_prefix took fun mild => Nat.lt_irrefl 0 (going mild (Nat.succ_pos _))
        | succ count =>
          have fewer := took.script.length_le
          have appending := ih next ((head :: tail).drop (count + 1)) took.atEnd
            (by simp only [List.length_drop, List.length_cons] at enough ⊢; omega)
          have whole := Appending.after took appending
          rwa [List.take_append_drop] at whole

theorem appendAppending (writer : Writer) (bytes : Bytes) (atEnd : writer.file.AtEnd) :
    Appending bytes writer (appendWithin (bytes.length + writer.file.script.length) bytes writer) :=
  appendWithinAppending writer bytes atEnd (Nat.le_refl _)

end Writer

inductive Call
  | append (bytes : Bytes)
  | write (bytes : Bytes)
  | flush

inductive Reply
  | appended (result : Except Error Unit)
  | wrote (result : Except IoFault Nat)
  | flushed (result : Except IoFault Unit)

def Call.perform : Call → Writer → Reply × Writer
  | .append bytes, writer => (writer.append bytes).map .appended id
  | .write bytes, writer => (writer.write bytes).map .wrote id
  | .flush, writer => writer.flush.map .flushed id

def performAll : List Call → Writer → List Reply × Writer
  | [], writer => ([], writer)
  | call :: rest, writer =>
    let (reply, writer) := call.perform writer
    let (replies, last) := performAll rest writer
    (reply :: replies, last)

/- The bytes that a call has written, as far as its reply tells: an append that fails may have written some of
the first. -/
inductive Deposit : Call → Reply → Bytes → Prop
  | appended (bytes : Bytes) : Deposit (.append bytes) (.appended (.ok ())) bytes
  | partly {front bytes : Bytes} {e : Error} (part : front <+: bytes) :
      Deposit (.append bytes) (.appended (.error e)) front
  | wrote (bytes : Bytes) (count : Nat) : Deposit (.write bytes) (.wrote (.ok count)) (bytes.take count)
  | refused (bytes : Bytes) (fault : IoFault) : Deposit (.write bytes) (.wrote (.error fault)) []
  | flushed (result : Except IoFault Unit) : Deposit .flush (.flushed result) []

inductive Deposits : List Call → List Reply → Bytes → Prop
  | nil : Deposits [] [] []
  | cons {call : Call} {reply : Reply} {bytes more : Bytes} {calls : List Call} {replies : List Reply}
      (deposit : Deposit call reply bytes) (later : Deposits calls replies more) :
      Deposits (call :: calls) (reply :: replies) (bytes ++ more)

theorem performDeposit (call : Call) (writer : Writer) (atEnd : writer.file.AtEnd) :
    ∃ bytes, Deposit call (call.perform writer).1 bytes ∧ Writer.Took bytes writer (call.perform writer).2 := by
  cases call with
  | append bytes =>
    have appending := writer.appendAppending bytes atEnd
    unfold Call.perform Writer.append
    dsimp only
    generalize Writer.appendWithin _ bytes writer = answer at appending ⊢
    cases appending with
    | done took => exact ⟨bytes, .appended bytes, took⟩
    | failed part took rough => exact ⟨_, .partly part, took⟩
  | write bytes =>
    have writing := writer.writeWriting bytes atEnd
    unfold Call.perform
    dsimp only
    generalize writer.write bytes = answer at writing ⊢
    cases writing with
    | @took count _ few took going => exact ⟨_, .wrote bytes count, took⟩
    | @failed fault _ took spent rough => exact ⟨[], .refused bytes fault, took⟩
  | flush =>
    have flushing := writer.flushFlushing atEnd
    unfold Call.perform
    dsimp only
    generalize writer.flush = answer at flushing ⊢
    cases flushing with
    | done took empty => exact ⟨[], .flushed _, took⟩
    | failed took lasting rough => exact ⟨[], .flushed _, took⟩

theorem performAllDeposits (calls : List Call) (writer : Writer) (atEnd : writer.file.AtEnd) :
    ∃ bytes, Deposits calls (performAll calls writer).1 bytes ∧
      Writer.Took bytes writer (performAll calls writer).2 := by
  induction calls generalizing writer with
  | nil => exact ⟨[], .nil, .nothing writer atEnd⟩
  | cons call calls ih =>
    obtain ⟨bytes, deposit, took⟩ := performDeposit call writer atEnd
    obtain ⟨more, later, further⟩ := ih (call.perform writer).2 took.atEnd
    exact ⟨bytes ++ more, .cons deposit later, took.trans further⟩

def File.rest (file : File) : Bytes := file.content.drop file.cursor

def Reader.rest (reader : Reader) : Bytes := reader.window ++ reader.file.rest

theorem File.rewindOk {file next : File} (rewound : file.rewind = (.ok (), next)) :
    next.rest = file.content ∧ next.script <:+ file.script := by
  unfold rewind at rewound
  rcases answered : file.answer 0 with ⟨fault | count, middle⟩
  · rw [answered] at rewound
    cases rewound
  · rw [answered] at rewound
    cases rewound
    obtain ⟨few, content, cursor, script, mild⟩ := answerOk answered
    exact ⟨content, script⟩

theorem intoReaderOk {writer : Writer} {reader : Reader} (atEnd : writer.file.AtEnd)
    (handed : writer.intoReader = .ok reader) :
    reader.rest = writer.produced ∧ reader.length = writer.length ∧ reader.file.script <:+ writer.file.script := by
  have flushing := writer.flushFlushing atEnd
  unfold Writer.intoReader at handed
  generalize writer.flush = answer at flushing handed
  cases flushing with
  | failed took lasting rough => cases handed
  | @done next took empty =>
    dsimp only at handed
    rcases rewound : next.file.rewind with ⟨fault | ⟨⟩, file⟩
    · rw [rewound] at handed
      cases handed
    · rw [rewound] at handed
      cases handed
      obtain ⟨rest, script⟩ := File.rewindOk rewound
      refine ⟨?_, took.length, script.trans took.script⟩
      have kept := took.produced
      rw [Writer.produced, empty, List.append_nil, List.append_nil] at kept
      rw [Reader.rest, List.nil_append, rest, kept]

theorem intoReaderMild {writer : Writer} (atEnd : writer.file.AtEnd) (mild : writer.file.Mild) :
    ∃ reader, writer.intoReader = .ok reader := by
  have flushing := writer.flushFlushing atEnd
  unfold Writer.intoReader
  generalize writer.flush = answer at flushing ⊢
  cases flushing with
  | failed took lasting rough => exact absurd mild rough
  | @done next took empty =>
    dsimp only
    unfold File.rewind
    rcases answered : next.file.answer 0 with ⟨fault | count, file⟩
    · obtain ⟨content, cursor, script⟩ := File.answerError answered
      exact absurd (took.mild mild) (File.failsNotMild script)
    · exact ⟨_, rfl⟩

end AmqpClient.Spill
