import AmqpClient.Content.Spill

/-! Bodies kept in files, with the buffers between. A writer gathers small pieces in front of a file, and the file
then goes back to its start under a reader that takes it in a window at a time. Any call on the file may take
less than it is given, be interrupted or fail. -/
namespace AmqpClient.Spill

inductive Conduct
  | fails (fault : IoFault)
  | takes (most : Nat)
  deriving DecidableEq, Repr

structure File where
  content : Bytes := []
  cursor : Nat := 0
  -- how the calls to come go, one after the other; those after them go well
  script : List Conduct := []
  deriving DecidableEq, Repr

def capacity : Nat := 8192

namespace File

def answer (whole : Nat) (file : File) : Except IoFault Nat × File :=
  match file.script with
  | [] => (.ok whole, file)
  | .fails fault :: later => (.error fault, { file with script := later })
  | .takes most :: later => (.ok (min whole most), { file with script := later })

def write (bytes : Bytes) (file : File) : Except IoFault Nat × File :=
  match file.answer bytes.length with
  | (.error fault, file) => (.error fault, file)
  | (.ok count, file) =>
    let content := Bytes.overwrite file.cursor (bytes.take count) file.content
    (.ok count, { file with content, cursor := file.cursor + count })

/- Only at its end does a file say that it has nothing. -/
def read (room : Nat) (file : File) : Except IoFault Bytes × File :=
  match file.answer room with
  | (.error fault, file) => (.error fault, file)
  | (.ok count, file) =>
    let bytes := (file.content.drop file.cursor).take (min room (max count 1))
    (.ok bytes, { file with cursor := file.cursor + bytes.length })

def rewind (file : File) : Except IoFault Unit × File :=
  match file.answer 0 with
  | (.error fault, file) => (.error fault, file)
  | (.ok _, file) => (.ok (), { file with cursor := 0 })

end File

structure Reader where
  file : File
  window : Bytes := []
  length : Nat
  deriving DecidableEq, Repr

namespace Reader

/- A read with as much room as the window would have goes past it. -/
def read (room : Nat) (reader : Reader) : Except IoFault Bytes × Reader :=
  match reader.window with
  | [] =>
    if capacity ≤ room then
      let (result, file) := reader.file.read room
      (result, { reader with file })
    else
      match reader.file.read capacity with
      | (.error fault, file) => (.error fault, { reader with file })
      | (.ok bytes, file) => (.ok (bytes.take room), { reader with file, window := bytes.drop room })
  | window => (.ok (window.take room), { reader with window := window.drop room })

end Reader

structure Writer where
  file : File := {}
  held : Bytes := []
  length : Nat := 0
  deriving DecidableEq, Repr

namespace Writer

def flushWithin : (fuel : Nat) → Writer → Except IoFault Unit × Writer
  | 0, writer => (.ok (), writer)
  | fuel + 1, writer =>
    if writer.held = [] then (.ok (), writer)
    else
      match writer.file.write writer.held with
      | (.error fault, file) =>
        if fault.kind = .interrupted then flushWithin fuel { writer with file }
        else (.error fault, { writer with file })
      | (.ok 0, file) => (.error ⟨.writeZero, "failed to write the buffered data"⟩, { writer with file })
      | (.ok count, file) => flushWithin fuel { writer with file, held := writer.held.drop count }

/- Each call on the file either takes something of what is held or uses up an interruption. -/
def flush (writer : Writer) : Except IoFault Unit × Writer :=
  flushWithin (writer.held.length + writer.file.script.length) writer

/- Adds a piece to what is held. A piece as large as the whole room goes straight to the file, and perhaps only
a part of it. -/
def place (bytes : Bytes) (writer : Writer) : Except IoFault Nat × Writer :=
  if capacity ≤ bytes.length then
    match writer.file.write bytes with
    | (.error fault, file) => (.error fault, { writer with file })
    | (.ok count, file) => (.ok count, { writer with file, length := writer.length + count })
  else
    (.ok bytes.length, { writer with held := writer.held ++ bytes, length := writer.length + bytes.length })

def write (bytes : Bytes) (writer : Writer) : Except IoFault Nat × Writer :=
  if capacity < writer.held.length + bytes.length then
    match writer.flush with
    | (.error fault, writer) => (.error fault, writer)
    | (.ok (), writer) => writer.place bytes
  else writer.place bytes

def appendWithin : (fuel : Nat) → Bytes → Writer → Except IoFault Unit × Writer
  | 0, _, writer => (.ok (), writer)
  | _, [], writer => (.ok (), writer)
  | fuel + 1, bytes, writer =>
    match writer.write bytes with
    | (.error fault, writer) =>
      if fault.kind = .interrupted then appendWithin fuel bytes writer else (.error fault, writer)
    | (.ok 0, writer) => (.error ⟨.writeZero, "failed to write whole buffer"⟩, writer)
    | (.ok count, writer) => appendWithin fuel (bytes.drop count) writer

def append (bytes : Bytes) (writer : Writer) : Except Error Unit × Writer :=
  match appendWithin (bytes.length + writer.file.script.length) bytes writer with
  | (.error fault, writer) => (.error (.spillBuffer fault), writer)
  | (.ok (), writer) => (.ok (), writer)

def intoReader (writer : Writer) : Except Error Reader :=
  match writer.flush with
  | (.error fault, _) => .error (.spillBuffer fault)
  | (.ok (), writer) =>
    match writer.file.rewind with
    | (.error fault, _) => .error (.spillBuffer fault)
    | (.ok (), file) => .ok { file, length := writer.length }

end Writer

/- A body that is kept in a file, from its first byte until the file is gone. A call that is not of its time is
no call of it. -/
inductive Phase
  | writing (writer : Writer)
  | reading (reader : Reader)
  | gone
  deriving DecidableEq, Repr

namespace Phase

def name : Phase → String
  | writing _ => "writer"
  | reading _ => "reader"
  | gone => "gone"

def present : Phase → Bool
  | gone => false
  | _ => true

def length : Phase → Nat
  | writing writer => writer.length
  | reading reader => reader.length
  | gone => 0

def append (bytes : Bytes) : Phase → Option (Except Error Unit × Phase)
  | writing writer => some ((writer.append bytes).map id writing)
  | _ => none

def write (bytes : Bytes) : Phase → Option (Except Error Nat × Phase)
  | writing writer => some ((writer.write bytes).map (Except.mapError .io) writing)
  | _ => none

def flush : Phase → Option (Except Error Unit × Phase)
  | writing writer => some (writer.flush.map (Except.mapError .io) writing)
  | _ => none

def startReading : Phase → Option (Except Error Unit × Phase)
  | writing writer =>
    match writer.intoReader with
    | .ok reader => some (.ok (), reading reader)
    | .error e => some (.error e, gone)
  | _ => none

def fillWithin : (fuel : Nat) → (lacking : Nat) → (got : Bytes) → Reader → Except IoFault Bytes × Reader
  | 0, _, got, reader => (.ok got, reader)
  | _, 0, got, reader => (.ok got, reader)
  | fuel + 1, lacking, got, reader =>
    match reader.read lacking with
    | (.error fault, reader) => (.error fault, reader)
    | (.ok [], reader) => (.ok got, reader)
    | (.ok bytes, reader) => fillWithin fuel (lacking - bytes.length) (got ++ bytes) reader

def fill (count : Nat) : Phase → Option (Except Error Bytes × Phase)
  | reading reader => some ((fillWithin count count [] reader).map (Except.mapError .io) reading)
  | _ => none

def close : Phase → Option (Except Error Unit × Phase)
  | gone => none
  | _ => some (.ok (), gone)

end Phase

end AmqpClient.Spill
