import AmqpClient.Content.Source
import AmqpClient.Content.Spill

/-! Content bodies that are read once, from memory, from a file or from a caller's source. The declared
length stays what it is however much has been read. -/
namespace AmqpClient

inductive BodyStore
  | memory (rest : Bytes)
  | spilled (reader : SpillReader)
  | stream (source : Source)

structure ContentBody where
  store : BodyStore
  length : UInt64

namespace ContentBody

def ofBytes (bytes : Bytes) : ContentBody := ⟨.memory bytes, UInt64.ofNat bytes.length⟩

def empty : ContentBody := ofBytes []

def ofSource (source : Source) (length : UInt64) : ContentBody := ⟨.stream source, length⟩

def ofSpill (reader : SpillReader) : ContentBody := ⟨.spilled reader, UInt64.ofNat reader.length⟩

def isEmpty (body : ContentBody) : Bool := body.length == 0

def isSpilled (body : ContentBody) : Bool :=
  match body.store with
  | .spilled _ => true
  | _ => false

def storeName (body : ContentBody) : String :=
  match body.store with
  | .memory _ => "memory"
  | .spilled _ => "spilled"
  | .stream _ => "stream"

def describe (body : ContentBody) : String :=
  "ContentBody \x7b source: \"" ++ body.storeName ++ "\", len: " ++ toString body.length.toNat
    ++ " \x7d"

def read (room : Nat) (body : ContentBody) : Except IoFault Bytes × ContentBody :=
  match body.store with
  | .memory rest => (.ok (rest.take room), { body with store := .memory (rest.drop room) })
  | .spilled reader =>
    let (bytes, reader) := reader.read room
    (.ok bytes, { body with store := .spilled reader })
  | .stream source =>
    let (result, source) := source.read room
    (result, { body with store := .stream source })

def settle (body : ContentBody) : ContentBody :=
  match body.store with
  | .stream source => { body with store := .stream source.settle }
  | _ => body

def fillWithin : (fuel : Nat) → (lacking : Nat) → (pieces : List Bytes) → ContentBody →
    Except IoFault Bytes × ContentBody
  | 0, _, pieces, body => (.ok pieces.reverse.flatten, body)
  | _, 0, pieces, body => (.ok pieces.reverse.flatten, body)
  | fuel + 1, lacking, pieces, body =>
    match body.settle.read lacking with
    | (.error fault, body) => (.error fault, body)
    | (.ok [], body) => (.ok pieces.reverse.flatten, body)
    | (.ok bytes, body) => fillWithin fuel (lacking - bytes.length) (bytes :: pieces) body

/- Reads until `count` bytes are there or the body ends, reading again after interruptions. Each further
read yields at least one byte. -/
def fill (count : Nat) (body : ContentBody) : Except IoFault Bytes × ContentBody :=
  fillWithin count count [] body

def available (body : ContentBody) : Nat :=
  match body.store with
  | .memory rest => rest.length
  | .spilled reader => reader.rest.length
  | .stream source => source.data.length

/- Reads all that is left, of a body that declares at most `Bytes.longest` bytes: for a stream that declares more the
program panics. One read more than there are bytes finds the end or the failure there. -/
def remainder (body : ContentBody) : Except Error Bytes :=
  match (body.fill (body.available + 1)).1 with
  | .ok bytes => .ok bytes
  | .error fault => if body.isSpilled then .error (.spillBuffer fault) else .error (.io fault)

end ContentBody

end AmqpClient
