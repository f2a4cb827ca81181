import AmqpClient.Error

/-! Frames: a type byte, a channel number, the payload's length in four bytes, the payload, and an end
byte. `parse?` accepts exactly the byte strings that `encode` produces from frames whose payload length
fits its four bytes. The same bytes are also written a field at a time to the end of a buffer, or in three calls of
a writer, any of which may fail. -/
namespace AmqpClient

structure Frame where
  kind : FrameKind
  channel : UInt16
  payload : Bytes
  deriving DecidableEq, Repr

namespace Frame

def endByte : UInt8 := 0xCE

def headerSize : Nat := 7

def overhead : Nat := headerSize + 1

def protocolHeader : Bytes := [0x41, 0x4D, 0x51, 0x50, 0, 0, 9, 1]

def body (channel : UInt16) (payload : Bytes) : Frame := ⟨.body, channel, payload⟩

def heartbeat : Frame := ⟨.heartbeat, 0, []⟩

def size (frame : Frame) : Nat := overhead + frame.payload.length

def encodeHeader (frame : Frame) : Bytes :=
  frame.kind.code :: (Bytes.ofU16 frame.channel ++ Bytes.ofNat 4 frame.payload.length)

def encode (frame : Frame) : Bytes := frame.encodeHeader ++ (frame.payload ++ [endByte])

def ofPayload (kind : FrameKind) (channel : UInt16) (payload : Bytes) : Except Error Frame :=
  if payload.length < UInt32.size then .ok ⟨kind, channel, payload⟩ else .error .malformedFrame

def sizeAhead? : Bytes → Option Nat
  | _ :: _ :: _ :: a :: b :: c :: d :: _ => some (Bytes.toNat [a, b, c, d] + overhead)
  | _ => none

def parse? (bytes : Bytes) : Option Frame := do
  let size ← sizeAhead? bytes
  if size ≠ bytes.length then none
  else if bytes.getLast? ≠ some endByte then none
  else
    let code ← bytes.head?
    let kind ← FrameKind.ofCode? code
    some ⟨kind, UInt16.ofNat (Bytes.toNat ((bytes.drop 1).take 2)), (bytes.drop headerSize).dropLast⟩

def parse (bytes : Bytes) : Except Error Frame :=
  match parse? bytes with
  | some frame => .ok frame
  | none => .error .malformedFrame

variable {σ : Type}

def lengthWord (frame : Frame) : UInt32 := UInt32.ofNat frame.payload.length

def encodeInto (frame : Frame) (buffer : Array UInt8) : Array UInt8 :=
  let buffer := buffer.push frame.kind.code
  let buffer := buffer ++ Bytes.ofU16 frame.channel
  let buffer := buffer ++ Bytes.ofU32 frame.lengthWord
  let buffer := buffer ++ frame.payload
  buffer.push endByte

def stampHeader (frame : Frame) : Bytes :=
  let header := (List.replicate headerSize 0).set 0 frame.kind.code
  let header := Bytes.overwrite 1 (Bytes.ofU16 frame.channel) header
  Bytes.overwrite 3 (Bytes.ofU32 frame.lengthWord) header

def writeTo (put : Bytes → σ → Except IoFault Unit × σ) (frame : Frame) (s : σ) : Except IoFault Unit × σ :=
  match put frame.stampHeader s with
  | (.error fault, s) => (.error fault, s)
  | (.ok (), s) =>
    match put frame.payload s with
    | (.error fault, s) => (.error fault, s)
    | (.ok (), s) => put [endByte] s

end Frame

end AmqpClient
