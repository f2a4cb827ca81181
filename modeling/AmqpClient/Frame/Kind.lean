import AmqpClient.Bytes

/-! The four kinds of frame and the type byte of each. -/
namespace AmqpClient

inductive FrameKind
  | method
  | header
  | body
  | heartbeat
  deriving DecidableEq, Repr

namespace FrameKind

def code : FrameKind → UInt8
  | method => 1
  | header => 2
  | body => 3
  | heartbeat => 8

def ofCode? : UInt8 → Option FrameKind
  | 1 => some method
  | 2 => some header
  | 3 => some body
  | 8 => some heartbeat
  | _ => none

def name : FrameKind → String
  | method => "METHOD"
  | header => "HEADER"
  | body => "BODY"
  | heartbeat => "HEARTBEAT"

def all : List FrameKind := [method, header, body, heartbeat]

theorem ofCodeCode (kind : FrameKind) : ofCode? kind.code = some kind := by
  cases kind <;> rfl

theorem codeOfCode {code : UInt8} {kind : FrameKind} (h : ofCode? code = some kind) :
    kind.code = code := by
  unfold ofCode? at h
  split at h <;> simp_all [FrameKind.code] <;> subst h <;> rfl

end FrameKind

end AmqpClient
