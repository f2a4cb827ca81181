import AmqpClient.Frame.Kind

/-! Everything that can go wrong, as causes. `Error.message` words a cause, and `Error.sources` lists
the messages of the causes behind it, nearest first. -/
namespace AmqpClient

inductive IoKind
  | wouldBlock
  | timedOut
  | interrupted
  | connectionReset
  | connectionRefused
  | connectionAborted
  | brokenPipe
  | unexpectedEof
  | notFound
  | permissionDenied
  | invalidData
  | invalidInput
  | writeZero
  | networkUnreachable
  | uncategorized
  | other
  deriving DecidableEq, Repr

namespace IoKind

def all : List IoKind :=
  [wouldBlock, timedOut, interrupted, connectionReset, connectionRefused, connectionAborted, brokenPipe,
    unexpectedEof, notFound, permissionDenied, invalidData, invalidInput, writeZero, networkUnreachable,
    uncategorized, other]

def name : IoKind → String
  | wouldBlock => "WouldBlock"
  | timedOut => "TimedOut"
  | interrupted => "Interrupted"
  | connectionReset => "ConnectionReset"
  | connectionRefused => "ConnectionRefused"
  | connectionAborted => "ConnectionAborted"
  | brokenPipe => "BrokenPipe"
  | unexpectedEof => "UnexpectedEof"
  | notFound => "NotFound"
  | permissionDenied => "PermissionDenied"
  | invalidData => "InvalidData"
  | invalidInput => "InvalidInput"
  | writeZero => "WriteZero"
  | networkUnreachable => "NetworkUnreachable"
  | uncategorized => "Uncategorized"
  | other => "Other"

def ofName? (name : String) : Option IoKind := all.find? fun kind => kind.name == name

end IoKind

structure IoFault where
  kind : IoKind
  text : String := ""
  deriving DecidableEq, Repr

inductive Error
  | unexpectedFrame (expected received : FrameKind)
  | frameAfterComplete (received : FrameKind)
  | bodyOverflow (bodySize received : UInt64)
  | malformedFrame
  | unexpectedSocketClose
  | io (fault : IoFault)
  | spillBuffer (fault : IoFault)
  | bodyAlreadyTaken
  | bodyTooShort (expected read : UInt64)
  | incompleteCommand
  | internalSerializationError
  | frameOverheadMismatch (expected actual : Nat)
  | frameMaxTooSmall (min requested : UInt32)
  | frameUnexpected
  | unsupportedAuthMechanism (available requested : String)
  | unsupportedLocale (available requested : String)
  | saslSecureNotSupported
  | serverClosedConnection (code : UInt16) (text : String)
  | clientClosedConnection
  | serverClosedChannel (channel code : UInt16) (text : String)
  | clientClosedChannel
  | missedServerHeartbeats
  | ioThreadPanic (text : String)
  | connectionDropped
  | channelClosed (channel : UInt16)
  | recoveryFailed (channel : UInt16) (cause : Error)
  | notSupported (operation : String)
  | forkFailed (fault : IoFault)
  | exhaustedChannelIds
  | unavailableChannelId (channel : UInt16)
  | bogusChannelId (channel : UInt16)
  | duplicateConsumerTag (channel : UInt16) (tag : String)
  deriving DecidableEq, Repr

namespace Error

def name : Error → String
  | unexpectedFrame .. => "UnexpectedFrame"
  | frameAfterComplete _ => "FrameAfterComplete"
  | bodyOverflow .. => "BodyOverflow"
  | malformedFrame => "MalformedFrame"
  | unexpectedSocketClose => "UnexpectedSocketClose"
  | io _ => "Io"
  | spillBuffer _ => "SpillBuffer"
  | bodyAlreadyTaken => "BodyAlreadyTaken"
  | bodyTooShort .. => "BodyTooShort"
  | incompleteCommand => "IncompleteCommand"
  | internalSerializationError => "InternalSerializationError"
  | frameOverheadMismatch .. => "FrameOverheadMismatch"
  | frameMaxTooSmall .. => "FrameMaxTooSmall"
  | frameUnexpected => "FrameUnexpected"
  | unsupportedAuthMechanism .. => "UnsupportedAuthMechanism"
  | unsupportedLocale .. => "UnsupportedLocale"
  | saslSecureNotSupported => "SaslSecureNotSupported"
  | serverClosedConnection .. => "ServerClosedConnection"
  | clientClosedConnection => "ClientClosedConnection"
  | serverClosedChannel .. => "ServerClosedChannel"
  | clientClosedChannel => "ClientClosedChannel"
  | missedServerHeartbeats => "MissedServerHeartbeats"
  | ioThreadPanic _ => "IoThreadPanic"
  | connectionDropped => "ConnectionDropped"
  | channelClosed _ => "ChannelClosed"
  | recoveryFailed .. => "RecoveryFailed"
  | notSupported _ => "NotSupported"
  | forkFailed _ => "ForkFailed"
  | exhaustedChannelIds => "ExhaustedChannelIds"
  | unavailableChannelId _ => "UnavailableChannelId"
  | bogusChannelId _ => "ReceivedFrameWithBogusChannelId"
  | duplicateConsumerTag .. => "DuplicateConsumerTag"

def fault? : Error → Option IoFault
  | io fault => some fault
  | spillBuffer fault => some fault
  | forkFailed fault => some fault
  | _ => none

def message : Error → String
  | unexpectedFrame expected received =>
    "expected " ++ expected.name ++ " frame but received " ++ received.name ++ " frame"
  | frameAfterComplete received =>
    "received " ++ received.name ++ " frame for an already complete command"
  | bodyOverflow bodySize received =>
    "content body overflow: header declared " ++ toString bodySize.toNat ++ " bytes but "
      ++ toString received.toNat ++ " bytes arrived"
  | malformedFrame => "received malformed data - expected AMQP frame"
  | unexpectedSocketClose => "underlying socket closed unexpectedly"
  | io fault => "I/O error: " ++ fault.text
  | spillBuffer fault => "spill buffer I/O error: " ++ fault.text
  | bodyAlreadyTaken => "content body has already been taken from this command"
  | bodyTooShort expected read =>
    "content body stream ended after " ++ toString read.toNat ++ " of "
      ++ toString expected.toNat ++ " bytes"
  | incompleteCommand => "command is incomplete"
  | internalSerializationError =>
    "internal serialization error (this is a bug in amqp-recovery)"
  | frameOverheadMismatch expected actual =>
    "empty frame serialized to " ++ toString actual ++ " bytes but frame overhead is assumed to be "
      ++ toString expected
  | frameMaxTooSmall min requested =>
    "requested frame max is too small (min = " ++ toString min.toNat ++ ", requested = "
      ++ toString requested.toNat ++ ")"
  | frameUnexpected => "AMQP protocol error - received unexpected frame"
  | unsupportedAuthMechanism available requested =>
    "requested auth mechanism unavailable (available = " ++ available ++ ", requested = "
      ++ requested ++ ")"
  | unsupportedLocale available requested =>
    "requested locale unavailable (available = " ++ available ++ ", requested = " ++ requested ++ ")"
  | saslSecureNotSupported => "SASL secure/secure-ok exchanges are not supported"
  | serverClosedConnection code text =>
    "server closed connection (code=" ++ toString code.toNat ++ " message=" ++ text ++ ")"
  | clientClosedConnection => "client closed connection"
  | serverClosedChannel channel code text =>
    "server closed channel " ++ toString channel.toNat ++ " (code=" ++ toString code.toNat
      ++ ", message=" ++ text ++ ")"
  | clientClosedChannel => "channel has been closed"
  | missedServerHeartbeats => "missed heartbeats from server"
  | ioThreadPanic text => "I/O thread panicked: " ++ text
  | connectionDropped => "connection dropped (I/O thread exited)"
  | channelClosed channel => "channel " ++ toString channel.toNat ++ " is closed"
  | recoveryFailed channel cause =>
    "recovery of channel " ++ toString channel.toNat ++ " failed: " ++ cause.message
  | notSupported operation => "operation not supported: " ++ operation
  | forkFailed fault => "failed to spawn thread: " ++ fault.text
  | exhaustedChannelIds => "no more channel ids are available"
  | unavailableChannelId channel =>
    "requested channel id (" ++ toString channel.toNat ++ ") is unavailable"
  | bogusChannelId channel => "received frame with bogus channel id " ++ toString channel.toNat
  | duplicateConsumerTag channel tag =>
    "server sent duplicate consumer tag for channel " ++ toString channel.toNat ++ ": " ++ tag

def sources : Error → List String
  | io fault => [fault.text]
  | spillBuffer fault => [fault.text]
  | forkFailed fault => [fault.text]
  | recoveryFailed _ cause => cause.message :: cause.sources
  | _ => []

end Error

end AmqpClient
