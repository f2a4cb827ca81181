import AmqpClient.Field.Wire

/-! The methods of the protocol. Each kind of method has two numbers, a name and a list of parts; the
parts say what arguments a method carries, how they are written and how they are read. -/
namespace AmqpClient

inductive FlagUse
  | read
  | unread
  deriving DecidableEq, Repr

inductive Part
  | u8
  | u16
  | u32
  | u64
  | shortText
  | longText
  | table
  | flags (uses : List FlagUse)
  deriving DecidableEq, Repr

def FlagRow : List FlagUse → Type
  | [] => Unit
  | _ :: rest => Bool × FlagRow rest

def Part.Value : Part → Type
  | u8 => UInt8
  | u16 => UInt16
  | u32 => UInt32
  | u64 => UInt64
  | shortText => String
  | longText => String
  | table => FieldTable
  | flags uses => FlagRow uses

def Arguments : List Part → Type
  | [] => Unit
  | part :: rest => part.Value × Arguments rest

inductive MethodKind
  | connectionStart
  | connectionStartOk
  | connectionSecure
  | connectionSecureOk
  | connectionTune
  | connectionTuneOk
  | connectionOpen
  | connectionOpenOk
  | connectionClose
  | connectionCloseOk
  | connectionBlocked
  | connectionUnblocked
  | channelOpen
  | channelOpenOk
  | channelFlow
  | channelFlowOk
  | channelClose
  | channelCloseOk
  | accessRequest
  | accessRequestOk
  | exchangeDeclare
  | exchangeDeclareOk
  | exchangeDelete
  | exchangeDeleteOk
  | exchangeBind
  | exchangeBindOk
  | exchangeUnbind
  | exchangeUnbindOk
  | queueDeclare
  | queueDeclareOk
  | queueBind
  | queueBindOk
  | queuePurge
  | queuePurgeOk
  | queueDelete
  | queueDeleteOk
  | queueUnbind
  | queueUnbindOk
  | basicQos
  | basicQosOk
  | basicConsume
  | basicConsumeOk
  | basicCancel
  | basicCancelOk
  | basicPublish
  | basicReturn
  | basicDeliver
  | basicGet
  | basicGetOk
  | basicGetEmpty
  | basicAck
  | basicReject
  | basicRecoverAsync
  | basicRecover
  | basicRecoverOk
  | basicNack
  | confirmSelect
  | confirmSelectOk
  | txSelect
  | txSelectOk
  | txCommit
  | txCommitOk
  | txRollback
  | txRollbackOk
  deriving DecidableEq, Repr

namespace MethodKind

def codes : MethodKind → UInt16 × UInt16
  | connectionStart => (10, 10)
  | connectionStartOk => (10, 11)
  | connectionSecure => (10, 20)
  | connectionSecureOk => (10, 21)
  | connectionTune => (10, 30)
  | connectionTuneOk => (10, 31)
  | connectionOpen => (10, 40)
  | connectionOpenOk => (10, 41)
  | connectionClose => (10, 50)
  | connectionCloseOk => (10, 51)
  | connectionBlocked => (10, 60)
  | connectionUnblocked => (10, 61)
  | channelOpen => (20, 10)
  | channelOpenOk => (20, 11)
  | channelFlow => (20, 20)
  | channelFlowOk => (20, 21)
  | channelClose => (20, 40)
  | channelCloseOk => (20, 41)
  | accessRequest => (30, 10)
  | accessRequestOk => (30, 11)
  | exchangeDeclare => (40, 10)
  | exchangeDeclareOk => (40, 11)
  | exchangeDelete => (40, 20)
  | exchangeDeleteOk => (40, 21)
  | exchangeBind => (40, 30)
  | exchangeBindOk => (40, 31)
  | exchangeUnbind => (40, 40)
  | exchangeUnbindOk => (40, 51)
  | queueDeclare => (50, 10)
  | queueDeclareOk => (50, 11)
  | queueBind => (50, 20)
  | queueBindOk => (50, 21)
  | queuePurge => (50, 30)
  | queuePurgeOk => (50, 31)
  | queueDelete => (50, 40)
  | queueDeleteOk => (50, 41)
  | queueUnbind => (50, 50)
  | queueUnbindOk => (50, 51)
  | basicQos => (60, 10)
  | basicQosOk => (60, 11)
  | basicConsume => (60, 20)
  | basicConsumeOk => (60, 21)
  | basicCancel => (60, 30)
  | basicCancelOk => (60, 31)
  | basicPublish => (60, 40)
  | basicReturn => (60, 50)
  | basicDeliver => (60, 60)
  | basicGet => (60, 70)
  | basicGetOk => (60, 71)
  | basicGetEmpty => (60, 72)
  | basicAck => (60, 80)
  | basicReject => (60, 90)
  | basicRecoverAsync => (60, 100)
  | basicRecover => (60, 110)
  | basicRecoverOk => (60, 111)
  | basicNack => (60, 120)
  | confirmSelect => (85, 10)
  | confirmSelectOk => (85, 11)
  | txSelect => (90, 10)
  | txSelectOk => (90, 11)
  | txCommit => (90, 20)
  | txCommitOk => (90, 21)
  | txRollback => (90, 30)
  | txRollbackOk => (90, 31)

def name : MethodKind → String
  | connectionStart => "connection.start"
  | connectionStartOk => "connection.start-ok"
  | connectionSecure => "connection.secure"
  | connectionSecureOk => "connection.secure-ok"
  | connectionTune => "connection.tune"
  | connectionTuneOk => "connection.tune-ok"
  | connectionOpen => "connection.open"
  | connectionOpenOk => "connection.open-ok"
  | connectionClose => "connection.close"
  | connectionCloseOk => "connection.close-ok"
  | connectionBlocked => "connection.blocked"
  | connectionUnblocked => "connection.unblocked"
  | channelOpen => "channel.open"
  | channelOpenOk => "channel.open-ok"
  | channelFlow => "channel.flow"
  | channelFlowOk => "channel.flow-ok"
  | channelClose => "channel.close"
  | channelCloseOk => "channel.close-ok"
  | accessRequest => "access.request"
  | accessRequestOk => "access.request-ok"
  | exchangeDeclare => "exchange.declare"
  | exchangeDeclareOk => "exchange.declare-ok"
  | exchangeDelete => "exchange.delete"
  | exchangeDeleteOk => "exchange.delete-ok"
  | exchangeBind => "exchange.bind"
  | exchangeBindOk => "exchange.bind-ok"
  | exchangeUnbind => "exchange.unbind"
  | exchangeUnbindOk => "exchange.unbind-ok"
  | queueDeclare => "queue.declare"
  | queueDeclareOk => "queue.declare-ok"
  | queueBind => "queue.bind"
  | queueBindOk => "queue.bind-ok"
  | queuePurge => "queue.purge"
  | queuePurgeOk => "queue.purge-ok"
  | queueDelete => "queue.delete"
  | queueDeleteOk => "queue.delete-ok"
  | queueUnbind => "queue.unbind"
  | queueUnbindOk => "queue.unbind-ok"
  | basicQos => "basic.qos"
  | basicQosOk => "basic.qos-ok"
  | basicConsume => "basic.consume"
  | basicConsumeOk => "basic.consume-ok"
  | basicCancel => "basic.cancel"
  | basicCancelOk => "basic.cancel-ok"
  | basicPublish => "basic.publish"
  | basicReturn => "basic.return"
  | basicDeliver => "basic.deliver"
  | basicGet => "basic.get"
  | basicGetOk => "basic.get-ok"
  | basicGetEmpty => "basic.get-empty"
  | basicAck => "basic.ack"
  | basicReject => "basic.reject"
  | basicRecoverAsync => "basic.recover-async"
  | basicRecover => "basic.recover"
  | basicRecoverOk => "basic.recover-ok"
  | basicNack => "basic.nack"
  | confirmSelect => "confirm.select"
  | confirmSelectOk => "confirm.select-ok"
  | txSelect => "tx.select"
  | txSelectOk => "tx.select-ok"
  | txCommit => "tx.commit"
  | txCommitOk => "tx.commit-ok"
  | txRollback => "tx.rollback"
  | txRollbackOk => "tx.rollback-ok"

def parts : MethodKind → List Part
  | connectionStart => [.u8, .u8, .table, .longText, .longText]
  | connectionStartOk => [.table, .shortText, .longText, .shortText]
  | connectionSecure => [.longText]
  | connectionSecureOk => [.longText]
  | connectionTune => [.u16, .u32, .u16]
  | connectionTuneOk => [.u16, .u32, .u16]
  | connectionOpen => [.shortText, .shortText, .flags [.read]]
  | connectionOpenOk => [.shortText]
  | connectionClose => [.u16, .shortText, .u16, .u16]
  | connectionCloseOk => []
  | connectionBlocked => [.shortText]
  | connectionUnblocked => []
  | channelOpen => [.shortText]
  | channelOpenOk => [.longText]
  | channelFlow => [.flags [.read]]
  | channelFlowOk => [.flags [.read]]
  | channelClose => [.u16, .shortText, .u16, .u16]
  | channelCloseOk => []
  | accessRequest => [.shortText, .flags [.read, .read, .read, .read, .read]]
  | accessRequestOk => [.u16]
  | exchangeDeclare => [.u16, .shortText, .shortText, .flags [.read, .read, .unread, .read, .read], .table]
  | exchangeDeclareOk => []
  | exchangeDelete => [.u16, .shortText, .flags [.unread, .read]]
  | exchangeDeleteOk => []
  | exchangeBind => [.u16, .shortText, .shortText, .shortText, .flags [.read], .table]
  | exchangeBindOk => []
  | exchangeUnbind => [.u16, .shortText, .shortText, .shortText, .flags [.read], .table]
  | exchangeUnbindOk => []
  | queueDeclare => [.u16, .shortText, .flags [.read, .read, .read, .unread, .read], .table]
  | queueDeclareOk => [.shortText, .u32, .u32]
  | queueBind => [.u16, .shortText, .shortText, .shortText, .flags [.read], .table]
  | queueBindOk => []
  | queuePurge => [.u16, .shortText, .flags [.read]]
  | queuePurgeOk => [.u32]
  | queueDelete => [.u16, .shortText, .flags [.unread, .unread, .read]]
  | queueDeleteOk => [.u32]
  | queueUnbind => [.u16, .shortText, .shortText, .shortText, .table]
  | queueUnbindOk => []
  | basicQos => [.u32, .u16, .flags [.read]]
  | basicQosOk => []
  | basicConsume => [.u16, .shortText, .shortText, .flags [.unread, .unread, .read, .read], .table]
  | basicConsumeOk => [.shortText]
  | basicCancel => [.shortText, .flags [.read]]
  | basicCancelOk => [.shortText]
  | basicPublish => [.u16, .shortText, .shortText, .flags [.read, .read]]
  | basicReturn => [.u16, .shortText, .shortText, .shortText]
  | basicDeliver => [.shortText, .u64, .flags [.read], .shortText, .shortText]
  | basicGet => [.u16, .shortText, .flags [.unread]]
  | basicGetOk => [.u64, .flags [.read], .shortText, .shortText, .u32]
  | basicGetEmpty => [.shortText]
  | basicAck => [.u64, .flags [.read]]
  | basicReject => [.u64, .flags [.read]]
  | basicRecoverAsync => [.flags [.read]]
  | basicRecover => [.flags [.read]]
  | basicRecoverOk => []
  | basicNack => [.u64, .flags [.read, .read]]
  | confirmSelect => [.flags [.read]]
  | confirmSelectOk => []
  | txSelect => []
  | txSelectOk => []
  | txCommit => []
  | txCommitOk => []
  | txRollback => []
  | txRollbackOk => []

def all : List MethodKind :=
  [connectionStart, connectionStartOk, connectionSecure, connectionSecureOk, connectionTune,
    connectionTuneOk, connectionOpen, connectionOpenOk, connectionClose, connectionCloseOk,
    connectionBlocked, connectionUnblocked, channelOpen, channelOpenOk, channelFlow,
    channelFlowOk, channelClose, channelCloseOk, accessRequest, accessRequestOk,
    exchangeDeclare, exchangeDeclareOk, exchangeDelete, exchangeDeleteOk, exchangeBind,
    exchangeBindOk, exchangeUnbind, exchangeUnbindOk, queueDeclare, queueDeclareOk, queueBind,
    queueBindOk, queuePurge, queuePurgeOk, queueDelete, queueDeleteOk, queueUnbind,
    queueUnbindOk, basicQos, basicQosOk, basicConsume, basicConsumeOk, basicCancel,
    basicCancelOk, basicPublish, basicReturn, basicDeliver, basicGet, basicGetOk,
    basicGetEmpty, basicAck, basicReject, basicRecoverAsync, basicRecover, basicRecoverOk,
    basicNack, confirmSelect, confirmSelectOk, txSelect, txSelectOk, txCommit, txCommitOk,
    txRollback, txRollbackOk]

def ofCodes? (codes : UInt16 × UInt16) : Option MethodKind := all.find? fun kind => kind.codes = codes

def ofName? (name : String) : Option MethodKind := all.find? fun kind => kind.name = name

def hasContent : MethodKind → Bool
  | basicPublish => true
  | basicReturn => true
  | basicDeliver => true
  | basicGetOk => true
  | _ => false

theorem ofCodesCodes (kind : MethodKind) : ofCodes? kind.codes = some kind := by
  cases kind <;> rfl

end MethodKind

structure Method where
  kind : MethodKind
  arguments : Arguments kind.parts

namespace Method

def hasContent (method : Method) : Bool := method.kind.hasContent

end Method

end AmqpClient
