import AmqpClient.Declaration
import AmqpClient.Text

/-! What a client and a server agree on before a connection opens: mechanism, locale and limits. For a
limit 0 means none, and of two real limits the lower one holds. Of heartbeats, a monitor says whether a peer was
silent too long, and a sender beats until its callback declines. -/
namespace AmqpClient

inductive Auth
  | plain (username password : String)
  | external
  deriving DecidableEq, Repr

namespace Auth

def mechanism : Auth → String
  | plain _ _ => "PLAIN"
  | external => "EXTERNAL"

def response : Auth → String
  | plain username password => "\x00" ++ username ++ "\x00" ++ password
  | external => ""

end Auth

structure ConnectionOptions where
  auth : Auth := .plain "guest" "guest"
  virtualHost : String := "/"
  locale : String := "en_US"
  channelMax : UInt16 := 0
  frameMax : UInt32 := 0
  heartbeat : UInt16 := 60
  timeout : Option Nat := none
  information : Option String := none
  platform : String := "PLATFORM"
  spill : SpillOptions := {}
  deriving DecidableEq, Repr

structure Limits where
  channelMax : UInt16
  frameMax : UInt32
  heartbeat : UInt16
  deriving DecidableEq, Repr

namespace Limits

def leastFrameMax : UInt32 := 4096

def lower16 (a b : UInt16) : UInt16 :=
  if a = 0 ∧ b = 0 then 65535 else if a = 0 then b else if b = 0 then a else min a b

def lower32 (a b : UInt32) : UInt32 :=
  if a = 0 ∧ b = 0 then 4294967295 else if a = 0 then b else if b = 0 then a else min a b

def method (limits : Limits) : Method :=
  ⟨.connectionTuneOk, (limits.channelMax, limits.frameMax, limits.heartbeat, ())⟩

end Limits

namespace ConnectionOptions

def advertised (available wanted : String) : Bool := (Text.words available).contains wanted

def capabilities : FieldTable :=
  FieldTable.ofList
    [ ("publisher_confirms", .boolean true)
    , ("consumer_cancel_notify", .boolean true)
    , ("connection.blocked", .boolean true) ]

def clientProperties (options : ConnectionOptions) : FieldTable :=
  let about :=
    FieldTable.ofList
      [ ("product", .text "amqp-recovery")
      , ("version", .text "0.1.0")
      , ("platform", .text options.platform)
      , ("capabilities", .table capabilities) ]
  match options.information with
  | some information => about.insert "information" (.text information)
  | none => about

def startOk (options : ConnectionOptions) (mechanisms locales : String) : Except Error Method :=
  let mechanism := options.auth.mechanism
  if !advertised mechanisms mechanism then .error (.unsupportedAuthMechanism mechanisms mechanism)
  else if !advertised locales options.locale then .error (.unsupportedLocale locales options.locale)
  else .ok ⟨.connectionStartOk,
    (options.clientProperties, mechanism, options.auth.response, options.locale, ())⟩

def tune (options : ConnectionOptions) (proposed : Limits) : Except Error Limits :=
  let frameMax := Limits.lower32 options.frameMax proposed.frameMax
  if frameMax < Limits.leastFrameMax then .error (.frameMaxTooSmall Limits.leastFrameMax frameMax)
  else .ok
    { channelMax := Limits.lower16 options.channelMax proposed.channelMax
      frameMax
      heartbeat := min options.heartbeat proposed.heartbeat }

def openMethod (options : ConnectionOptions) : Method :=
  ⟨.connectionOpen, (options.virtualHost, "", (false, ()), ())⟩

end ConnectionOptions

inductive HeartbeatState
  | stillRunning
  | expired
  deriving DecidableEq, Repr

namespace HeartbeatState

def name : HeartbeatState → String
  | stillRunning => "StillRunning"
  | expired => "Expired"

end HeartbeatState

namespace HeartbeatMonitor

def slack : Nat := 5

def check? (timeout silence : Nat) : Option HeartbeatState :=
  if timeout = 0 then none
  else if timeout ≤ silence + slack then some .expired
  else some .stillRunning

end HeartbeatMonitor

namespace HeartbeatSender

def run (beat : σ → Bool × σ) : (limit : Nat) → σ → σ
  | 0, s => s
  | limit + 1, s =>
    match beat s with
    | (true, s) => run beat limit s
    | (false, s) => s

end HeartbeatSender

end AmqpClient
