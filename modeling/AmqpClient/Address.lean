import AmqpClient.Error

/-! Socket addresses as text: a host and a port. The host is an IPv4 address, with brackets an IPv6 address,
or in looser spelling either of them; host names that have to be looked up are not known here. `render`
writes the spelling that leaves out the longest run of zero groups. -/
namespace AmqpClient

inductive IpAddress
  | v4 (octets : List UInt8)
  | v6 (groups : List UInt16)
  deriving DecidableEq, Repr

structure SocketAddress where
  ip : IpAddress
  port : UInt16
  zone : UInt32 := 0
  deriving DecidableEq, Repr

namespace SocketAddress

def digit? (base : Nat) (c : Char) : Option Nat :=
  let value :=
    if '0' ≤ c ∧ c ≤ '9' then c.toNat - '0'.toNat
    else if 'a' ≤ c ∧ c ≤ 'f' then c.toNat - 'a'.toNat + 10
    else if 'A' ≤ c ∧ c ≤ 'F' then c.toNat - 'A'.toNat + 10
    else base
  if value < base then some value else none

def readDigits (base : Nat) : (value count : Nat) → List Char → Nat × Nat × List Char
  | value, count, [] => (value, count, [])
  | value, count, c :: rest =>
    match digit? base c with
    | some d => readDigits base (value * base + d) (count + 1) rest
    | none => (value, count, c :: rest)

def readNumber (base bound : Nat) (text : List Char) : Option (Nat × List Char) :=
  let (value, count, rest) := readDigits base 0 0 text
  if count = 0 ∨ bound ≤ value then none else some (value, rest)

def expect (c : Char) : List Char → Option (List Char)
  | first :: rest => if first = c then some rest else none
  | [] => none

def readOctet (text : List Char) : Option (UInt8 × List Char) :=
  let (value, count, rest) := readDigits 10 0 0 text
  if count = 0 ∨ 3 < count ∨ 255 < value then none
  else if 1 < count ∧ text.head? = some '0' then none
  else some (UInt8.ofNat value, rest)

def octetCount : Nat := 4

def readV4 (text : List Char) : Option (List UInt8 × List Char) := do
  let (a, text) ← readOctet text
  let text ← expect '.' text
  let (b, text) ← readOctet text
  let text ← expect '.' text
  let (c, text) ← readOctet text
  let text ← expect '.' text
  let (d, text) ← readOctet text
  some ([a, b, c, d], text)

def pairOctets (a b : UInt8) : UInt16 := UInt16.ofNat (a.toNat * 256 + b.toNat)

def readGroup (text : List Char) : Option (UInt16 × List Char) :=
  let (value, count, rest) := readDigits 16 0 0 text
  if count = 0 ∨ 4 < count then none else some (UInt16.ofNat value, rest)

def readGroups : (limit : Nat) → (first : Bool) → List Char → List UInt16 × Bool × List Char
  | 0, _, text => ([], false, text)
  | limit + 1, first, text =>
    match if first then some text else expect ':' text with
    | none => ([], false, text)
    | some inner =>
      match if 1 ≤ limit then readV4 inner else none with
      | some ([a, b, c, d], rest) => ([pairOctets a b, pairOctets c d], true, rest)
      | _ =>
        match readGroup inner with
        | none => ([], false, text)
        | some (group, rest) =>
          let (groups, v4, rest) := readGroups limit false rest
          (group :: groups, v4, rest)

def groupCount : Nat := 8

def readV6 (text : List Char) : Option (List UInt16 × List Char) :=
  let (head, v4, rest) := readGroups groupCount true text
  if head.length = groupCount then some (head, rest)
  else if v4 then none
  else do
    let rest ← expect ':' rest
    let rest ← expect ':' rest
    let (tail, _, rest) := readGroups (groupCount - 1 - head.length) true rest
    some (head ++ List.replicate (groupCount - head.length - tail.length) 0 ++ tail, rest)

def readPort (text : List Char) : Option (UInt16 × List Char) := do
  let text ← expect ':' text
  let (port, rest) ← readNumber 10 65536 text
  some (UInt16.ofNat port, rest)

def parseV4? (text : List Char) : Option SocketAddress := do
  let (octets, text) ← readV4 text
  let (port, text) ← readPort text
  if text.isEmpty then some ⟨.v4 octets, port, 0⟩ else none

def readZone (text : List Char) : Option (Nat × List Char) := do
  let text ← expect '%' text
  readNumber 10 4294967296 text

def parseV6? (text : List Char) : Option SocketAddress := do
  let text ← expect '[' text
  let (groups, text) ← readV6 text
  let (zone, text) := (readZone text).getD (0, text)
  let text ← expect ']' text
  let (port, text) ← readPort text
  if text.isEmpty then some ⟨.v6 groups, port, UInt32.ofNat zone⟩ else none

/-! Looser spellings of a host -/

def readInteger (text : List Char) : Option (Nat × List Char) :=
  match text with
  | '0' :: 'x' :: rest => readNumber 16 4294967296 rest
  | '0' :: 'X' :: rest => readNumber 16 4294967296 rest
  | '0' :: _ => readNumber 8 4294967296 text
  | _ => readNumber 10 4294967296 text

def readIntegers : (limit : Nat) → List Char → Option (List Nat)
  | 0, _ => none
  | limit + 1, text =>
    match readInteger text with
    | some (value, []) => some [value]
    | some (value, '.' :: rest) => (readIntegers limit rest).map (value :: ·)
    | _ => none

/- Fewer numbers than octets: the last one stands for all octets that the others leave. -/
def spreadV4 (numbers : List Nat) : Option (List UInt8) :=
  let front := numbers.dropLast
  let last := numbers.getLast?.getD 0
  let left := octetCount - front.length
  if (front.all fun number => number < 256) ∧ last < 1 <<< (8 * left) then
    some (front.map UInt8.ofNat ++ Bytes.ofNat left last)
  else none

def looseV4? (host : List Char) : Option IpAddress :=
  (readIntegers octetCount host).bind fun numbers => (spreadV4 numbers).map .v4

def bareV6? (host : List Char) : Option (IpAddress × UInt32) :=
  match readV6 host with
  | some (groups, []) => some (.v6 groups, 0)
  | some (groups, rest) =>
    match readZone rest with
    | some (zone, []) => some (.v6 groups, UInt32.ofNat zone)
    | _ => none
  | none => none

def hostAddress? (host : List Char) : Option (IpAddress × UInt32) :=
  ((looseV4? host).map fun ip => (ip, 0)).or (bareV6? host)

def splitPort? (text : List Char) : Option (List Char × UInt16) := do
  let reversed := text.reverse
  let portText := (reversed.takeWhile (· ≠ ':')).reverse
  let host ← (expect ':' (reversed.dropWhile (· ≠ ':'))).map List.reverse
  let (port, rest) ← readNumber 10 65536 ((expect '+' portText).getD portText)
  if rest.isEmpty ∧ '\x00' ∉ host then some (host, UInt16.ofNat port) else none

def parse (text : String) : Except Error SocketAddress :=
  let chars := text.toList
  match (parseV4? chars).or (parseV6? chars) with
  | some address => .ok address
  | none =>
    match splitPort? chars with
    | none => .error (.io ⟨.invalidInput, ""⟩)
    | some (host, port) =>
      match hostAddress? host with
      | some (ip, zone) => .ok ⟨ip, port, zone⟩
      | none => .error (.io ⟨.uncategorized, ""⟩)

def joinDots (octets : List UInt8) : String :=
  ".".intercalate (octets.map fun octet => toString octet.toNat)

def hexGroup (group : UInt16) : String := String.ofList (Nat.toDigits 16 group.toNat)

def joinGroups (groups : List UInt16) : String := ":".intercalate (groups.map hexGroup)

def zerosAhead (groups : List UInt16) : Nat := (groups.takeWhile (· = 0)).length

/- Start and length of the first one of the longest runs of zero groups. -/
def longestZeros : (place : Nat) → List UInt16 → Nat × Nat
  | _, [] => (0, 0)
  | place, group :: rest =>
    let here := zerosAhead (group :: rest)
    let later := longestZeros (place + 1) rest
    if later.2 ≤ here then (place, here) else later

def renderV6 (groups : List UInt16) : String :=
  match groups with
  | [0, 0, 0, 0, 0, 0xFFFF, high, low] =>
    "::ffff:" ++ joinDots
      [UInt8.ofNat (high.toNat / 256), UInt8.ofNat high.toNat, UInt8.ofNat (low.toNat / 256),
        UInt8.ofNat low.toNat]
  | _ =>
    let (start, count) := longestZeros 0 groups
    if 1 < count then
      joinGroups (groups.take start) ++ "::" ++ joinGroups (groups.drop (start + count))
    else joinGroups groups

def render (address : SocketAddress) : String :=
  let port := toString address.port.toNat
  match address.ip with
  | .v4 octets => joinDots octets ++ ":" ++ port
  | .v6 groups =>
    let zone := if address.zone = 0 then "" else "%" ++ toString address.zone.toNat
    "[" ++ renderV6 groups ++ zone ++ "]:" ++ port

end SocketAddress

end AmqpClient
