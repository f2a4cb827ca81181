import AmqpClient.Error
import Std.Data.TreeMap

/-! Channel numbers of a connection. Number 0 belongs to the connection itself. Numbers that nobody asks
for by name go round, so that one that was given back comes last. -/
namespace AmqpClient

structure ChannelIds (α : Type) where
  held : Std.TreeMap UInt16 α := {}
  max : UInt16
  cursor : UInt16 := 1

namespace ChannelIds

def get? (ids : ChannelIds α) (id : UInt16) : Option α := ids.held[id]?

def wrap (ids : ChannelIds α) (id : UInt16) : UInt16 := if id = 0 ∨ ids.max < id then 1 else id

def searchWithin (ids : ChannelIds α) : (fuel : Nat) → UInt16 → Option UInt16
  | 0, _ => none
  | fuel + 1, id =>
    let id := ids.wrap id
    if ids.held.contains id then ids.searchWithin fuel (id + 1) else some id

/- An unused number, unless there is none. As many visits as there are numbers reach all of them. -/
def unused (ids : ChannelIds α) : Except Error UInt16 :=
  if ids.max.toNat ≤ ids.held.size then .error .exhaustedChannelIds
  else match ids.searchWithin (ids.max.toNat + 1) ids.cursor with
    | some id => .ok id
    | none => .error .exhaustedChannelIds

def claim (ids : ChannelIds α) (asked : Option UInt16) (make : UInt16 → α) :
    Except Error (UInt16 × ChannelIds α) :=
  match asked with
  | some id =>
    if id = 0 ∨ ids.max < id ∨ ids.held.contains id then .error (.unavailableChannelId id)
    else .ok (id, { ids with held := ids.held.insert id (make id) })
  | none => do
    let id ← ids.unused
    .ok (id, { ids with held := ids.held.insert id (make id), cursor := id + 1 })

/- Claims so many unused numbers, up to the first failure. `make k` is stored by the attempt after `k`
others. Yields how many attempts there have been, too. -/
def claimMany (make : Nat → α) : (count attempt : Nat) → ChannelIds α →
    Except Error (List UInt16) × Nat × ChannelIds α
  | 0, attempt, ids => (.ok [], attempt, ids)
  | count + 1, attempt, ids =>
    match ids.claim none fun _ => make attempt with
    | .error e => (.error e, attempt + 1, ids)
    | .ok (id, ids) =>
      let (claimed, attempts, ids) := claimMany make count (attempt + 1) ids
      (claimed.map (id :: ·), attempts, ids)

def release (ids : ChannelIds α) (id : UInt16) : Option α × ChannelIds α :=
  (ids.get? id, { ids with held := ids.held.erase id })

def releaseAll (ids : ChannelIds α) : List α × ChannelIds α :=
  (ids.held.toList.map Prod.snd, { ids with held := {} })

end ChannelIds

end AmqpClient
