import AmqpClient.Bytes

/-! Catalogs: records under unique keys, in the order in which their keys first came. Recording a key
again keeps its place. -/
namespace AmqpClient

class Keyed (α : Type) where
  key : α → String

structure Catalog (α : Type) where
  items : List α := []
  deriving DecidableEq, Repr

namespace Catalog

variable {α : Type} [Keyed α]

def find? (catalog : Catalog α) (key : String) : Option α :=
  catalog.items.find? fun item => Keyed.key item == key

def contains (catalog : Catalog α) (key : String) : Bool :=
  catalog.items.any fun item => Keyed.key item == key

def record (catalog : Catalog α) (item : α) : Catalog α :=
  if catalog.contains (Keyed.key item) then
    ⟨catalog.items.map fun other => if Keyed.key other == Keyed.key item then item else other⟩
  else ⟨catalog.items ++ [item]⟩

def erase (catalog : Catalog α) (key : String) : Catalog α :=
  ⟨catalog.items.filter fun item => Keyed.key item != key⟩

/- Records an item and lets the last record move to the place of the record under `old`, which goes. If the
item's key is new, the item itself is last, and so takes the old one's place. -/
def supersede (catalog : Catalog α) (old : String) (item : α) : Catalog α :=
  let items := (catalog.record item).items
  match items.getLast? with
  | none => ⟨items⟩
  | some last => ⟨(items.map fun other => if Keyed.key other == old then last else other).dropLast⟩

def keys (catalog : Catalog α) : List String := catalog.items.map Keyed.key

end Catalog

structure Aliases where
  pairs : List (String × String) := []
  deriving DecidableEq, Repr

namespace Aliases

def resolve (aliases : Aliases) (name : String) : String :=
  match aliases.pairs.find? fun pair => pair.1 == name with
  | some pair => pair.2
  | none => name

def forget (aliases : Aliases) (current : String) : Aliases :=
  ⟨aliases.pairs.filter fun pair => pair.2 != current⟩

def redirect (aliases : Aliases) (old new : String) : Aliases :=
  let moved := aliases.pairs.map fun pair => if pair.2 == old then (pair.1, new) else pair
  ⟨(old, new) :: moved.filter fun pair => pair.1 != old⟩

end Aliases

end AmqpClient
