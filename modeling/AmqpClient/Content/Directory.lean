import AmqpClient.Content.Body

/-! The directory that bodies are written to. A file is created under a name that none had before, belongs to
the one value that it was created for, and goes when that value is let go of. -/
namespace AmqpClient

structure FileName where
  number : Nat
  deriving DecidableEq, Repr

structure Directory where
  files : List FileName
  created : Nat
  known : ∀ file ∈ files, file.number < created
  distinct : files.Nodup

namespace Directory

def empty : Directory where
  files := []
  created := 0
  known := List.forall_mem_nil _
  distinct := List.nodup_nil

instance : Inhabited Directory := ⟨empty⟩

def newName (directory : Directory) : FileName := ⟨directory.created⟩

theorem newNameFresh (directory : Directory) : directory.newName ∉ directory.files :=
  fun member => Nat.lt_irrefl _ (directory.known _ member)

def create (directory : Directory) : Directory where
  files := directory.newName :: directory.files
  created := directory.created + 1
  known file member := by
    rcases List.mem_cons.mp member with rfl | member
    · exact Nat.lt_succ_self _
    · exact Nat.lt_succ_of_lt (directory.known file member)
  distinct := List.nodup_cons.mpr ⟨directory.newNameFresh, directory.distinct⟩

def remove (name : FileName) (directory : Directory) : Directory where
  files := directory.files.filter (· != name)
  created := directory.created
  known file member := directory.known file (List.mem_filter.mp member).1
  distinct := directory.distinct.filter _

def letGo (file : Option FileName) (directory : Directory) : Directory :=
  match file with
  | some name => directory.remove name
  | none => directory

end Directory

structure Handed where
  body : ContentBody
  file : Option FileName := none

end AmqpClient
