import AmqpClient.Error

/-! Bodies kept in files. A buffer writes a body into a fresh file, a reader reads it back from the start;
the file lives exactly as long as the buffer or the reader that holds it. -/
namespace AmqpClient

structure SpillOptions where
  threshold : UInt64 := 131072
  directory : Bool := true
  deriving DecidableEq, Repr

structure SpillBuffer where
  written : Bytes := []
  deriving DecidableEq, Repr

structure SpillReader where
  length : Nat
  rest : Bytes
  deriving DecidableEq, Repr

namespace SpillOptions

def spills (options : SpillOptions) (size : UInt64) : Bool := decide (options.threshold < size)

def create (options : SpillOptions) : Except Error SpillBuffer :=
  if options.directory then .ok {} else .error (.spillBuffer ⟨.notFound, ""⟩)

end SpillOptions

namespace SpillBuffer

def length (buffer : SpillBuffer) : Nat := buffer.written.length

def append (buffer : SpillBuffer) (bytes : Bytes) : SpillBuffer := ⟨buffer.written ++ bytes⟩

def reader (buffer : SpillBuffer) : SpillReader := ⟨buffer.length, buffer.written⟩

end SpillBuffer

namespace SpillReader

def read (room : Nat) (reader : SpillReader) : Bytes × SpillReader :=
  (reader.rest.take room, { reader with rest := reader.rest.drop room })

end SpillReader

end AmqpClient
