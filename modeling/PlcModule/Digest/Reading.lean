import PlcModule.Digest.Md5

/-! Digests of files. A file is read into one buffer, over and over, until a read brings nothing;
what each read brought is fed to the hasher from there. -/
namespace PlcModule.Digest

/-- How many bytes a read brings at most. -/
def bufferSize : Nat := 8192

/-- Where bytes are read from. A read brings some of the bytes that are left, from the front and no
more than the buffer holds; how many is the reader's choice, but it brings none only at the end. -/
structure Reader (σ : Type) where
  read : σ → List UInt8 × σ
  left : σ → List UInt8
  left_eq : ∀ s, left s = (read s).1 ++ left (read s).2
  length_read : ∀ s, (read s).1.length ≤ bufferSize
  left_nil : ∀ s, (read s).1 = [] → left s = []

structure Buffer where
  bytes : List UInt8
  length_bytes : bytes.length = bufferSize

namespace Buffer

def zeros : Buffer :=
  ⟨List.replicate bufferSize 0, List.length_replicate⟩

/-- A read overwrites the front and leaves the rest as the reads before left it. -/
def overwrite (buffer : Buffer) (piece : List UInt8) (fits : piece.length ≤ bufferSize) : Buffer where
  bytes := piece ++ buffer.bytes.drop piece.length
  length_bytes := by
    rw [List.length_append, List.length_drop, buffer.length_bytes]
    omega

end Buffer

namespace Reader

variable {σ η : Type}

/-- A read that brings something takes it from what is left. -/
theorem length_left_lt (reader : Reader σ) {s : σ} (more : (reader.read s).1 ≠ []) :
    (reader.left (reader.read s).2).length < (reader.left s).length := by
  rw [reader.left_eq s, List.length_append]
  exact Nat.lt_add_of_pos_left (List.length_pos_iff.mpr more)

/-- Reads into the buffer and feeds from it what the read brought, until a read brings nothing. No
read before that one leaves as much as there was, so the loop ends. -/
def drain (reader : Reader σ) (feed : η → List UInt8 → η) (held : η) (buffer : Buffer) (s : σ) : η :=
  let brought := reader.read s
  let count := brought.1.length
  if _done : count = 0 then held
  else
    let buffer := buffer.overwrite brought.1 (reader.length_read s)
    reader.drain feed (feed held (buffer.bytes.take count)) buffer brought.2
termination_by (reader.left s).length
decreasing_by exact reader.length_left_lt (mt List.length_eq_zero_iff.mpr _done)

/-- The digest of all that is left to read. -/
def digest (reader : Reader σ) (s : σ) : String :=
  (reader.drain Hasher.feed Hasher.start Buffer.zeros s).finish

/-- Fills the buffer with each read, as long as there are bytes to fill it. -/
def full : Reader (List UInt8) where
  read bytes := (bytes.take bufferSize, bytes.drop bufferSize)
  left bytes := bytes
  left_eq bytes := (List.take_append_drop bufferSize bytes).symm
  length_read := List.length_take_le bufferSize
  left_nil bytes := by simp [bufferSize]

end Reader

/-- The digest of a file's bytes, which are read one buffer at a time. -/
def md5OfFile (content : ByteArray) : String :=
  Reader.full.digest content.data.toList

end PlcModule.Digest
