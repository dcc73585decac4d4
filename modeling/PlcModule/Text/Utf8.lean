/-! Text kept in bytes. A byte sequence that is no text can still be shown: each longest
stretch of bytes that begins a character without completing it, and each byte that begins
none, is shown as one replacement character. -/
namespace PlcModule.Text

def replacement : Char := '\uFFFD'

/-- Takes `need` continuation bytes, the first of which lies in `low … high`, onto the value
read so far; answers the character and how many bytes it took. -/
def follow (need : Nat) (low high : UInt8) (value taken : Nat) : List UInt8 → Char × Nat
  | [] => (if need = 0 then Char.ofNat value else replacement, taken)
  | b :: rest =>
    if need = 0 then (Char.ofNat value, taken)
    else if low ≤ b && b ≤ high then
      follow (need - 1) 0x80 0xBF (value * 64 + (b.toNat - 0x80)) (taken + 1) rest
    else (replacement, taken)

/-- The character that begins with byte `b`, and how many of the bytes after it belong to it. -/
def readChar (b : UInt8) (rest : List UInt8) : Char × Nat :=
  if b < 0x80 then (Char.ofNat b.toNat, 0)
  else if b < 0xC2 then (replacement, 0)
  else if b < 0xE0 then follow 1 0x80 0xBF (b.toNat - 0xC0) 0 rest
  else if b < 0xF0 then
    let low := if b = 0xE0 then 0xA0 else 0x80
    let high := if b = 0xED then 0x9F else 0xBF
    follow 2 low high (b.toNat - 0xE0) 0 rest
  else if b < 0xF5 then
    let low := if b = 0xF0 then 0x90 else 0x80
    let high := if b = 0xF4 then 0x8F else 0xBF
    follow 3 low high (b.toNat - 0xF0) 0 rest
  else (replacement, 0)

/-- The characters of a byte sequence, of which the first `skip` bytes are already read. -/
def showBytes (skip : Nat) : List UInt8 → List Char
  | [] => []
  | b :: rest =>
    match skip with
    | k + 1 => showBytes k rest
    | 0 =>
      let (c, taken) := readChar b rest
      c :: showBytes taken rest

/-- The bytes as text, with a replacement character for what is no text. -/
def lossy (bytes : ByteArray) : String :=
  match String.fromUTF8? bytes with
  | some s => s
  | none => String.ofList (showBytes 0 bytes.data.toList)

theorem fromUTF8_toUTF8 (s : String) : String.fromUTF8? s.toUTF8 = some s := by
  rw [String.fromUTF8?, String.toUTF8_eq_toByteArray, dif_pos s.isValidUTF8]
  rfl

/-- What is text is shown as it is. -/
theorem lossy_toUTF8 (s : String) : lossy s.toUTF8 = s := by
  rw [lossy, fromUTF8_toUTF8]

end PlcModule.Text
