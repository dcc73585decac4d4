import PlcModule.Path
import PlcModule.Text.Utf8

/-! Text as the programs of a host see it: a sequence of bytes. A byte is held as the character
of its number, so a text of ASCII characters is held as it is. -/
namespace PlcModule.Host.Octets

def isAscii (s : String) : Bool :=
  s.toList.all fun c => decide (c.toNat < 128)

def ofBytes (bytes : ByteArray) : String :=
  String.ofList (bytes.data.toList.map fun b => Char.ofNat b.toNat)

def toBytes (s : String) : ByteArray :=
  ⟨(s.toList.map fun c => UInt8.ofNat c.toNat).toArray⟩

/-- The bytes of a text. -/
def encode (s : String) : String :=
  if isAscii s then s else ofBytes s.toUTF8

/-- The text that bytes are shown as. -/
def decode (s : String) : String :=
  if isAscii s then s else Text.lossy (toBytes s)

/-- Whether a character is one of those in a text. -/
def isOneOf (s : String) (c : Char) : Bool :=
  s.contains c

def path (s : String) : Path :=
  ⟨decode s⟩

end PlcModule.Host.Octets
