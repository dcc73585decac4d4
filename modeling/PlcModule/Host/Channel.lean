import PlcModule.FileTree.Operations
import PlcModule.Host.Octets

/-! What programs read from and write to. The channels that are open are kept by number; programs
that were started from one another share them, so what one of them has read is read for all. -/
namespace PlcModule.Host

/-- How a run of a program ends. -/
inductive Status where
  | exited (code : Nat)
  | killed (signal : Nat)
  deriving DecidableEq, Repr, Inhabited

def Status.code : Status → Nat
  | exited n => n
  | killed signal => 128 + signal

inductive Channel where
  /-- Holds nothing and keeps nothing. -/
  | sink
  /-- Gives zeros without end, and takes nothing if it is full. -/
  | zeros (full : Bool)
  /-- Only to be read. -/
  | source (left : List Char)
  /-- What is to be read yet, and what was written after it, the last first. With room for so many
  bytes, a writer that fills it is taken to have lost its reader. -/
  | pipe (left : List Char) (written : List String) (room : Option Nat)
  /-- A file that is written from an offset on, or always at its end. -/
  | file (route : Route) (offset : Nat) (append readable : Bool)
  deriving Inhabited

/-- Why something cannot be written. -/
inductive WriteFault where
  | error (reason : Errno)
  /-- Nobody reads what is written. -/
  | unread
  deriving DecidableEq, Repr

/-- What all programs on a host have in common. -/
structure Machine where
  tree : FileTree
  channels : Array Channel
  /-- Signals that were sent to processes and did not reach them yet. -/
  signals : List (Nat × Nat)
  nextProcess : Nat

namespace Machine

def open_ (m : Machine) (c : Channel) : Machine × Nat :=
  ({ m with channels := m.channels.push c }, m.channels.size)

def channel (m : Machine) (n : Nat) : Channel :=
  m.channels.getD n .sink

def setChannel (m : Machine) (n : Nat) (c : Channel) : Machine :=
  { m with channels := m.channels.setIfInBounds n c }

/-- How much of what never ends is read at a time. -/
def endless : Nat := 131072

def bytesFrom (content : ByteArray) (offset : Nat) : List Char :=
  (Octets.ofBytes (content.extract offset content.size)).toList

/-- A file's bytes after some were written over those from an offset on. -/
def overwrite (content : ByteArray) (offset : Nat) (bytes : ByteArray) : ByteArray :=
  let front := content.extract 0 offset
  let gap : ByteArray := ⟨Array.replicate (offset - content.size) 0⟩
  front ++ gap ++ bytes ++ content.extract (offset + bytes.size) content.size

/-- Writes to a channel. -/
def write (m : Machine) (n : Nat) (text : String) : Machine × Option WriteFault :=
  match m.channel n with
  | .sink => (m, none)
  | .zeros full => (m, if full && text ≠ "" then some (.error .noSpace) else none)
  | .source _ => (m, some (.error (.other 9)))
  | .pipe left written room =>
    match room with
    | none => (m.setChannel n (.pipe left (text :: written) none), none)
    | some k =>
      if text.length < k then
        (m.setChannel n (.pipe left (text :: written) (some (k - text.length))), none)
      else
        let part := String.ofList (text.toList.take k)
        (m.setChannel n (.pipe left (part :: written) (some 0)), some .unread)
  | .file route offset append readable =>
    let bytes := Octets.toBytes text
    match m.tree.find? route with
    | some (.file content executable) =>
      let at_ := if append then content.size else offset
      let tree :=
        if bytes.isEmpty then m.tree
        else m.tree.put route (.file (overwrite content at_ bytes) executable)
      ({ m with tree }.setChannel n (.file route (at_ + bytes.size) append readable), none)
    | _ => (m, none)

/-- What is left to be read from a channel. -/
def unread (m : Machine) (n : Nat) : Except Errno (List Char) :=
  match m.channel n with
  | .sink => .ok []
  | .zeros _ => .ok (List.replicate endless '\x00')
  | .source left => .ok left
  | .pipe left written _ => .ok (left ++ (String.join written.reverse).toList)
  | .file route offset _ readable =>
    if !readable then .error (.other 9)
    else match m.tree.find? route with
      | some (.file content _) => .ok (bytesFrom content offset)
      | some .directory => .error .isADirectory
      | _ => .ok []

/-- Leaves what is left to be read after something was read. -/
def leave (m : Machine) (n : Nat) (taken : Nat) (left : List Char) : Machine :=
  match m.channel n with
  | .source _ => m.setChannel n (.source left)
  | .pipe _ _ room => m.setChannel n (.pipe left [] room)
  | .file route offset append readable =>
    m.setChannel n (.file route (offset + taken) append readable)
  | _ => m

/-- Reads as much as a reader wants of what is left. The reader says what it leaves. -/
def read {α : Type} (m : Machine) (n : Nat) (reader : List Char → α × List Char) :
    Except Errno (α × Machine) := do
  let before ← m.unread n
  let (a, left) := reader before
  .ok (a, m.leave n (before.length - left.length) left)

/-- The next byte of a channel, unless there is none. -/
def readByte (m : Machine) (n : Nat) : Option (Char × Machine) :=
  match m.channel n with
  | .zeros _ => some ('\x00', m)
  | .sink => none
  | .file route offset append readable =>
    if !readable then none
    else match m.tree.find? route with
      | some (.file content _) =>
        if offset < content.size then
          some (Char.ofNat (content.get! offset).toNat,
            m.setChannel n (.file route (offset + 1) append readable))
        else none
      | _ => none
  | .source left =>
    match left with
    | c :: rest => some (c, m.setChannel n (.source rest))
    | [] => none
  | .pipe left written room =>
    match left with
    | c :: rest => some (c, m.setChannel n (.pipe rest written room))
    | [] =>
      match (String.join written.reverse).toList with
      | c :: rest => some (c, m.setChannel n (.pipe rest [] room))
      | [] => none

def readAll (m : Machine) (n : Nat) : Except Errno (String × Machine) :=
  m.read n fun cs => (String.ofList cs, [])

def send (m : Machine) (process signal : Nat) : Machine :=
  { m with signals := m.signals ++ [(process, signal)] }

end Machine

/-- Which channel stands behind each descriptor of a process. -/
abbrev Descriptors := List (Nat × Nat)

namespace Descriptors

def set (d : Descriptors) (descriptor channel : Nat) : Descriptors :=
  (descriptor, channel) :: d.filter fun x => x.1 ≠ descriptor

def close (d : Descriptors) (descriptor : Nat) : Descriptors :=
  d.filter fun x => x.1 ≠ descriptor

end Descriptors
end PlcModule.Host
