import PlcModule.Digest.Md5
import PlcModule.Text.Blank

/-! The digest of bytes. It is the same in however many pieces a hasher is fed, it comes of the whole
blocks of the padded bytes, and as a text it is thirty-two lowercase hexadecimal digits. -/
namespace PlcModule

namespace Digest

theorem absorb_short (s : State) {bytes : List UInt8} (short : bytes.drop 63 = []) :
    absorb s bytes = (s, bytes) := by
  rw [absorb]
  split
  · rfl
  · rename_i more
    rw [short] at more
    cases more

/-- What stands behind sixty-three bytes of a block is its last byte and the rest. -/
theorem drop_of_block {bytes rest : List UInt8} {b : UInt8} (more : bytes.drop 63 = b :: rest) :
    64 ≤ bytes.length ∧ rest = bytes.drop 64 := by
  have long := congrArg List.length more
  rw [List.length_drop, List.length_cons] at long
  refine ⟨by omega, ?_⟩
  have tail := congrArg (List.drop 1) more
  rw [List.drop_drop] at tail
  exact tail.symm

theorem absorb_block (s : State) {bytes rest : List UInt8} {b : UInt8}
    (more : bytes.drop 63 = b :: rest) (tail : List UInt8) :
    absorb s (bytes ++ tail) = absorb (compress s (bytes.take 64)) (rest ++ tail) := by
  have long : 63 < bytes.length := (drop_of_block more).1
  have behind : (bytes ++ tail).drop 63 = b :: (rest ++ tail) := by
    rw [List.drop_append_of_le_length (Nat.le_of_lt long), more, List.cons_append]
  have block : (bytes ++ tail).take 64 = bytes.take 64 := List.take_append_of_le_length long
  rw [absorb]
  split
  · rename_i none
    rw [behind] at none
    cases none
  · rename_i c after found
    rw [behind] at found
    cases found
    rw [block]

/-- Bytes that did not fill a block can wait for those that follow. -/
theorem absorb_append (s : State) (xs ys : List UInt8) :
    absorb s (xs ++ ys) = absorb (absorb s xs).1 ((absorb s xs).2 ++ ys) := by
  induction s, xs using absorb.induct with
  | case1 s xs short => rw [absorb_short s short]
  | case2 s xs b rest more ih =>
    have alone := absorb_block s more []
    rw [List.append_nil, List.append_nil] at alone
    rw [absorb_block s more ys, alone, ih]

namespace Hasher

theorem feed_feed (h : Hasher) (xs ys : List UInt8) : (h.feed xs).feed ys = h.feed (xs ++ ys) := by
  simp only [feed]
  rw [← List.append_assoc, absorb_append h.state (h.pending ++ xs) ys, List.length_append,
    Nat.add_assoc]

theorem start_feed_nil : start.feed [] = start := by
  simp [feed, start, absorb_short]

theorem foldl_feed (xs : List UInt8) (pieces : List (List UInt8)) :
    pieces.foldl feed (start.feed xs) = start.feed (xs ++ pieces.flatten) := by
  induction pieces generalizing xs with
  | nil => rw [List.foldl_nil, List.flatten_nil, List.append_nil]
  | cons piece pieces ih =>
    rw [List.foldl_cons, feed_feed, ih, List.flatten_cons, List.append_assoc]

end Hasher

/-- The whole blocks of the bytes, in order. -/
def blocks (bytes : List UInt8) : List (List UInt8) :=
  (List.range (bytes.length / 64)).map fun i => (bytes.drop (64 * i)).take 64

theorem blocks_short {bytes : List UInt8} (short : bytes.length < 64) : blocks bytes = [] := by
  rw [blocks, Nat.div_eq_of_lt short, List.range_zero, List.map_nil]

theorem blocks_long {bytes : List UInt8} (long : 64 ≤ bytes.length) :
    blocks bytes = bytes.take 64 :: blocks (bytes.drop 64) := by
  have count : bytes.length / 64 = (bytes.length - 64) / 64 + 1 := by omega
  rw [blocks, blocks, count, List.range_succ_eq_map, List.length_drop, List.map_cons, List.map_map]
  simp only [Function.comp_def, List.drop_drop, Nat.mul_zero, List.drop_zero, Nat.mul_succ,
    Nat.add_comm 64]

theorem flatten_blocks {bytes : List UInt8} (whole : bytes.length % 64 = 0) :
    (blocks bytes).flatten = bytes := by
  by_cases short : bytes.length < 64
  · have empty : bytes = [] := List.length_eq_zero_iff.mp (by omega)
    rw [blocks_short short, empty, List.flatten_nil]
  · have long : 64 ≤ bytes.length := by omega
    have rest : (bytes.drop 64).length % 64 = 0 := by
      rw [List.length_drop]
      omega
    rw [blocks_long long, List.flatten_cons, flatten_blocks rest, List.take_append_drop]
termination_by bytes.length
decreasing_by
  rw [List.length_drop]
  omega

/-- Each whole block is taken once and in order. What is left over does not fill a block. -/
theorem absorb_eq (s : State) (bytes : List UInt8) :
    absorb s bytes = ((blocks bytes).foldl compress s, bytes.drop (bytes.length / 64 * 64)) := by
  induction s, bytes using absorb.induct with
  | case1 s bytes short =>
    have few : bytes.length < 64 := by
      have := List.drop_eq_nil_iff.mp short
      omega
    rw [absorb_short s short, blocks_short few, Nat.div_eq_of_lt few]
    rfl
  | case2 s bytes b rest more ih =>
    obtain ⟨long, rfl⟩ := drop_of_block more
    have step := absorb_block s more []
    rw [List.append_nil, List.append_nil] at step
    have behind : 64 + (bytes.length - 64) / 64 * 64 = bytes.length / 64 * 64 := by omega
    rw [step, ih, blocks_long long, List.foldl_cons, List.length_drop, List.drop_drop, behind]

def padded (bytes : List UInt8) : List UInt8 :=
  bytes ++ padding bytes.length

theorem length_padded (bytes : List UInt8) : (padded bytes).length % 64 = 0 := by
  simp only [padded, padding, littleEndian, List.length_append, List.length_cons,
    List.length_replicate, List.length_map, List.length_range]
  omega

/-- The padding leaves no block unfilled: the digest comes of all the padded bytes, block by
block. -/
theorem md5_eq_blocks (bytes : List UInt8) :
    (blocks (padded bytes)).flatten = padded bytes ∧
      md5 bytes = hex ((blocks (padded bytes)).foldl compress State.start).bytes := by
  refine ⟨flatten_blocks (length_padded bytes), ?_⟩
  have waited : absorb State.start (padded bytes) =
      absorb (absorb State.start bytes).1 ((absorb State.start bytes).2 ++ padding bytes.length) :=
    absorb_append State.start bytes _
  have taken := congrArg Prod.fst ((absorb_eq State.start (padded bytes)).symm.trans waited)
  simp only [md5, Hasher.finish, Hasher.feed, Hasher.start, List.nil_append, Nat.zero_add]
  rw [← taken]

example : md5 "hello world".toUTF8.data.toList = "5eb63bbbe01eeed093cb22bb8f5acdc3" := by cbv

def hexDigits : List Char :=
  "0123456789abcdef".toList

theorem hexDigit_mem {n : Nat} (small : n < 16) : hexDigit n ∈ hexDigits := by
  have all : ∀ n : Fin 16, hexDigit n ∈ hexDigits := by decide
  exact all ⟨n, small⟩

theorem hexByte_mem {b : UInt8} {c : Char} (h : c ∈ hexByte b) : c ∈ hexDigits := by
  have small := b.toNat_lt
  simp only [hexByte, List.mem_cons, List.not_mem_nil, or_false] at h
  rcases h with rfl | rfl
  · exact hexDigit_mem (by omega)
  · exact hexDigit_mem (by omega)

theorem length_hex (bytes : List UInt8) : (hex bytes).toList.length = 2 * bytes.length := by
  simp only [hex, String.toList_ofList]
  induction bytes with
  | nil => rfl
  | cons b rest ih =>
    rw [List.flatMap_cons, List.length_append, ih, List.length_cons]
    simp only [hexByte, List.length_cons, List.length_nil]
    omega

theorem length_bytes (s : State) : s.bytes.length = 16 := by
  simp [State.bytes, littleEndian]

/-- A text of thirty-two lowercase hexadecimal digits. -/
def IsHexDigest (h : String) : Prop :=
  h.toList.length = 32 ∧ ∀ c ∈ h.toList, c ∈ hexDigits

theorem md5_isHexDigest (bytes : List UInt8) : IsHexDigest (md5 bytes) := by
  refine ⟨?_, fun c member => ?_⟩
  · rw [md5, Hasher.finish, length_hex, length_bytes]
  · rw [md5, Hasher.finish, hex, String.toList_ofList] at member
    obtain ⟨b, _, digit⟩ := List.mem_flatMap.mp member
    exact hexByte_mem digit

end Digest

namespace Text

theorem dropBlank_eq_self {cs : List Char} (h : ∀ c ∈ cs, isBlank c = false) : dropBlank cs = cs := by
  cases cs with
  | nil => rfl
  | cons c cs =>
    have first : isBlank c = false := h c (by simp)
    simp [dropBlank, first]

theorem trim_eq_self {s : String} (h : ∀ c ∈ s.toList, isBlank c = false) : trim s = s := by
  have reversed : ∀ c ∈ s.toList.reverse, isBlank c = false := fun c at_ => h c (by simpa using at_)
  simp [trim, dropBlankEnd, dropBlank_eq_self h, dropBlank_eq_self reversed]

end Text

namespace Digest.IsHexDigest

variable {h : String}

theorem not_blank (digest : IsHexDigest h) {c : Char} (at_ : c ∈ h.toList) :
    Text.isBlank c = false := by
  have all : hexDigits.all (fun c => !Text.isBlank c) = true := by decide
  simpa using List.all_eq_true.mp all c (digest.2 c at_)

theorem trim_eq (digest : IsHexDigest h) : Text.trim h = h :=
  Text.trim_eq_self fun _ at_ => digest.not_blank at_

theorem not_isBlankText (digest : IsHexDigest h) : Text.isBlankText h = false := by
  have filled : h.toList ≠ [] := by
    intro empty
    have := digest.1
    simp [empty] at this
  obtain ⟨c, rest, eq⟩ := List.exists_cons_of_ne_nil filled
  have first := digest.not_blank (c := c) (by simp [eq])
  simp [Text.isBlankText, eq, first]

end Digest.IsHexDigest
end PlcModule
