import Mathlib.Algebra.BigOperators.Group.List.Basic
import Mathlib.Algebra.Order.BigOperators.Group.List
import PlcModule.Digest.Reading
import PlcModule.Proofs.Digest.Md5

/-! The digest of a file is that of its bytes, whatever number of them each read brings. -/
namespace PlcModule.Digest

theorem Buffer.take_overwrite (buffer : Buffer) {piece : List UInt8}
    (fits : piece.length ≤ bufferSize) :
    (buffer.overwrite piece fits).bytes.take piece.length = piece :=
  List.take_left

namespace Reader

section

variable {σ η : Type} (reader : Reader σ) {feed : η → List UInt8 → η} {held : η} {buffer : Buffer}
  {s : σ}

theorem drain_done (done : (reader.read s).1 = []) : reader.drain feed held buffer s = held := by
  rw [drain]
  exact dif_pos (List.length_eq_zero_iff.mpr done)

/-- Of what the buffer held before nothing is fed. -/
theorem drain_more (more : (reader.read s).1 ≠ []) :
    reader.drain feed held buffer s =
      reader.drain feed (feed held (reader.read s).1)
        (buffer.overwrite (reader.read s).1 (reader.length_read s)) (reader.read s).2 := by
  rw [drain]
  refine (dif_neg (mt List.length_eq_zero_iff.mp more)).trans ?_
  simp only [Buffer.take_overwrite]

/-- What the reads bring, one after another, up to the one that brings nothing. -/
def reads (reader : Reader σ) (s : σ) : List (List UInt8) :=
  if _done : (reader.read s).1 = [] then []
  else (reader.read s).1 :: reader.reads (reader.read s).2
termination_by (reader.left s).length
decreasing_by exact reader.length_left_lt _done

theorem reads_done (done : (reader.read s).1 = []) : reader.reads s = [] := by
  rw [reads, dif_pos done]

theorem reads_more (more : (reader.read s).1 ≠ []) :
    reader.reads s = (reader.read s).1 :: reader.reads (reader.read s).2 := by
  rw [reads, dif_neg more]

theorem drain_eq_foldl (held : η) (buffer : Buffer) (s : σ) :
    reader.drain feed held buffer s = (reader.reads s).foldl feed held := by
  induction s using reads.induct reader generalizing held buffer with
  | case1 s done => rw [drain_done reader done, reads_done reader done, List.foldl_nil]
  | case2 s more ih => rw [drain_more reader more, reads_more reader more, List.foldl_cons, ih]

theorem flatten_reads (s : σ) : (reader.reads s).flatten = reader.left s := by
  induction s using reads.induct reader with
  | case1 s done => rw [reads_done reader done, reader.left_nil s done, List.flatten_nil]
  | case2 s more ih => rw [reads_more reader more, List.flatten_cons, ih, ← reader.left_eq s]

theorem mem_reads {piece : List UInt8} (member : piece ∈ reader.reads s) :
    piece ≠ [] ∧ piece.length ≤ bufferSize := by
  induction s using reads.induct reader with
  | case1 s done => simp [reads_done reader done] at member
  | case2 s more ih =>
    rw [reads_more reader more, List.mem_cons] at member
    rcases member with rfl | later
    · exact ⟨more, reader.length_read s⟩
    · exact ih later

theorem length_reads_le (s : σ) : (reader.reads s).length ≤ (reader.left s).length := by
  have filled : ∀ count ∈ (reader.reads s).map List.length, 1 ≤ count := by
    simp only [List.forall_mem_map]
    exact fun piece member => List.length_pos_iff.mpr (reader.mem_reads member).1
  have most := List.length_le_sum_of_one_le _ filled
  rwa [List.length_map, ← List.length_flatten, flatten_reads] at most

/-- The digest does not depend on how the bytes come, nor on what the buffer held at first. -/
theorem finish_drain (buffer : Buffer) (s : σ) :
    (reader.drain Hasher.feed Hasher.start buffer s).finish = md5 (reader.left s) := by
  rw [drain_eq_foldl, ← Hasher.start_feed_nil, Hasher.foldl_feed, flatten_reads, List.nil_append,
    md5]

/-- The pieces that the loop feeds, in order, as a feed sees them that only keeps them. -/
def fed (reader : Reader σ) (s : σ) : List (List UInt8) :=
  reader.drain (fun log piece => log ++ [piece]) [] Buffer.zeros s

theorem fed_eq_reads (s : σ) : reader.fed s = reader.reads s := by
  rw [fed, drain_eq_foldl, List.foldl_append_eq_append, List.nil_append, ← List.flatMap_def,
    List.flatMap_singleton']

end

/-- Every byte that is left is fed once and in order, in just the pieces that the reads bring,
whatever else the buffer holds. The loop ends after at most one read for each byte and one more, and
its digest is that of the bytes taken at once. -/
theorem digest_eq_md5 {σ : Type} (reader : Reader σ) (s : σ) :
    reader.digest s = md5 (reader.left s) ∧ IsHexDigest (reader.digest s) ∧
      reader.fed s = reader.reads s ∧ (reader.reads s).flatten = reader.left s ∧
      (reader.reads s).length ≤ (reader.left s).length := by
  have whole : reader.digest s = md5 (reader.left s) := reader.finish_drain Buffer.zeros s
  have spelled : IsHexDigest (reader.digest s) := whole ▸ md5_isHexDigest (reader.left s)
  exact ⟨whole, spelled, reader.fed_eq_reads s, reader.flatten_reads s, reader.length_reads_le s⟩

/-- A cut of bytes into pieces that reads can bring. -/
def Cut : Type :=
  { pieces : List (List UInt8) // ∀ piece ∈ pieces, piece ≠ [] ∧ piece.length ≤ bufferSize }

/-- Brings the pieces of a cut one by one. -/
def piecewise : Reader Cut where
  read
    | ⟨[], _⟩ => ([], ⟨[], by simp⟩)
    | ⟨piece :: pieces, each⟩ => (piece, ⟨pieces, (List.forall_mem_cons.mp each).2⟩)
  left cut := cut.val.flatten
  left_eq
    | ⟨[], _⟩ => rfl
    | ⟨_ :: _, _⟩ => rfl
  length_read
    | ⟨[], _⟩ => Nat.zero_le _
    | ⟨_ :: _, each⟩ => (List.forall_mem_cons.mp each).1.2
  left_nil
    | ⟨[], _⟩, _ => rfl
    | ⟨_ :: _, each⟩, done => absurd done (List.forall_mem_cons.mp each).1.1

/-- There is no cut that reads cannot bring. -/
theorem reads_piecewise (cut : Cut) : piecewise.reads cut = cut.val := by
  obtain ⟨pieces, each⟩ := cut
  induction pieces with
  | nil => exact reads_done piecewise rfl
  | cons piece pieces ih =>
    have more : (piecewise.read ⟨piece :: pieces, each⟩).1 ≠ [] := (List.forall_mem_cons.mp each).1.1
    rw [reads_more piecewise more]
    exact congrArg (piece :: ·) (ih _)

end Reader

theorem md5OfFile_eq (content : ByteArray) : md5OfFile content = md5 content.data.toList :=
  Reader.full.finish_drain Buffer.zeros content.data.toList

end PlcModule.Digest
