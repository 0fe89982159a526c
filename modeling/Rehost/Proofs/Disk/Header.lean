import Mathlib
import Rehost.Disk
import Rehost.Host.FileSystem
/-!
# Reading an image header in pieces

The system may answer a read with fewer bytes than were asked for. A file
holding the bytes `c` is `splitRead c split`: a read of `n` bytes at offset
`off` answers the next `split off n` bytes of the file, fewer at its end and
none past it, and counts itself. `SplitsReads split` says the split is one the
system may make: a read of at least one byte answers at least one byte and at
most as many as asked. Detection reads at offsets that only grow, and asks at
each for the bytes still missing, so a split chosen per offset is any way of
cutting its reads.

Main statements: whatever the split, the header read is the first four bytes
of the file, or the whole file when it is shorter (`readHeader_split`), so
detection answers qcow2 exactly when the file starts with the qcow2 magic, and
it does so after at most one read per header byte (`detect_split`).
-/

namespace Rehost.DiskFormat

open Host

/-- A file holding `c` whose reads the system answers in pieces: a read of `n`
    bytes at `off` answers the next `split off n` bytes. The state counts reads. -/
def splitRead (c : List UInt8) (split : Nat → Nat → Nat) (off n : Nat) :
    StateM Nat (Except IoError (List UInt8)) :=
  modifyGet fun k => (.ok ((c.drop off).take (split off n)), k + 1)

/-- A split the system may make: a read of at least one byte answers at least
    one byte and at most as many as asked. -/
def SplitsReads (split : Nat → Nat → Nat) : Prop :=
  ∀ off n, 0 < n → 0 < split off n ∧ split off n ≤ n

variable {c : List UInt8} {split : Nat → Nat → Nat}

@[simp] theorem splitRead_run (off n k : Nat) :
    (splitRead c split off n).run k = (.ok ((c.drop off).take (split off n)), k + 1) := rfl

/-- The magic is read off the first four bytes as well as off the whole file. -/
theorem ofHeader_take (c : List UInt8) :
    ofHeader (c.take headerLength) = if qcow2Magic <+: c then .qcow2 else .raw := by
  have hlen : qcow2Magic.length ≤ headerLength := by decide
  simp only [ofHeader, List.isPrefixOf_iff_prefix, List.prefix_take_iff, hlen, and_true]

/-- Bytes that open the file, followed by the next piece of it, still open it. -/
theorem prefix_append_next {got : List UInt8} (h : got <+: c) (s : Nat) :
    got ++ (c.drop got.length).take s <+: c := by
  obtain ⟨rest, rfl⟩ := h
  rw [List.drop_left, List.prefix_append_right_inj]
  exact List.take_prefix s rest

/-- One round below a full header: the read answers the next piece of the
    file; nothing ends the header, anything else is added to it. -/
theorem readHeader_round (got : List UInt8) (k : Nat) (hlt : got.length < headerLength) :
    (readHeader (splitRead c split) got).run k =
      match (c.drop got.length).take (split got.length (headerLength - got.length)) with
      | [] => (.ok got, k + 1)
      | b :: bs => (readHeader (splitRead c split) (got ++ b :: bs)).run (k + 1) := by
  rw [readHeader, if_pos hlt, StateT.run_bind, splitRead_run]
  cases (c.drop got.length).take (split got.length (headerLength - got.length)) <;> rfl

/-- Whatever the split, the header read after a prefix of the file is the
    file's first four bytes, and each read still to come brings a byte of them,
    but for the one that finds the end of a shorter file. -/
theorem readHeader_split (hsplit : SplitsReads split) (got : List UInt8) (k : Nat)
    (hgot : got <+: c) (hlen : got.length ≤ headerLength) :
    ∃ k', (readHeader (splitRead c split) got).run k = (.ok (c.take headerLength), k') ∧
      k' ≤ k + (headerLength - got.length) := by
  -- the induction follows the rounds of the loop, each adding a non-empty piece
  induction got using readHeader.induct generalizing k with
  | case1 got hlt ih =>
    obtain ⟨hpos, hle⟩ := hsplit got.length (headerLength - got.length) (by omega)
    rw [readHeader_round got k hlt]
    have hnext := prefix_append_next hgot (split got.length (headerLength - got.length))
    split
    · next hnil =>
      -- nothing more: the file ends before the header does, and was read whole
      have hend : c.length ≤ got.length := by
        rcases List.take_eq_nil_iff.mp hnil with h | h
        · omega
        · exact List.drop_eq_nil_iff.mp h
      have hall : got = c := hgot.eq_of_length (le_antisymm hgot.length_le hend)
      subst hall
      exact ⟨k + 1, by rw [List.take_of_length_le (by omega)], by omega⟩
    · next b bs hpiece =>
      rw [hpiece] at hnext
      have hpieceLen : (b :: bs).length ≤ headerLength - got.length := by
        rw [← hpiece]
        exact (List.length_take_le _ _).trans hle
      obtain ⟨k', hrun, hk'⟩ := ih b bs (k + 1) hnext (by simp only [List.length_append] at hpieceLen ⊢; omega)
      refine ⟨k', hrun, ?_⟩
      simp only [List.length_append, List.length_cons] at hk' hpieceLen
      omega
  | case2 got hge =>
    -- a full header: it is the first four bytes
    have hfull : got.length = headerLength := by omega
    refine ⟨k, ?_, by omega⟩
    rw [readHeader, if_neg hge, ← hfull, ← List.prefix_iff_eq_take.mp hgot]
    rfl

/-- Whatever way the system splits the reads, detection answers qcow2 exactly
    when the file starts with the qcow2 magic, and raw otherwise, shorter files
    included, after at most one read per header byte. -/
theorem detect_split (c : List UInt8) (split : Nat → Nat → Nat) (hsplit : SplitsReads split) :
    ∃ reads ≤ headerLength, (detect (splitRead c split)).run 0 =
      (.ok (if qcow2Magic <+: c then .qcow2 else .raw), reads) := by
  obtain ⟨reads, hrun, hreads⟩ :=
    readHeader_split hsplit [] 0 (List.nil_prefix) (Nat.zero_le _)
  refine ⟨reads, by simpa using hreads, ?_⟩
  rw [detect, StateT.run_bind, hrun, ← ofHeader_take]
  rfl

/-- A qcow2 image read one byte at a time is still qcow2. -/
theorem detect_byte_by_byte :
    SplitsReads (fun _ _ => 1) ∧ ∃ reads ≤ headerLength,
      (detect (splitRead [0x51, 0x46, 0x49, 0xfb, 0, 0, 0, 3] fun _ _ => 1)).run 0 =
        (.ok (if qcow2Magic <+: [0x51, 0x46, 0x49, 0xfb, 0, 0, 0, 3] then .qcow2 else .raw), reads) :=
  ⟨fun _ _ h => ⟨Nat.one_pos, h⟩, detect_split _ _ fun _ _ h => ⟨Nat.one_pos, h⟩⟩

end Rehost.DiskFormat
