import Rehost.Path
import Rehost.Text.Basic
/-!
# Partitions and the choice of the root one

A partition holds a root file system when its type is one a Linux root uses
(ext4, xfs, btrfs, ext3). It is a boot partition when its label or
partition label mentions `boot` or `efi`, in any ASCII case.

`selectRoot` takes the first partition with a root file system that is not a
boot partition; failing that, the largest, the earliest among equals.
-/

namespace Rehost

/-- What a probe tells of a partition. -/
structure Partition where
  device : Path
  sizeBlocks : Nat
  fsType : Option String := none
  label : Option String := none
  partLabel : Option String := none
  deriving DecidableEq, Repr, Inhabited

namespace Partition

/-- File system types a root may have. -/
def rootFilesystems : List String := ["ext4", "xfs", "btrfs", "ext3"]

/-- Words that mark a boot partition. -/
def bootMarkers : List String := ["boot", "efi"]

/-- Whether the partition holds a root file system type. -/
def hasRootFilesystem (p : Partition) : Bool :=
  match p.fsType with
  | some t => rootFilesystems.contains t
  | none => false

/-- Whether a label marks the partition as a boot partition. -/
def isBoot (p : Partition) : Bool :=
  ([p.label, p.partLabel].filterMap id).any fun l =>
    let l := Text.asciiLower l
    bootMarkers.any (Text.containsText l)

/-- The position of the largest partition; the earliest among equals. -/
def largest : List Partition → Option Nat
  | [] => none
  | p :: ps =>
    let step (best : Nat × Nat) (q : Partition × Nat) : Nat × Nat :=
      if q.1.sizeBlocks > best.2 then (q.2, q.1.sizeBlocks) else best
    some (((ps.zip (List.range' 1 ps.length)).foldl step (0, p.sizeBlocks)).1)

/-- The position of the partition that holds the root. -/
def selectRoot (ps : List Partition) : Option Nat :=
  match ps.findIdx? (fun p => p.hasRootFilesystem && !p.isBoot) with
  | some i => some i
  | none => largest ps

end Partition

end Rehost
