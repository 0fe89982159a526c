import Rehost.Failure
import Rehost.Json.Read
import Rehost.Binary64.Shortest
import Rehost.Text.Integer
/-!
# Resource limits of a container

CPU time is a quota in microseconds per 100 ms period (100000 is one CPU).
Zero switches a limit off. Swap follows the engine's convention: `-1` is
unlimited, `0` keeps the engine default, and any other value is memory plus
swap in bytes.

`Limits.check` accepts exactly the limits described by `Limits.Valid`
(`check_eq_none_iff`).
-/

namespace Rehost

/-- The length of the CPU period in microseconds. -/
def cpuPeriod : Nat := 100000

/-- Limits applied to a container. -/
structure Limits where
  cpuQuota : Int := 200000
  memoryBytes : Int := 2147483648
  memorySwap : Int := -1
  pidsLimit : Int := 1024
  deriving DecidableEq, Repr, Inhabited

namespace Limits

/-- The quota for a number of CPUs, rounded half away from zero and clamped to
    64 bits; zero unless the number is finite and positive. -/
def quotaOfCpus (cpus : Float) : Int :=
  if Binary64.isFinite cpus && cpus > 0.0 then
    Text.saturate64 (Binary64.roundHalfAway (cpus * 100000.0))
  else 0

/-- Limits for a number of CPUs and an amount of memory, other limits at their defaults. -/
def ofCpus (cpus : Float) (memoryBytes : Int) : Limits :=
  { cpuQuota := quotaOfCpus cpus, memoryBytes := memoryBytes }

/-- The number of CPUs the quota stands for. -/
def cpus (l : Limits) : Float := Binary64.ofInt l.cpuQuota / 100000.0

/-- The rules valid limits follow. -/
structure Valid (l : Limits) : Prop where
  quota_nonneg : 0 ≤ l.cpuQuota
  memory_nonneg : 0 ≤ l.memoryBytes
  pids_nonneg : 0 ≤ l.pidsLimit
  swap_ge : -1 ≤ l.memorySwap
  swap_covers : 0 < l.memorySwap → 0 < l.memoryBytes → l.memoryBytes ≤ l.memorySwap
  quota_min : 0 < l.cpuQuota → 1000 ≤ l.cpuQuota

/-- The first rule the limits break, as a configuration failure. -/
def check (l : Limits) : Option Failure :=
  if l.cpuQuota < 0 then some (.config s!"cpu_quota must not be negative, got {l.cpuQuota}")
  else if l.memoryBytes < 0 then some (.config s!"memory_bytes must not be negative, got {l.memoryBytes}")
  else if l.pidsLimit < 0 then some (.config s!"pids_limit must not be negative, got {l.pidsLimit}")
  else if l.memorySwap < -1 then
    some (.config s!"memory_swap must be -1, 0 or a byte count, got {l.memorySwap}")
  else if l.memorySwap > 0 && l.memoryBytes > 0 && l.memorySwap < l.memoryBytes then
    some (.config s!"memory_swap ({l.memorySwap}) must not be smaller than memory_bytes ({l.memoryBytes})")
  else if l.cpuQuota > 0 && l.cpuQuota < 1000 then
    some (.config s!"cpu_quota must be at least 1000us, got {l.cpuQuota}")
  else none

theorem check_eq_none_iff (l : Limits) : l.check = none ↔ l.Valid := by
  unfold check
  constructor
  · intro h
    split at h <;> try contradiction
    split at h <;> try contradiction
    split at h <;> try contradiction
    split at h <;> try contradiction
    split at h <;> try contradiction
    split at h <;> try contradiction
    constructor <;> simp_all
  · rintro ⟨h1, h2, h3, h4, h5, h6⟩
    split
    · omega
    split
    · omega
    split
    · omega
    split
    · omega
    split
    · rename_i h
      simp only [Bool.and_eq_true, decide_eq_true_eq] at h
      have := h5 h.1.1 h.1.2; omega
    split
    · rename_i h
      simp only [Bool.and_eq_true, decide_eq_true_eq] at h
      have := h6 h.1; omega
    rfl

/-- The signed 64-bit integer shape. -/
def i64Shape : Json.Shape := .integer "i64" Text.i64Min Text.i64Max

/-- The written shape of limits; every field may be left out. -/
def shape : Json.Shape :=
  .record "ResourceLimits"
    [("cpu_quota", i64Shape, true), ("memory_bytes", i64Shape, true),
     ("memory_swap", i64Shape, true), ("pids_limit", i64Shape, true)]

/-- Limits from a checked document, defaults filling absent fields. -/
def ofJson (j : Json) : Limits :=
  let d : Limits := {}
  let get (k : String) (dflt : Int) : Int := ((j.get? k).bind Json.asInt?).getD dflt
  { cpuQuota := get "cpu_quota" d.cpuQuota, memoryBytes := get "memory_bytes" d.memoryBytes,
    memorySwap := get "memory_swap" d.memorySwap, pidsLimit := get "pids_limit" d.pidsLimit }

/-- The serialized limits. -/
def toJson (l : Limits) : Json :=
  .obj [("cpu_quota", .int l.cpuQuota), ("memory_bytes", .int l.memoryBytes),
    ("memory_swap", .int l.memorySwap), ("pids_limit", .int l.pidsLimit)]

end Limits

end Rehost
