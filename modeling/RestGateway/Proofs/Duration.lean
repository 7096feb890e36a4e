import Mathlib
import RestGateway.Deadline

/-! Deadlines as machine words hold them: whole seconds in 64 bits and the nanoseconds behind them
in 32. Choosing a deadline and counting its milliseconds never wraps around, for any numbers of
seconds and milliseconds of 64 bits. -/
namespace RestGateway

/-- A span in two words, the second of which stands for less than a second. -/
structure Duration.Words where
  seconds : UInt64
  nanos : UInt32
  nanos_lt : nanos.toNat < 1000000000

namespace Duration.Words

def toDuration (w : Words) : Duration := ⟨w.seconds.toNat * 1000000000 + w.nanos.toNat⟩

def ofSeconds (n : UInt64) : Words := ⟨n, 0, by decide⟩

lemma toNat_millisAsNanos (n : UInt64) :
    ((n % 1000).toUInt32 * 1000000).toNat = n.toNat % 1000 * 1000000 := by
  have hlt : n.toNat % 1000 < 1000 := Nat.mod_lt _ (by decide)
  simp only [UInt32.toNat_mul, UInt64.toNat_toUInt32, UInt64.toNat_mod, UInt64.reduceToNat,
    UInt32.reduceToNat]
  omega

def ofMillis (n : UInt64) : Words where
  seconds := n / 1000
  nanos := (n % 1000).toUInt32 * 1000000
  nanos_lt := by rw [toNat_millisAsNanos]; omega

/-- The words compare one after the other. -/
def min (a b : Words) : Words :=
  if a.seconds < b.seconds ∨ a.seconds = b.seconds ∧ a.nanos ≤ b.nanos then a else b

/-- Whole milliseconds, for which 64 bits are not enough. -/
def millis (w : Words) : BitVec 128 :=
  w.seconds.toBitVec.setWidth 128 * 1000 + (w.nanos / 1000000).toBitVec.setWidth 128

/-- The deadline of a call by its own time limit and two configured ones. -/
def resolve (requestedMillis : Option UInt64) (usual latest : UInt64) : Words :=
  let wanted := match requestedMillis with
    | some n => if 0 < n then ofMillis n else ofSeconds usual
    | none => ofSeconds usual
  wanted.min (ofSeconds latest)

/-! ### Nothing wraps around -/

lemma toDuration_ofSeconds (n : UInt64) : (ofSeconds n).toDuration = .ofSeconds n.toNat := by
  simp [toDuration, ofSeconds, Duration.ofSeconds]

lemma toDuration_ofMillis (n : UInt64) : (ofMillis n).toDuration = .ofMillis n.toNat := by
  have hsum := Nat.div_add_mod n.toNat 1000
  simp only [toDuration, ofMillis, Duration.ofMillis, toNat_millisAsNanos, UInt64.toNat_div,
    UInt64.reduceToNat, Duration.mk.injEq]
  omega

lemma toDuration_min (a b : Words) : (a.min b).toDuration = a.toDuration.min b.toDuration := by
  have ha := a.nanos_lt
  have hb := b.nanos_lt
  have hle : (a.seconds < b.seconds ∨ a.seconds = b.seconds ∧ a.nanos ≤ b.nanos) ↔
      a.toDuration.nanos ≤ b.toDuration.nanos := by
    simp only [toDuration, UInt64.lt_iff_toNat_lt, UInt32.le_iff_toNat_le, ← UInt64.toNat_inj]
    omega
  rw [min, Duration.min]
  simp only [hle]
  split_ifs <;> rfl

/-- The deadline in words is the deadline. -/
theorem toDuration_resolve (requestedMillis : Option UInt64) (usual latest : UInt64) :
    (resolve requestedMillis usual latest).toDuration =
      Deadline.resolve (requestedMillis.map UInt64.toNat) (.ofSeconds usual.toNat)
        (.ofSeconds latest.toNat) := by
  cases requestedMillis with
  | none => simp [resolve, Deadline.resolve, toDuration_min, toDuration_ofSeconds]
  | some n =>
    have hpos : 0 < n ↔ 0 < n.toNat := UInt64.lt_iff_toNat_lt
    by_cases hn : 0 < n
    · simp [resolve, Deadline.resolve, toDuration_min, toDuration_ofSeconds, toDuration_ofMillis,
        hn, hpos.mp hn]
    · simp [resolve, Deadline.resolve, toDuration_min, toDuration_ofSeconds, hn, hpos.not.mp hn]

theorem toNat_millis (w : Words) : w.millis.toNat = w.toDuration.millis := by
  have hnanos := w.nanos_lt
  have hseconds := w.seconds.toNat_lt
  simp only [millis, BitVec.toNat_add, BitVec.toNat_mul, BitVec.toNat_setWidth,
    UInt64.toNat_toBitVec, UInt32.toNat_toBitVec, UInt32.toNat_div, UInt32.reduceToNat,
    BitVec.reduceToNat, toDuration, Duration.millis]
  omega

end Duration.Words

end RestGateway
