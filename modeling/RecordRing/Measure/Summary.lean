import RecordRing.Binary64

set_option autoImplicit false

namespace RecordRing

structure Summary where
  samples : Nat
  min : UInt64
  p50 : UInt64
  p90 : UInt64
  p99 : UInt64
  p999 : UInt64
  max : UInt64
  mean : Binary64
  deriving DecidableEq, Repr

namespace Summary

def sort (samples : List UInt64) : List UInt64 :=
  samples.mergeSort fun left right => decide (left ≤ right)

/-- A quotient of words, rounded up. -/
def ceilDiv (dividend divisor : UInt64) : UInt64 :=
  let quotient := dividend / divisor
  if dividend % divisor = 0 then quotient else quotient + 1

/-- The place, from one, of the sample that stands for a share of all samples in permille. -/
def rank (count permille : UInt64) : UInt64 :=
  Min.min (Max.max (ceilDiv (count * permille) 1000) 1) count

/-- The index of the sample of nearest rank among so many sorted ones. -/
def rankIndex (count : Nat) (permille : UInt64) : Nat :=
  (rank (.ofNat count) permille - 1).toNat

def nearestRank (sorted : Array UInt64) (permille : UInt64) : UInt64 :=
  (sorted[rankIndex sorted.size permille]?).getD 0

/-- The mean, computed from the rounded total. -/
def meanOf (samples : List UInt64) : Binary64 :=
  let total := samples.foldl (fun sum sample => sum + sample.toNat) 0
  (Binary64.ofNat total).div (.ofNat samples.length)

/-- The summary of samples, if there are any. -/
def ofSamples? (samples : List UInt64) : Option Summary :=
  let sorted := (sort samples).toArray
  match sorted[0]?, sorted.back? with
  | some least, some greatest => some {
      samples := sorted.size
      min := least
      p50 := nearestRank sorted 500
      p90 := nearestRank sorted 900
      p99 := nearestRank sorted 990
      p999 := nearestRank sorted 999
      max := greatest
      mean := meanOf samples }
  | _, _ => none

end Summary

end RecordRing
