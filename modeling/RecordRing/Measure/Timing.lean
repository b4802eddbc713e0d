import RecordRing.Measure.Summary

set_option autoImplicit false

namespace RecordRing

/-- The shape of a timing run. -/
structure Batches where
  count : Nat := 1000
  size : Nat := 10000
  /-- Batches run before, untimed. -/
  warmup : Nat := 10
  deriving DecidableEq, Repr

structure Measurement where
  label : String
  unit : String
  summary : Summary
  deriving DecidableEq, Repr

namespace Batches

/-- Calls in a timed batch; there is at least one. -/
def timedSize (batches : Batches) : Nat :=
  max batches.size 1

/-- Batches that are timed; there is at least one. -/
def timedCount (batches : Batches) : Nat :=
  max batches.count 1

/-- Calls before the first timed one. -/
def warmupCalls (batches : Batches) : Nat :=
  batches.warmup * batches.size

def calls (batches : Batches) : Nat :=
  batches.warmupCalls + batches.timedCount * batches.timedSize

/-- The time that calls take together, where each takes as long as its number says. -/
def elapsed (cost : Nat → Nat) (first count : Nat) : Nat :=
  (List.range' first count).foldl (fun sum call => sum + cost call) 0

/-- The sample of one batch: the time of a call, rounded up and kept to 64 bits. -/
def sample (batches : Batches) (cost : Nat → Nat) (batch : Nat) : UInt64 :=
  let first := batches.warmupCalls + batch * batches.timedSize
  let total := elapsed cost first batches.timedSize
  UInt64.ofNat (min ((total + batches.timedSize - 1) / batches.timedSize) (UInt64.size - 1))

/-- Time an operation whose calls take as long as their numbers say. -/
def time (batches : Batches) (label : String) (cost : Nat → Nat) : Option Measurement := do
  let samples := (List.range batches.timedCount).map (batches.sample cost)
  return { label, unit := "ns/op", summary := ← Summary.ofSamples? samples }

end Batches

end RecordRing
