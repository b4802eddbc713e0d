import Mathlib.Algebra.GroupWithZero.Nat
import RecordRing.Process.ConsumerRun
import RecordRing.Proofs.HostileMemory

set_option autoImplicit false

namespace RecordRing

namespace Record

def numbers (record : Record) : Nat :=
  record.packets + record.lost

/-- Every packet carries the number that is due, and was filled not later than it is stamped. -/
def InOrder : Nat → List Record → Prop
  | _, [] => True
  | due, packet header payload :: rest =>
      (∃ filled, LoadPattern.verify (.ofBytes payload) = .ok (filled, UInt64.ofNat due) ∧
        filled ≤ header.timestamp) ∧ InOrder (due + 1) rest
  | due, drop _ summary :: rest => InOrder (due + summary.lost.toNat) rest

def due (records : List Record) : Nat :=
  1 + (records.map numbers).sum

theorem inOrder_append (first : Nat) (front rest : List Record) :
    InOrder first (front ++ rest) ↔
      InOrder first front ∧ InOrder (first + (front.map numbers).sum) rest := by
  induction front generalizing first with
  | nil => exact ⟨fun order => ⟨trivial, order⟩, And.right⟩
  | cons record others ih =>
      cases record with
      | packet header payload =>
          have numbers : numbers (packet header payload) = 1 := rfl
          rw [List.cons_append, InOrder, InOrder, ih, List.map_cons, List.sum_cons, numbers,
            Nat.add_assoc, and_assoc]
      | drop header summary =>
          have numbers : numbers (drop header summary) = summary.lost.toNat := Nat.zero_add _
          rw [List.cons_append, InOrder, InOrder, ih, List.map_cons, List.sum_cons, numbers,
            Nat.add_assoc]

theorem sum_numbers (records : List Record) :
    (records.map numbers).sum = (records.map packets).sum + (records.map lost).sum := by
  induction records with
  | nil => rfl
  | cons record rest ih =>
      simp only [List.map_cons, List.sum_cons, ih, numbers]
      omega

end Record

namespace ConsumerTally

/-- What a consumer warns of. -/
def isComplaint : Event → Bool
  | .sequenceWentBack .. | .payloadRejected .. => true
  | _ => false

/-- The last number that was seen is behind the one that is due. -/
def Behind (tally : ConsumerTally) (due : Nat) : Prop :=
  ∀ previous, tally.lastSequence = some previous → previous.toNat < due

/-- A packet that carries the number that is due is counted without a word. -/
theorem take_packet {tally : ConsumerTally} {due : Nat} (behind : tally.Behind due)
    (small : due < UInt64.size) {header : RecordHeader} {payload : Bytes} {filled : UInt64}
    (verified : LoadPattern.verify (.ofBytes payload) = .ok (filled, UInt64.ofNat due)) :
    (tally.take (.packet header payload)).1 = [] ∧
      (tally.take (.packet header payload)).2.bad = tally.bad ∧
      (tally.take (.packet header payload)).2.Behind (due + 1) := by
  have number : (UInt64.ofNat due).toNat = due := by
    rw [UInt64.toNat_ofNat']
    exact Nat.mod_eq_of_lt small
  simp only [take, verified]
  refine ⟨?_, trivial, ?_⟩
  · cases last : tally.lastSequence with
    | none => rfl
    | some previous =>
        have less := behind previous last
        refine if_neg ?_
        rw [UInt64.le_iff_toNat_le, number]
        omega
  · intro previous same
    cases same
    omega

theorem takeAll_of_inOrder (records : List Record) {tally : ConsumerTally} {due : Nat}
    (behind : tally.Behind due) (order : Record.InOrder due records)
    (few : due + (records.map Record.numbers).sum ≤ UInt64.size) :
    (tally.takeAll records).2.bad = tally.bad ∧
      ∀ event ∈ (tally.takeAll records).1, isComplaint event = false := by
  induction records generalizing tally due with
  | nil => exact ⟨rfl, nofun⟩
  | cons record rest ih =>
      rw [List.map_cons, List.sum_cons] at few
      cases record with
      | packet header payload =>
          obtain ⟨⟨filled, verified, -⟩, order⟩ := order
          have one : Record.numbers (.packet header payload) = 1 := rfl
          obtain ⟨silent, bad, next⟩ :=
            @take_packet tally due behind (by omega) header payload filled verified
          obtain ⟨total, others⟩ := ih next order (by omega)
          refine ⟨total.trans bad, ?_⟩
          change ∀ event ∈ (tally.take (.packet header payload)).1 ++ _, _
          rw [silent]
          exact others
      | drop header summary =>
          have lost : Record.numbers (.drop header summary) = summary.lost.toNat := Nat.zero_add _
          have next : (tally.take (.drop header summary)).2.Behind (due + summary.lost.toNat) :=
            fun previous same => Nat.lt_of_lt_of_le (behind previous same) (Nat.le_add_right ..)
          obtain ⟨total, others⟩ := ih next order (by omega)
          refine ⟨total, fun event member => ?_⟩
          rcases List.mem_cons.mp member with rfl | later
          · rfl
          · exact others event later

end ConsumerTally

namespace Reader

structure Totals (reader : Reader) (records : List Record) : Prop where
  packets : reader.packets.toNat = (records.map Record.packets).sum
  lost : reader.lost.toNat = (records.map Record.lost).sum

theorem Totals.foldl {reader : Reader} {records more : List Record} (totals : reader.Totals records)
    (few : ((records ++ more).map Record.numbers).sum < UInt64.size) :
    (more.foldl count reader).Totals (records ++ more) := by
  induction more generalizing reader records with
  | nil =>
      rw [List.append_nil]
      exact totals
  | cons record rest ih =>
      have split : records ++ record :: rest = (records ++ [record]) ++ rest := by
        rw [List.append_assoc]
        rfl
      rw [split] at few ⊢
      refine ih ?_ few
      rw [List.map_append, List.sum_append, Record.sum_numbers, List.map_append, List.map_append,
        List.sum_append, List.sum_append, List.map_singleton, List.map_singleton, List.sum_singleton,
        List.sum_singleton] at few
      constructor
      · rw [reader.toNat_packets_count, totals.packets, List.map_append, List.sum_append,
          List.map_singleton, List.sum_singleton]
        rw [totals.packets]
        omega
      · rw [reader.toNat_lost_count, totals.lost, List.map_append, List.sum_append,
          List.map_singleton, List.sum_singleton]
        rw [totals.lost]
        omega

end Reader

namespace Channel

theorem reader_read (channel : Channel) (now : UInt64) (reader : Reader) :
    (channel.read now reader).2.1 =
      match (channel.read now reader).1 with
      | .record record => reader.count record
      | _ => reader := by
  cases look : channel.region.recordAtTail reader.capacity with
  | record record => simp only [read, Reader.take_of_record look]
  | _ => simp only [read, Reader.take, look]

/-- Reading on counts what is handed on, in its order. -/
theorem reader_pollFor (channel : Channel) (now : UInt64) (reader : Reader) (fuel : Nat) :
    (channel.pollFor now reader fuel).2.2.1 =
      (channel.pollFor now reader fuel).2.1.foldl Reader.count reader := by
  induction fuel generalizing channel reader with
  | zero => rfl
  | succ fuel ih =>
      have first := channel.reader_read now reader
      unfold pollFor
      split
      · rename_i record counted after found
        rw [found] at first
        dsimp only at first ⊢
        rw [ih after counted, first, List.foldl_cons]
      all_goals
        rename_i found
        rw [found] at first
        exact first

end Channel

end RecordRing
