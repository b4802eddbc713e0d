import RecordRing.Proofs.Publication

set_option autoImplicit false

namespace RecordRing

namespace ByteRing

/-- Memory that holds the last lap of a string holds the last lap of a longer one, once the rest of it is
written where the string ends. -/
theorem lastLap_fill {capacity : Nat} {data : Buffer} {front more : Bytes}
    (held : capacity ≤ data.size) (fits : more.length ≤ capacity)
    (lastLap : ∀ position ≤ front.length, front.length ≤ position + capacity →
      stored capacity data position (front.length - position) = front.drop position) :
    ∀ position ≤ (front ++ more).length, (front ++ more).length ≤ position + capacity →
      stored capacity (fill capacity data front.length more) position
          ((front ++ more).length - position) =
        (front ++ more).drop position := by
  intro position start lap
  rw [List.length_append] at start lap ⊢
  by_cases old : position ≤ front.length
  · -- The run begins in what was there, of which no cell is written over.
    have split : front.length + more.length - position =
        front.length - position + more.length := by omega
    have behind := stored_fill_behind data position (front.length - position) more (by omega) held
    rw [Nat.add_sub_cancel' old] at behind
    rw [split, behind, lastLap position old (by omega), List.drop_append_of_le_length old]
  · -- The run begins in what was written.
    have written := stored_fill_self data front.length more fits held
    obtain ⟨count, rfl⟩ := Nat.exists_eq_add_of_le (Nat.le_of_not_le old)
    rw [Nat.add_sub_add_left, ← drop_stored _ _ (by omega), written, List.drop_append,
      List.drop_of_length_le (Nat.le_add_right _ count), List.nil_append, Nat.add_sub_cancel_left]

end ByteRing

namespace Channel

/-- The channel holds what is left in a ring of these records, published since it was made or reset. -/
structure Holds (channel : Channel) (records : List Record) : Prop where
  power : isPowerOfTwo channel.capacity = true
  held : channel.capacity.toNat ≤ channel.region.data.size
  framed : ∀ record ∈ records, record.WellFormed
  ordered : channel.page.tail ≤ channel.page.head
  lap : channel.page.head.toNat - channel.page.tail.toNat ≤ channel.capacity.toNat
  head : channel.page.head.toNat = (Record.stream records).length
  lastLap : ∀ position ≤ channel.page.head.toNat,
    channel.page.head.toNat ≤ position + channel.capacity.toNat →
      ByteRing.stored channel.capacity.toNat channel.region.data position
        (channel.page.head.toNat - position) = (Record.stream records).drop position
  count : channel.tallies.records.toNat = records.length
  bytes : channel.tallies.bytes = channel.page.head

variable {before after : Channel} {records : List Record}

theorem Holds.of_steady (steady : Steady before after) (holds : Holds before records) :
    Holds after records := by
  have head : after.page.head.toNat = before.page.head.toNat := by rw [steady.head]
  have forward := UInt64.le_iff_toNat_le.mp steady.tail_le
  have lap := holds.lap
  refine ⟨?_, ?_, holds.framed, steady.tail_le_head holds.ordered, ?_, ?_, ?_, ?_, ?_⟩
  · rw [steady.capacity]
    exact holds.power
  · rw [steady.capacity, steady.data]
    exact holds.held
  · rw [steady.capacity, head]
    omega
  · rw [head]
    exact holds.head
  · rw [steady.capacity, steady.data, head]
    exact holds.lastLap
  · rw [steady.records]
    exact holds.count
  · rw [steady.bytes, steady.head]
    exact holds.bytes

/-- A ring that was reset holds nothing, whatever it held before. -/
theorem Holds.of_cleared (cleared : Cleared before after) (power : isPowerOfTwo before.capacity = true)
    (held : before.capacity.toNat ≤ before.region.data.size) : Holds after [] := by
  refine ⟨?_, ?_, ?_, ?_, ?_, ?_, ?_, ?_, ?_⟩
  · rw [cleared.capacity]
    exact power
  · rw [cleared.capacity, cleared.data]
    exact held
  · intro record member
    cases member
  · rw [cleared.head, cleared.tail]
    exact UInt64.le_refl 0
  · rw [cleared.head, cleared.tail]
    exact Nat.zero_le _
  · rw [cleared.head]
    rfl
  · rw [cleared.head]
    intro position start _
    rw [Nat.le_zero.mp start]
    rfl
  · rw [cleared.records]
    rfl
  · rw [cleared.bytes, cleared.head]

theorem Holds.toNat_used (holds : Holds before records) :
    before.page.used.toNat = before.page.head.toNat - before.page.tail.toNat :=
  ControlPage.toNat_used holds.ordered

/-- Records that found room are added at the end of the stream. -/
theorem Holds.of_wrote {more : List Record} (wrote : Wrote before more after)
    (holds : Holds before records) (framed : ∀ record ∈ more, record.WellFormed)
    (room : before.page.used.toNat + (Record.stream more).length ≤ before.capacity.toNat)
    (bound : (Record.stream (records ++ more)).length < UInt64.size) :
    Holds after (records ++ more) := by
  have size : (Record.stream (records ++ more)).length =
      before.page.head.toNat + (Record.stream more).length := by
    rw [Record.stream_append, List.length_append, holds.head]
  have head : after.page.head.toNat = before.page.head.toNat + (Record.stream more).length := by
    rw [wrote.head, UInt64.toNat_add, UInt64.toNat_ofNat', Nat.add_mod_mod]
    exact Nat.mod_eq_of_lt (by rw [← size]; exact bound)
  have ordered := UInt64.le_iff_toNat_le.mp holds.ordered
  rw [holds.toNat_used] at room
  refine ⟨?_, ?_, ?_, ?_, ?_, ?_, ?_, ?_, ?_⟩
  · rw [wrote.capacity]
    exact holds.power
  · rw [wrote.capacity, wrote.size]
    exact holds.held
  · intro record member
    rcases List.mem_append.mp member with old | new
    · exact holds.framed record old
    · exact framed record new
  · rw [UInt64.le_iff_toNat_le, wrote.tail, head]
    omega
  · rw [wrote.tail, wrote.capacity, head]
    omega
  · rw [head, size]
  · have lastLap := holds.lastLap
    rw [holds.head] at lastLap
    have short : (Record.stream more).length ≤ before.capacity.toNat := by omega
    rw [wrote.capacity, wrote.data, head, ← size, holds.head, Record.stream_append]
    exact ByteRing.lastLap_fill holds.held short lastLap
  · have few := Record.length_le_length_stream (records ++ more)
    have words : UInt64.size = 18446744073709551616 := rfl
    simp only [RecordHeader.size] at few
    rw [wrote.count, UInt64.toNat_add, UInt64.toNat_ofNat', Nat.add_mod_mod, holds.count,
      ← List.length_append]
    exact Nat.mod_eq_of_lt (by omega)
  · rw [wrote.bytes, wrote.head, holds.bytes]

/-- What lies between the cursors is the rest of the stream. -/
theorem Holds.backlog_eq (holds : Holds before records) :
    before.region.backlog before.capacity =
      (Record.stream records).drop before.page.tail.toNat := by
  have ordered := UInt64.le_iff_toNat_le.mp holds.ordered
  have lap := holds.lap
  exact holds.lastLap before.page.tail.toNat ordered (by omega)

end Channel

end RecordRing
