import RecordRing.Proofs.Settling

set_option autoImplicit false

namespace RecordRing

namespace Record

/-- The string begins with a whole record: its header names a kind, all the bytes that it counts are
there, and a summary has twenty of them. -/
def Begins (bytes : Bytes) : Prop :=
  let header := RecordHeader.decode (bytes.take RecordHeader.size)
  RecordHeader.size + header.length.toNat ≤ bytes.length ∧
    (header.kind = 1 ∨ header.kind = 0xFFFF) ∧ (header.kind = 0xFFFF → header.length = 20)

theorem front?_eq_none_iff (bytes : Bytes) : front? bytes = none ↔ ¬ Begins bytes := by
  rw [Begins, ← front?_isSome_iff, Bool.not_eq_true, Option.isSome_eq_false_iff, Option.isNone_iff_eq_none]

/-- A string taken apart: whole records from its front on, and a rest that begins with none. -/
inductive Parts : Bytes → List Record → Bytes → Prop
  | stop {rest : Bytes} (none : front? rest = none) : Parts rest [] rest
  | next {record : Record} {records : List Record} {bytes rest : Bytes} (framed : record.WellFormed)
      (parts : Parts bytes records rest) : Parts (record.encode ++ bytes) (record :: records) rest

variable {bytes rest : Bytes} {records : List Record}

theorem Parts.framed (parts : Parts bytes records rest) :
    ∀ record ∈ records, record.WellFormed := by
  induction parts with
  | stop none => nofun
  | next framed parts ih =>
      intro record member
      rcases List.mem_cons.mp member with rfl | later
      · exact framed
      · exact ih record later

theorem Parts.joined (parts : Parts bytes records rest) : bytes = stream records ++ rest := by
  induction parts with
  | stop none => rfl
  | next framed parts ih => rw [stream_cons, List.append_assoc, ← ih]

theorem Parts.front?_eq_none (parts : Parts bytes records rest) : front? rest = none := by
  induction parts with
  | stop none => exact none
  | next framed parts ih => exact ih

/-- However whole records are found at the front of the string, they are the first of these. -/
theorem Parts.longest (parts : Parts bytes records rest) {more : List Record} {left : Bytes}
    (framed : ∀ record ∈ more, record.WellFormed) (joined : bytes = stream more ++ left) :
    more <+: records := by
  induction parts generalizing more with
  | stop none =>
      cases more with
      | nil => exact List.nil_prefix
      | cons record more =>
          rw [joined, stream_cons, List.append_assoc,
            front?_encode_append (framed record List.mem_cons_self)] at none
          cases none
  | next first parts ih =>
      rename_i found records bytes rest
      cases more with
      | nil => exact List.nil_prefix
      | cons record more =>
          rw [stream_cons, List.append_assoc] at joined
          have same : record = found := by
            have front := front?_encode_append first bytes
            rw [joined, front?_encode_append (framed record List.mem_cons_self)] at front
            exact Option.some.inj front
          subst same
          have later : ∀ other ∈ more, other.WellFormed :=
            fun other member => framed other (List.mem_cons_of_mem _ member)
          exact List.prefix_cons_iff.mpr
            (Or.inr ⟨more, rfl, ih later (List.append_cancel_left joined)⟩)

/-- So there is one way only to take a string apart. -/
theorem Parts.unique (parts : Parts bytes records rest) {more : List Record} {left : Bytes}
    (others : Parts bytes more left) : records = more := by
  have short := parts.longest others.framed others.joined
  have long := others.longest parts.framed parts.joined
  exact long.eq_of_length_le short.length_le

end Record

namespace Region

def passed (region : Region) (count : Nat) : Region :=
  { region with page := { region.page with tail := region.page.tail + UInt64.ofNat count } }

theorem passed_zero (region : Region) : region.passed 0 = region := by
  have same : region.page.tail + UInt64.ofNat 0 = region.page.tail := UInt64.add_zero _
  rw [passed, same]

theorem passed_passed (region : Region) (first second : Nat) :
    (region.passed first).passed second = region.passed (first + second) := by
  simp only [passed, UInt64.ofNat_add, UInt64.add_assoc]

theorem release_eq_passed (region : Region) {record : Record} (framed : record.WellFormed) :
    region.release record = region.passed record.encode.length := by
  rw [release, passed, record.length_encode framed, UInt64.ofNat_toNat]

variable {region : Region} {capacity : UInt64} {count : Nat}

theorem toNat_tail_passed (within : count ≤ region.page.head.toNat - region.page.tail.toNat) :
    (region.passed count).page.tail.toNat = region.page.tail.toNat + count := by
  have top := region.page.head.toNat_lt
  have bottom := region.page.tail.toNat_lt
  change (region.page.tail + UInt64.ofNat count).toNat = _
  rw [UInt64.toNat_add, UInt64.toNat_ofNat']
  omega

/-- A tail moved on within the backlog leaves the rest of it. -/
theorem backlog_passed (within : count ≤ region.page.head.toNat - region.page.tail.toNat) :
    (region.passed count).backlog capacity = (region.backlog capacity).drop count := by
  rw [backlog, backlog, ByteRing.drop_stored _ _ within, toNat_tail_passed within]
  congr 1
  exact (Nat.sub_sub ..).symm

theorem Spanned.passed (spanned : region.Spanned capacity)
    (within : count ≤ region.page.head.toNat - region.page.tail.toNat) :
    (region.passed count).Spanned capacity := by
  obtain ⟨ordered, lap⟩ := spanned
  have head : (region.passed count).page.head = region.page.head := rfl
  have tail := toNat_tail_passed within
  rw [UInt64.le_iff_toNat_le] at ordered
  refine ⟨?_, ?_⟩
  · rw [UInt64.le_iff_toNat_le, tail, head]
    omega
  · rw [tail, head]
    omega

/-- A record in front of the backlog fills no less than a header of it and ends within it. -/
theorem length_of_front? {record : Record}
    (front : Record.front? (region.backlog capacity) = some record) :
    16 ≤ record.encode.length ∧
      record.encode.length ≤ region.page.head.toNat - region.page.tail.toNat := by
  have least := record.size_le_length_encode
  have joined := congrArg List.length (Record.eq_append_of_front? front).2
  rw [List.length_append, region.length_backlog capacity] at joined
  exact ⟨least, by omega⟩

theorem ne_record_of_corrupted {place : Corruption}
    (bad : region.recordAtTail capacity = .corrupted place) (record : Record) :
    region.recordAtTail capacity ≠ .record record := by
  intro found
  rw [bad] at found
  cases found

def ending (region : Region) (capacity : UInt64) : PollEnd :=
  match region.recordAtTail capacity with
  | .corrupted place => .corrupted place
  | .overrun => .overrun
  | _ => .drained

/-- In front of a string that begins with no record, reading ends with its emptiness or its fault. -/
theorem ending_of_spanned (power : isPowerOfTwo capacity = true)
    (held : capacity.toNat ≤ region.data.size) (spanned : region.Spanned capacity)
    (none : Record.front? (region.backlog capacity) = none) :
    (region.ending capacity = .drained ↔ region.backlog capacity = []) ∧
      (region.backlog capacity ≠ [] → ∃ length,
        region.ending capacity = .corrupted ⟨region.page.tail, region.page.head, length⟩) := by
  have width := region.length_backlog capacity
  by_cases apart : region.page.tail = region.page.head
  · have empty : region.backlog capacity = [] := by
      rw [apart, Nat.sub_self] at width
      exact List.eq_nil_of_length_eq_zero width
    rw [ending, recordAtTail_of_eq capacity apart]
    exact ⟨⟨fun _ => empty, fun _ => rfl⟩, fun left => absurd empty left⟩
  · have look := recordAtTail_of_spanned power held spanned apart
    rw [none] at look
    obtain ⟨length, look⟩ := look
    have left : region.backlog capacity ≠ [] := by
      intro empty
      rw [empty, List.length_nil] at width
      have ordered := UInt64.le_iff_toNat_le.mp spanned.1
      exact apart (UInt64.toNat_inj.mp (by omega))
    rw [ending, look]
    exact ⟨⟨nofun, fun empty => absurd empty left⟩, fun _ => ⟨length, rfl⟩⟩

end Region

namespace Reader

variable {reader : Reader} {region : Region}

/-- Where no record stands at the tail, a poll ends. -/
theorem pollFor_of_not_record
    (none : ∀ record, region.recordAtTail reader.capacity ≠ .record record) (fuel : Nat) :
    reader.pollFor region (fuel + 1) = (region.ending reader.capacity, [], reader, region) := by
  rw [pollFor, take_of_not_record none, Region.ending]
  cases look : region.recordAtTail reader.capacity with
  | record record => exact absurd look (none record)
  | _ => rfl

theorem pollFor_of_corrupted {place : Corruption}
    (bad : region.recordAtTail reader.capacity = .corrupted place) (fuel : Nat) :
    reader.pollFor region (fuel + 1) = (.corrupted place, [], reader, region) := by
  rw [pollFor_of_not_record (Region.ne_record_of_corrupted bad), Region.ending, bad]

/-- The records that a poll hands on are the parts of the backlog, and it ends behind the last of them,
however many more looks it is granted. -/
theorem pollFor_of_spanned (power : isPowerOfTwo reader.capacity = true)
    (held : reader.capacity.toNat ≤ region.data.size) (spanned : region.Spanned reader.capacity)
    {fuel : Nat} (enough : (region.page.head.toNat - region.page.tail.toNat) / 16 < fuel) :
    ∃ records,
      let stop := region.passed (Record.stream records).length
      Record.Parts (region.backlog reader.capacity) records (stop.backlog reader.capacity) ∧
        reader.pollFor region fuel =
          (stop.ending reader.capacity, records, records.foldl count reader, stop) := by
  -- On the fuel: a record frees sixteen bytes at least, so what is left of them bounds the looks.
  induction fuel generalizing reader region with
  | zero => cases enough
  | succ fuel ih =>
      cases front : Record.front? (region.backlog reader.capacity) with
      | none =>
          have none : ∀ record, region.recordAtTail reader.capacity ≠ .record record := by
            intro record found
            have some := ((Region.recordAtTail_eq_record_iff power held record).mp found).2
            rw [front] at some
            cases some
          refine ⟨[], ?_⟩
          dsimp only [Record.stream_nil, List.length_nil]
          rw [Region.passed_zero]
          exact ⟨.stop front, pollFor_of_not_record none fuel⟩
      | some record =>
          have found := (Region.recordAtTail_eq_record_iff power held record).mpr ⟨spanned, front⟩
          obtain ⟨framed, split⟩ := Record.eq_append_of_front? front
          obtain ⟨least, within⟩ := Region.length_of_front? front
          have same : (reader.count record).capacity = reader.capacity := reader.capacity_count record
          have left : ((region.passed record.encode.length).page.head.toNat -
              (region.passed record.encode.length).page.tail.toNat) / 16 < fuel := by
            rw [Region.toNat_tail_passed within]
            change (region.page.head.toNat - _) / 16 < fuel
            omega
          obtain ⟨records, parts, polled⟩ := @ih (reader.count record)
            (region.passed record.encode.length) (by rw [same]; exact power)
            (by rw [same]; exact held) (by rw [same]; exact spanned.passed within) left
          rw [same, Region.backlog_passed within, Region.passed_passed] at parts
          rw [same, Region.passed_passed] at polled
          refine ⟨record :: records, ?_⟩
          dsimp only
          rw [Record.stream_cons, List.length_append]
          refine ⟨?_, ?_⟩
          · rw [split]
            exact .next framed parts
          · rw [pollFor, take_of_record found, region.release_eq_passed framed]
            simp only [polled, List.foldl_cons]

/-- Cursors out of order, or more than a lap apart, end a poll at once. -/
theorem pollFor_of_not_spanned (astray : ¬ region.Spanned reader.capacity) {fuel : Nat}
    (some : 0 < fuel) :
    reader.pollFor region fuel =
      (.corrupted ⟨region.page.tail, region.page.head, region.page.used⟩, [], reader, region) := by
  obtain ⟨fuel, rfl⟩ := Nat.exists_eq_succ_of_ne_zero (Nat.ne_of_gt some)
  exact pollFor_of_corrupted (Region.recordAtTail_of_not_spanned astray) fuel

/-- In front of a bad record a poll stops at once. -/
theorem poll_of_corrupted {place : Corruption}
    (bad : region.recordAtTail reader.capacity = .corrupted place) :
    reader.poll region = (.corrupted place, [], reader, region) :=
  pollFor_of_corrupted bad (region.page.used.toNat / 16)

theorem pollFuel_of_spanned (spanned : region.Spanned reader.capacity) :
    (region.page.head.toNat - region.page.tail.toNat) / 16 < pollFuel region.page := by
  rw [pollFuel, ControlPage.toNat_used spanned.1]
  exact Nat.lt_succ_self _

/-- Where a poll ended with a fault, the fault stands at the tail that it left. -/
theorem recordAtTail_of_poll (power : isPowerOfTwo reader.capacity = true)
    (held : reader.capacity.toNat ≤ region.data.size) {place : Corruption}
    (ended : (reader.poll region).1 = .corrupted place) :
    (reader.poll region).2.2.2.recordAtTail reader.capacity = .corrupted place := by
  by_cases spanned : region.Spanned reader.capacity
  · obtain ⟨records, -, polled⟩ := pollFor_of_spanned power held spanned (pollFuel_of_spanned spanned)
    rw [poll, polled] at ended ⊢
    dsimp only [Region.ending] at ended ⊢
    split at ended
    · rename_i found
      cases ended
      exact found
    · cases ended
    · cases ended
  · have polled := pollFor_of_not_spanned spanned (Nat.succ_pos (region.page.used.toNat / 16))
    rw [poll, pollFuel, polled] at ended ⊢
    cases ended
    exact Region.recordAtTail_of_not_spanned spanned

end Reader

namespace Channel

/-- Where no record stands at the tail, a read leaves the region and the notifier alone. -/
theorem read_of_not_record {channel : Channel} {reader : Reader}
    (none : ∀ record, channel.region.recordAtTail reader.capacity ≠ .record record) (now : UInt64) :
    ∃ after, channel.read now reader =
        (channel.region.recordAtTail reader.capacity, reader, after) ∧
      after.region = channel.region ∧ after.slot.bound = channel.slot.bound := by
  rw [read, Reader.take_of_not_record none]
  cases look : channel.region.recordAtTail reader.capacity with
  | record record => exact absurd look (none record)
  | nothing => exact ⟨_, rfl, rfl, rfl⟩
  | corrupted place => exact ⟨_, rfl, rfl, rfl⟩
  | overrun => exact ⟨_, rfl, rfl, rfl⟩

/-- While the notifier leaves the ring alone, a read does to the region what a foreign reader's does. -/
theorem read_of_passive {channel : Channel} (passive : channel.Passive) (now : UInt64)
    (reader : Reader) :
    ∃ after, channel.read now reader =
        ((reader.take channel.region).1, (reader.take channel.region).2.1, after) ∧
      after.region = (reader.take channel.region).2.2 ∧ after.slot.bound = channel.slot.bound := by
  by_cases found : ∃ record, channel.region.recordAtTail reader.capacity = .record record
  · obtain ⟨record, look⟩ := found
    rw [read, Reader.take_of_record look]
    dsimp only
    split
    · have still := @still_evaluateWatermarks
        { channel with region := channel.region.release record } now passive
      exact ⟨_, rfl, still.region, still.bound⟩
    · exact ⟨_, rfl, rfl, rfl⟩
  · have none := not_exists.mp found
    rw [Reader.take_of_not_record none]
    exact read_of_not_record none now

theorem pollFor_of_passive {channel : Channel} (passive : channel.Passive) (now : UInt64)
    (reader : Reader) (fuel : Nat) :
    ∃ after, channel.pollFor now reader fuel =
        ((reader.pollFor channel.region fuel).1, (reader.pollFor channel.region fuel).2.1,
          (reader.pollFor channel.region fuel).2.2.1, after) ∧
      after.region = (reader.pollFor channel.region fuel).2.2.2 := by
  induction fuel generalizing channel reader with
  | zero => exact ⟨channel, rfl, rfl⟩
  | succ fuel ih =>
      obtain ⟨after, found, region, bound⟩ := read_of_passive passive now reader
      rw [pollFor, Reader.pollFor, found]
      generalize reader.take channel.region = taken at region
      obtain ⟨outcome, counted, rest⟩ := taken
      cases outcome with
      | record record =>
          obtain ⟨last, polled, same⟩ := ih (passive.of_bound bound) counted
          dsimp only at region polled same ⊢
          rw [polled, ← region]
          exact ⟨last, rfl, same⟩
      | nothing => exact ⟨after, rfl, region⟩
      | corrupted place => exact ⟨after, rfl, region⟩
      | overrun => exact ⟨after, rfl, region⟩

/-- In front of a bad record a poll stops at once, and says so in the log. -/
theorem poll_of_corrupted {channel : Channel} {reader : Reader} {place : Corruption}
    (bad : channel.region.recordAtTail reader.capacity = .corrupted place) (now : UInt64) :
    channel.poll now reader = (.corrupted place, [], reader, channel.log (.desynchronised place)) := by
  rw [poll, Reader.pollFuel, pollFor, read,
    Reader.take_of_not_record (Region.ne_record_of_corrupted bad), bad]

end Channel

namespace Region

/-- What a poll of a region comes to, told by the string between its cursors. -/
structure Polled (region : Region) (capacity : UInt64) (ended : PollEnd) (records : List Record)
    (after : Region) : Prop where
  /-- Every record takes sixteen bytes at least. -/
  few : records.length ≤ (region.page.head.toNat - region.page.tail.toNat) / 16
  /-- Nothing is changed but the tail. -/
  framed : after = { region with page := { region.page with tail := after.page.tail } }
  /-- Whole records are handed on from the front of the string as far as that goes, and the tail is
  left behind the last of them. -/
  parts : region.Spanned capacity → ∃ rest,
    region.backlog capacity = Record.stream records ++ rest ∧
      (∀ record ∈ records, record.WellFormed) ∧
      (∀ more left, (∀ record ∈ more, record.WellFormed) →
        region.backlog capacity = Record.stream more ++ left → more <+: records) ∧
      after.page.tail.toNat = region.page.tail.toNat + (Record.stream records).length ∧
      (ended = .drained ↔ rest = []) ∧
      (rest ≠ [] → ¬ Record.Begins rest ∧
        ∃ length, ended = .corrupted ⟨after.page.tail, region.page.head, length⟩)
  astray : ¬ region.Spanned capacity →
    ended = .corrupted ⟨region.page.tail, region.page.head, region.page.used⟩ ∧ records = [] ∧
      after = region

structure Unmoved (region other : Region) : Prop where
  tail : other.page.tail = region.page.tail
  head : other.page.head = region.page.head
  data : other.data = region.data

end Region

theorem Reader.polled_poll {reader : Reader} {region : Region}
    (power : isPowerOfTwo reader.capacity = true)
    (held : reader.capacity.toNat ≤ region.data.size) :
    region.Polled reader.capacity (reader.poll region).1 (reader.poll region).2.1
      (reader.poll region).2.2.2 := by
  by_cases spanned : region.Spanned reader.capacity
  · obtain ⟨records, parts, polled⟩ :=
      pollFor_of_spanned power held spanned (pollFuel_of_spanned spanned)
    have joined := parts.joined
    have width := congrArg List.length joined
    rw [List.length_append, region.length_backlog] at width
    have few := Record.length_le_length_stream records
    simp only [RecordHeader.size] at few
    have within : (Record.stream records).length ≤
        region.page.head.toNat - region.page.tail.toNat := by omega
    have none := parts.front?_eq_none
    obtain ⟨drained, corrupted⟩ := @Region.ending_of_spanned
      (region.passed (Record.stream records).length) _ power held (spanned.passed within) none
    rw [poll, polled]
    have most : records.length ≤ (region.page.head.toNat - region.page.tail.toNat) / 16 := by omega
    refine ⟨most, rfl, fun _ => ?_, fun astray => absurd spanned astray⟩
    exact ⟨_, joined, parts.framed, fun _ _ => parts.longest, Region.toNat_tail_passed within, drained,
      fun left => ⟨(Record.front?_eq_none_iff _).mp none, corrupted left⟩⟩
  · have polled := pollFor_of_not_spanned spanned (Nat.succ_pos (region.page.used.toNat / 16))
    rw [poll, pollFuel, polled]
    exact ⟨Nat.zero_le _, rfl, fun spans => absurd spans spanned, fun _ => ⟨rfl, rfl, rfl⟩⟩

/-- A poll hands on the longest run of whole records at the front of what lies between the cursors, and
ends by itself; once it has stopped in front of a bad record, every further poll says the same and moves
nothing until the cursors or the data are changed. A reader in the process of the producer polls to the
same effect, while the notifier leaves the ring alone. -/
theorem Reader.polls_longest_prefix (reader : Reader) (region : Region)
    (power : isPowerOfTwo reader.capacity = true)
    (held : reader.capacity.toNat ≤ region.data.size) :
    let done := reader.poll region
    region.Polled reader.capacity done.1 done.2.1 done.2.2.2 ∧
      (∀ fuel, region.page.used.toNat / 16 < fuel → reader.pollFor region fuel = done) ∧
      (∀ place, done.1 = .corrupted place → ∀ (later : Reader) (other : Region),
        later.capacity = reader.capacity → done.2.2.2.Unmoved other →
          later.poll other = (.corrupted place, [], later, other)) ∧
      ∀ (channel : Channel) (now : UInt64), channel.region = region → channel.Passive →
        let inside := channel.poll now reader
        inside.1 = done.1 ∧ inside.2.1 = done.2.1 ∧ inside.2.2.1 = done.2.2.1 ∧
          inside.2.2.2.region = done.2.2.2 ∧
          ∀ place, done.1 = .corrupted place →
            ∀ (later : Reader) (other : Channel) (time : UInt64),
              later.capacity = reader.capacity → done.2.2.2.Unmoved other.region →
                other.poll time later =
                  (.corrupted place, [], later, other.log (.desynchronised place)) := by
  intro done
  have polled : region.Polled reader.capacity done.1 done.2.1 done.2.2.2 := polled_poll power held
  -- The bad record is there for whoever looks at the same bytes between the same cursors.
  have stays (place : Corruption) (ended : done.1 = .corrupted place) (other : Region)
      (same : done.2.2.2.Unmoved other) :
      other.recordAtTail reader.capacity = .corrupted place := by
    have data : done.2.2.2.data = region.data := by rw [polled.framed]
    rw [← recordAtTail_of_poll power held ended]
    refine Region.recordAtTail_congr power (by rw [data]; exact held)
      (by rw [same.data, data]; exact held) same.tail same.head ?_
    rw [Region.backlog, Region.backlog, same.data, same.tail, same.head]
  refine ⟨polled, fun fuel enough => ?_, fun place ended later other capacity same => ?_,
    fun channel now holds passive => ?_⟩
  · by_cases spanned : region.Spanned reader.capacity
    · rw [ControlPage.toNat_used spanned.1] at enough
      obtain ⟨records, parts, granted⟩ := pollFor_of_spanned power held spanned enough
      obtain ⟨others, partsToo, usual⟩ :=
        pollFor_of_spanned power held spanned (pollFuel_of_spanned spanned)
      obtain rfl := parts.unique partsToo
      exact granted.trans usual.symm
    · rw [pollFor_of_not_spanned spanned (by omega)]
      exact (pollFor_of_not_spanned spanned (Nat.succ_pos _)).symm
  · exact poll_of_corrupted (by rw [capacity]; exact stays place ended other same)
  · subst holds
    obtain ⟨after, inside, same⟩ := Channel.pollFor_of_passive passive now reader
      (pollFuel channel.region.page)
    have answer : channel.poll now reader = _ := inside
    rw [answer]
    refine ⟨rfl, rfl, rfl, same, fun place ended later other time capacity kept => ?_⟩
    exact Channel.poll_of_corrupted (by rw [capacity]; exact stays place ended _ kept) time

/-- A ring of 64 bytes with a packet across the end of the memory, and sixteen zeros behind it. -/
def Region.halfSound : Region where
  page := { ControlPage.fresh 64 50 30 with head := 84, tail := 40 }
  padding := .zeros 4040
  data := ByteRing.write 64 (.zeros 64) 40 ((RecordHeader.packet 12 7).encode ++ List.replicate 12 9)

theorem Reader.polls_longest_prefix_half_sound :
    let reader : Reader := { capacity := 64, inProcess := false }
    isPowerOfTwo reader.capacity = true ∧
      reader.capacity.toNat ≤ Region.halfSound.data.size ∧
      (reader.poll Region.halfSound).1 = .corrupted ⟨68, 84, 16⟩ ∧
      (reader.poll Region.halfSound).2.1.length = 1 ∧
      Region.halfSound.Polled reader.capacity (reader.poll Region.halfSound).1
        (reader.poll Region.halfSound).2.1 (reader.poll Region.halfSound).2.2.2 := by
  intro reader
  have power : isPowerOfTwo reader.capacity = true := by decide
  have held : reader.capacity.toNat ≤ Region.halfSound.data.size := by decide +kernel
  exact ⟨power, held, by decide +kernel, by decide +kernel,
    (reader.polls_longest_prefix Region.halfSound power held).1⟩

end RecordRing
