import RecordRing.Proofs.PatternRoundTrip
import RecordRing.Proofs.ProducerBalance

set_option autoImplicit false

namespace RecordRing

/-- The record is the packet with this place in a run of these pushes: it has the time of its push and
the next number, and its payload is sound. -/
inductive Record.Numbers (size : Nat) (pushes : List Push) (place : Nat) : Record → Prop
  | packet {push : Push} {payload : Bytes} (made : pushes[place]? = some push)
      (long : payload.length = size)
      (sound : LoadPattern.verify (.ofBytes payload) =
        .ok (push.time, UInt64.ofNat (place + 1))) :
      Numbers size pushes place (.ofPayload push.time payload)

namespace Record

variable {size place : Nat} {pushes more : List Push} {record : Record} {records : List Record}

theorem Numbers.append (numbers : record.Numbers size pushes place) (more : List Push) :
    record.Numbers size (pushes ++ more) place := by
  obtain ⟨made, long, sound⟩ := numbers
  obtain ⟨inside, -⟩ := List.getElem?_eq_some_iff.mp made
  exact .packet ((List.getElem?_append_left inside).trans made) long sound

theorem Numbers.length_encode (numbers : record.Numbers size pushes place) :
    record.encode.length = 16 + size := by
  obtain ⟨-, long, -⟩ := numbers
  rw [length_encode_ofPayload, long]

/-- The packet of the next push has the next place, behind those of the pushes before it. -/
theorem numbers_concat
    (numbers : ∀ (place : Nat) (record : Record), records[place]? = some record →
      record.Numbers size pushes place)
    (all : records.length = pushes.length) {push : Push} {payload : Bytes}
    (long : payload.length = size)
    (sound : LoadPattern.verify (.ofBytes payload) =
      .ok (push.time, UInt64.ofNat (pushes.length + 1))) :
    ∀ (place : Nat) (record : Record),
      (records ++ [.ofPayload push.time payload])[place]? = some record →
        record.Numbers size (pushes ++ [push]) place := by
  intro place record there
  rcases Nat.lt_or_ge place records.length with old | new
  · rw [List.getElem?_append_left old] at there
    exact (numbers place record there).append [push]
  · rw [List.getElem?_append_right new, List.getElem?_singleton] at there
    split at there
    · cases there
      have last : place = pushes.length := by omega
      subst last
      exact .packet List.getElem?_concat_length long sound
    · cases there

theorem length_stream_of_numbers
    (numbers : ∀ (place : Nat) (record : Record), records[place]? = some record →
      record.Numbers size pushes place) :
    (stream records).length = records.length * (16 + size) := by
  have each : ∀ record ∈ records, record.encode.length = 16 + size := by
    intro record member
    obtain ⟨place, there⟩ := List.mem_iff_getElem?.mp member
    exact (numbers place record there).length_encode
  clear numbers
  induction records with
  | nil => exact (Nat.zero_mul _).symm
  | cons record rest ih =>
      rw [stream_cons, List.length_append, each record List.mem_cons_self,
        ih fun other member => each other (List.mem_cons_of_mem _ member), List.length_cons,
        Nat.succ_mul, Nat.add_comm]

end Record

namespace Channel

variable {channel : Channel}

/-- Where no episode is open, there is nothing in front of the packet. -/
theorem offers_of_closed (channel : Channel) (calm : channel.page.isDropping = false) (now : UInt64)
    (payload : Bytes) : channel.offers now payload = [.ofPayload now payload] := by
  rw [offers, Record.ofPush, Record.owed, if_pos (channel.misses_page.eq_zero calm)]
  rfl

/-- Where no episode is open, a packet that is written leaves the count of the last one. -/
theorem episodeCount_push (unbound : channel.slot.bound = none) (now : UInt64) (payload : Bytes)
    (calm : channel.page.isDropping = false) (written : (channel.push now payload).1 = .written) :
    (channel.push now payload).2.page.episodeCount = channel.page.episodeCount := by
  unfold push at written ⊢
  rw [calm] at written ⊢
  by_cases long : payload.length > channel.maxPayload.toNat
  · rw [if_pos long]
  · rw [if_neg long] at written ⊢
    dsimp only at written ⊢
    split at written
    · cases written
    · rename_i head free
      let packet : RecordHeader := .packet (UInt64.ofNat payload.length).toUInt32 now
      have still := still_evaluateWatermarks now
        (.of_unbound unbound : (channel.writeRecord head packet payload).2.Passive)
      have same := congrArg (fun region : Region => region.page.episodeCount) still.region
      exact same

/-- What is told and noted behind a record leaves it where it was written. -/
theorem Wrote.still {before middle after : Channel} {records : List Record}
    (wrote : Wrote before records middle) (still : Still middle after) :
    Wrote before records after where
  toFramed := wrote.toFramed.trans still.framed
  data := by rw [still.region, wrote.data]
  head := by
    rw [← wrote.head]
    exact congrArg (fun region : Region => region.page.head) still.region
  tail := by
    rw [← wrote.tail]
    exact congrArg (fun region : Region => region.page.tail) still.region
  drops := still.drops.trans wrote.drops
  count := still.records.trans wrote.count
  bytes := still.bytes.trans wrote.bytes
  bound := still.bound.trans wrote.bound

end Channel

namespace LoadGenerator

/-- After so many pushes to an empty ring these packets are in it, from its first byte on. -/
structure Filled (capacity : UInt64) (length : Nat) (pushes : List Push) (records : List Record)
    (generator : LoadGenerator) (channel : Channel) : Prop where
  capacity : channel.capacity = capacity
  unbound : channel.slot.bound = none
  suits : generator.Suits channel
  size : generator.buffer.size = length
  least : LoadPattern.minPayload ≤ length
  sequence : generator.sequence = UInt64.ofNat pushes.length
  count : records.length = min pushes.length (channel.capacity.toNat / (16 + length))
  numbers : ∀ (place : Nat) (record : Record), records[place]? = some record →
    record.Numbers length pushes place
  written : Push.written pushes = records.length
  lined : channel.Lined records
  tail : channel.page.tail = 0
  exact : channel.region.data.size = channel.capacity.toNat
  /-- Behind the packets the ring is as it was made. -/
  blank : ∀ index, (Record.stream records).length ≤ index → index < channel.capacity.toNat →
    channel.region.data.get? index = some 0
  misses : channel.Misses (pushes.length - records.length)
    ((pushes[records.length]?.map Push.time).getD 0)
  episode : channel.page.episodeCount = UInt64.ofNat (pushes.length - records.length)

variable {generator : LoadGenerator} {channel : Channel} {capacity : UInt64} {length : Nat}
  {pushes : List Push} {records : List Record}

/-- The payload that is pushed next follows the pattern, under the next number. -/
theorem Filled.verify (filled : Filled capacity length pushes records generator channel)
    (now : UInt64) :
    LoadPattern.verify (.ofBytes (generator.payload now).toBytes) =
      .ok (now, UInt64.ofNat (pushes.length + 1)) := by
  have next : generator.sequence + 1 = UInt64.ofNat (pushes.length + 1) := by
    rw [filled.sequence, UInt64.ofNat_add]
    rfl
  rw [← next]
  refine LoadPattern.verify_ofBytes_fill ?_ now _
  rw [filled.size]
  exact filled.least

/-- How many packets there are, and how much room they take. -/
theorem Filled.toNat_used (filled : Filled capacity length pushes records generator channel) :
    records.length ≤ pushes.length ∧ channel.page.used.toNat = records.length * (16 + length) := by
  have count := filled.count
  refine ⟨by omega, ?_⟩
  rw [filled.lined.toNat_used, Record.length_stream_of_numbers filled.numbers]

theorem Filled.toNat_head (filled : Filled capacity length pushes records generator channel) :
    channel.page.head.toNat = records.length * (16 + length) := by
  obtain ⟨-, used⟩ := filled.toNat_used
  rw [← used, ControlPage.used, filled.tail, UInt64.sub_zero]

/-- Where there is no room for another packet, the push is dropped. -/
theorem Filled.dropped (filled : Filled capacity length pushes records generator channel)
    (full : channel.capacity.toNat / (16 + length) ≤ pushes.length) (now need : UInt64)
    {next : LoadGenerator} (suits : next.Suits (channel.noteDrop now need))
    (size : next.buffer.size = length) (sequence : next.sequence = generator.sequence + 1) :
    Filled capacity length (pushes ++ [⟨now, .dropped, []⟩]) records next
      (channel.noteDrop now need) := by
  have steady := channel.steady_noteDrop now need
  have tail := channel.tail_noteDrop now need
  have misses := Channel.misses_noteDrop filled.misses now need
  have total : (pushes ++ [(⟨now, .dropped, []⟩ : Push)]).length = pushes.length + 1 :=
    List.length_append
  have count := filled.count
  have missed : pushes.length + 1 - records.length = pushes.length - records.length + 1 := by omega
  constructor
  case capacity => exact steady.capacity.trans filled.capacity
  case unbound => exact steady.bound.trans filled.unbound
  case suits => exact suits
  case size => exact size
  case least => exact filled.least
  case sequence =>
    rw [sequence, filled.sequence, total, UInt64.ofNat_add]
    rfl
  case count =>
    rw [total, steady.capacity]
    omega
  case numbers => exact fun place record there => (filled.numbers place record there).append _
  case written =>
    rw [Push.written_append, filled.written]
    rfl
  case lined =>
    exact filled.lined.of_same steady.capacity steady.named steady.data steady.head tail
  case tail => exact tail.trans filled.tail
  case exact =>
    rw [steady.data, steady.capacity]
    exact filled.exact
  case blank =>
    rw [steady.data, steady.capacity]
    exact filled.blank
  case misses =>
    rw [total, missed]
    -- The first push that is dropped dates the episode; a later one leaves the date as it is.
    have since : (if pushes.length - records.length = 0 then now
        else (pushes[records.length]?.map Push.time).getD 0) =
        ((pushes ++ [⟨now, .dropped, []⟩])[records.length]?.map Push.time).getD 0 := by
      split
      · have same : records.length = pushes.length := by omega
        rw [same, List.getElem?_concat_length]
        rfl
      · rw [List.getElem?_append_left (by omega)]
    exact since ▸ misses
  case episode =>
    rw [total, missed]
    exact misses.count (Nat.succ_pos _)

/-- Where there is room for another packet, it is written behind the others. -/
theorem Filled.wrote (filled : Filled capacity length pushes records generator channel)
    (free : pushes.length < channel.capacity.toNat / (16 + length)) {now : UInt64} {payload : Bytes}
    (long : payload.length = length)
    (sound : LoadPattern.verify (.ofBytes payload) = .ok (now, UInt64.ofNat (pushes.length + 1)))
    (framed : (Record.ofPayload now payload).WellFormed) {after : Channel}
    (wrote : channel.Wrote [.ofPayload now payload] after) (calm : after.page.isDropping = false)
    (episode : after.page.episodeCount = channel.page.episodeCount) {next : LoadGenerator}
    (suits : next.Suits after)
    (size : next.buffer.size = length) (sequence : next.sequence = generator.sequence + 1)
    (told : List Record) :
    Filled capacity length (pushes ++ [⟨now, .written, told⟩]) (records ++ [.ofPayload now payload])
      next after := by
  have total : (pushes ++ [(⟨now, .written, told⟩ : Push)]).length = pushes.length + 1 :=
    List.length_append
  have grown : (records ++ [Record.ofPayload now payload]).length = records.length + 1 :=
    List.length_append
  have count := filled.count
  obtain ⟨-, used⟩ := filled.toNat_used
  -- There was room for every push so far, so nothing has been dropped.
  have all : records.length = pushes.length := by omega
  have room : (records.length + 1) * (16 + length) ≤ channel.capacity.toNat :=
    (Nat.le_div_iff_mul_le (by omega)).mp (by omega)
  rw [Nat.succ_mul] at room
  have stream := Record.length_stream_of_numbers filled.numbers
  have one : (Record.stream [Record.ofPayload now payload]).length = 16 + length := by
    rw [Record.stream_cons, Record.stream_nil, List.append_nil, Record.length_encode_ofPayload, long]
  constructor
  case capacity => exact wrote.capacity.trans filled.capacity
  case unbound => exact wrote.bound.trans filled.unbound
  case suits => exact suits
  case size => exact size
  case least => exact filled.least
  case sequence =>
    rw [sequence, filled.sequence, total, UInt64.ofNat_add]
    rfl
  case count =>
    rw [total, grown, wrote.capacity]
    omega
  case numbers =>
    exact @Record.numbers_concat length pushes records filled.numbers all ⟨now, .written, told⟩ payload
      long sound
  case written =>
    rw [Push.written_append, filled.written, grown]
    rfl
  case lined =>
    refine filled.lined.of_wrote wrote ?_ ?_
    · intro record member
      rw [List.mem_singleton.mp member]
      exact framed
    · rw [used, one]
      exact room
  case tail => exact wrote.tail.trans filled.tail
  case exact =>
    rw [wrote.size, wrote.capacity]
    exact filled.exact
  case blank =>
    intro index behind inside
    rw [Record.stream_append, List.length_append, stream, one] at behind
    rw [wrote.capacity] at inside
    rw [wrote.data, ByteRing.get?_fill_outside]
    · exact filled.blank index (by omega) inside
    · intro i within
      rw [one] at within
      rw [filled.toNat_head, Nat.mod_eq_of_lt (by omega)]
      omega
  case misses =>
    rw [total, grown, all, Nat.sub_self]
    refine ⟨?_, fun missed => absurd missed (Nat.lt_irrefl 0),
      fun missed => absurd missed (Nat.lt_irrefl 0)⟩
    simp only [calm, Bool.false_eq_true, Nat.lt_irrefl]
  case episode =>
    rw [episode, filled.episode, total, grown, all, Nat.sub_self, Nat.sub_self]

/-- No episode is open while there is room. -/
theorem Filled.calm (filled : Filled capacity length pushes records generator channel)
    (free : pushes.length < channel.capacity.toNat / (16 + length)) :
    records.length = pushes.length ∧ channel.page.isDropping = false := by
  have count := filled.count
  have all : records.length = pushes.length := by omega
  have opened := filled.misses.dropping
  rw [all, Nat.sub_self] at opened
  exact ⟨all, Bool.eq_false_iff.mpr fun dropping => Nat.lt_irrefl 0 (opened.mp dropping)⟩

/-- The records of a push fit in where there is room for one more packet. -/
theorem Filled.fits_iff (filled : Filled capacity length pushes records generator channel) (now : UInt64)
    {payload : Bytes} (long : payload.length = length) :
    channel.page.used.toNat + (Record.stream (channel.offers now payload)).length ≤
        channel.capacity.toNat ↔
      pushes.length < channel.capacity.toNat / (16 + length) := by
  obtain ⟨few, used⟩ := filled.toNat_used
  have offered := channel.length_offers now payload
  have fits : records.length + 1 ≤ channel.capacity.toNat / (16 + length) ↔
      (records.length + 1) * (16 + length) ≤ channel.capacity.toNat :=
    Nat.le_div_iff_mul_le (Nat.add_pos_left (by decide) length)
  rw [Nat.succ_mul] at fits
  rw [used, offered, long]
  constructor
  · intro room
    have count := filled.count
    have more := fits.mpr (by omega)
    omega
  · intro free
    obtain ⟨all, calm⟩ := filled.calm free
    have room := fits.mp (all ▸ free)
    rw [calm, if_neg Bool.false_ne_true]
    exact room

/-- The next push is written where there is room for one more packet, and else it is dropped. -/
theorem Filled.tick (filled : Filled capacity length pushes records generator channel)
    (now : UInt64) :
    ∃ more, Filled capacity length (pushes ++ [channel.pushed now (generator.payload now).toBytes])
      (records ++ more) (generator.tick channel now).2.1 (generator.tick channel now).2.2 := by
  obtain ⟨-, suits⟩ := filled.suits.tick now now
  have long : (generator.payload now).toBytes.length = length := by
    rw [Buffer.length_toBytes, generator.size_payload, filled.size]
  have size : (generator.payload now).size = length := by rw [generator.size_payload, filled.size]
  have sound := filled.verify now
  have fits := filled.fits_iff now long
  have count := channel.episodeCount_push filled.unbound now (generator.payload now).toBytes
  have found := Channel.pushed_push filled.suits.power channel.misses_page now
    (generator.payload now).toBytes
  have short := filled.suits.short
  rw [filled.size, ← long] at short
  change ∃ more, Filled capacity length (pushes ++ [channel.pushed now (generator.payload now).toBytes])
    (records ++ more) ⟨generator.payload now, generator.sequence + 1⟩
      (channel.push now (generator.payload now).toBytes).2
  change LoadGenerator.Suits ⟨generator.payload now, generator.sequence + 1⟩
      (channel.push now (generator.payload now).toBytes).2 at suits
  unfold Channel.pushed
  generalize channel.push now (generator.payload now).toBytes = done at found count suits ⊢
  obtain ⟨outcome, after⟩ := done
  cases found with
  | tooLarge large => exact absurd short (Nat.not_le.mpr large)
  | dropped _ full =>
      refine ⟨[], ?_⟩
      rw [List.append_nil]
      have crowded := Nat.le_of_not_lt fun free => Nat.not_le.mpr full (fits.mpr free)
      exact filled.dropped crowded now _ suits size rfl
  | written written _ room wrote closed chronicle =>
      refine ⟨channel.offers now (generator.payload now).toBytes, ?_⟩
      have still := Channel.still_evaluateWatermarks now
        (.of_unbound (wrote.bound.trans filled.unbound) : written.Passive)
      have free := fits.mp room
      obtain ⟨-, calm⟩ := filled.calm free
      have narrow := Nat.lt_of_le_of_lt short channel.toNat_maxPayload_lt
      have alone := channel.offers_of_closed calm now (generator.payload now).toBytes
      change channel.Wrote (channel.offers now (generator.payload now).toBytes) written at wrote
      rw [alone] at wrote
      have calmAfter : (written.evaluateWatermarks now).page.isDropping = false :=
        (congrArg (fun region : Region => region.page.isDropping) still.region).trans closed
      have done := filled.wrote free long sound (Record.wellFormed_ofPayload now narrow)
        (wrote.still still) calmAfter (count calm rfl) suits size rfl
        (channel.offers now (generator.payload now).toBytes)
      rw [← alone] at done
      exact done

end LoadGenerator

end RecordRing
