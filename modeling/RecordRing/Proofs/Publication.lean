import RecordRing.Channel.Producer
import RecordRing.Proofs.Framing
import RecordRing.Proofs.Settling

set_option autoImplicit false

namespace RecordRing

theorem ControlPage.isDropping_setDropping (page : ControlPage) (dropping : Bool) :
    (page.setDropping dropping).isDropping = dropping := by
  cases dropping with
  | true =>
      have absorbed : (page.flags ||| 1) &&& 1 = 1 := by
        rw [← UInt32.toNat_inj, UInt32.toNat_and, UInt32.toNat_or]
        have one : (1 : UInt32).toNat = 1 := rfl
        rw [one, Nat.and_one_is_mod]
        simp
      simp only [isDropping, setDropping, if_true, absorbed]
      rfl
  | false =>
      have cleared : (page.flags &&& ~~~1) &&& 1 = 0 := by
        rw [UInt32.and_assoc]
        exact UInt32.and_zero
      simp [isDropping, setDropping, cleared]

namespace Record

def ofPayload (now : UInt64) (payload : Bytes) : Record :=
  .packet (.packet (UInt32.ofNat payload.length) now) payload

/-- The record of an episode that ends. The lost pushes were counted in a word of 64 bits, of which a
summary tells as many as 32 bits can say. -/
def ofEpisode (missed : Nat) (since now : UInt64) : Record :=
  .drop (.dropSummary now) ⟨UInt32.ofNat (min (missed % UInt64.size) 0xFFFFFFFF), since, now⟩

def owed (missed : Nat) (since now : UInt64) : List Record :=
  if missed = 0 then [] else [ofEpisode missed since now]

/-- What is published at once where `missed` pushes were dropped before. -/
def ofPush (missed : Nat) (since now : UInt64) (payload : Bytes) : List Record :=
  owed missed since now ++ [ofPayload now payload]

theorem wellFormed_ofPayload (now : UInt64) {payload : Bytes} (short : payload.length < UInt32.size) :
    (ofPayload now payload).WellFormed := by
  refine ⟨?_, rfl⟩
  change (UInt32.ofNat payload.length).toNat = payload.length
  rw [UInt32.toNat_ofNat']
  exact Nat.mod_eq_of_lt short

theorem wellFormed_ofEpisode (missed : Nat) (since now : UInt64) :
    (ofEpisode missed since now).WellFormed :=
  ⟨(DropSummary.length_encode _).symm, rfl⟩

theorem wellFormed_ofPush (missed : Nat) (since now : UInt64) {payload : Bytes}
    (short : payload.length < UInt32.size) :
    ∀ record ∈ ofPush missed since now payload, record.WellFormed := by
  intro record member
  rw [ofPush, List.mem_append, List.mem_singleton] at member
  rcases member with owed | rfl
  · unfold Record.owed at owed
    split at owed
    · cases owed
    · rw [List.mem_singleton] at owed
      rw [owed]
      exact wellFormed_ofEpisode missed since now
  · exact wellFormed_ofPayload now short

theorem length_encode_ofPayload (now : UInt64) (payload : Bytes) :
    (ofPayload now payload).encode.length = 16 + payload.length :=
  length_encode_eq _

theorem length_encode_ofEpisode (missed : Nat) (since now : UInt64) :
    (ofEpisode missed since now).encode.length = 36 := by
  rw [length_encode_eq]
  exact congrArg (RecordHeader.size + ·) (DropSummary.length_encode _)

theorem length_stream_owed (missed : Nat) (since now : UInt64) :
    (stream (owed missed since now)).length = if missed = 0 then 0 else 36 := by
  unfold owed
  split
  · rfl
  · rw [stream_cons, stream_nil, List.append_nil, length_encode_ofEpisode]

theorem length_stream_ofPush (missed : Nat) (since now : UInt64) (payload : Bytes) :
    (stream (ofPush missed since now payload)).length =
      (if missed = 0 then 0 else 36) + (16 + payload.length) := by
  rw [ofPush, stream_append, List.length_append, length_stream_owed, stream_cons, stream_nil,
    List.append_nil, length_encode_ofPayload]

/-- Header and body are copied apart, which comes to one copy of the record as it is framed. -/
theorem write_header_body {capacity : UInt64} (power : isPowerOfTwo capacity = true) (data : Buffer)
    (position : UInt64) (record : Record) (fits : record.encode.length ≤ capacity.toNat) :
    ByteRing.write capacity (ByteRing.write capacity data position record.header.encode)
        (position + 16) record.body =
      ByteRing.write capacity data position record.encode := by
  rw [encode, List.length_append] at fits
  have joined := ByteRing.write_write power data position record.header.encode record.body fits
  rwa [RecordHeader.length_encode] at joined

end Record

theorem DropSummary.capped (count : UInt64) :
    (if count < 0x100000000 then count.toUInt32 else 0xFFFFFFFF) =
      UInt32.ofNat (min count.toNat 0xFFFFFFFF) := by
  rw [← UInt32.toNat_inj, UInt32.toNat_ofNat']
  have bound : (0x100000000 : UInt64).toNat = 4294967296 := rfl
  have last : (0xFFFFFFFF : UInt32).toNat = 4294967295 := rfl
  split
  · rename_i small
    rw [UInt64.lt_iff_toNat_lt, bound] at small
    rw [UInt64.toNat_toUInt32]
    omega
  · rename_i large
    rw [UInt64.lt_iff_toNat_lt, bound] at large
    omega

namespace Channel

/-- Records were added to the stream, and nothing else of it changed. -/
structure Wrote (before : Channel) (records : List Record) (after : Channel) : Prop
    extends Framed before after where
  data : after.region.data = ByteRing.fill before.capacity.toNat before.region.data
    before.page.head.toNat (Record.stream records)
  head : after.page.head = before.page.head + UInt64.ofNat (Record.stream records).length
  tail : after.page.tail = before.page.tail
  drops : after.tallies.drops = before.tallies.drops
  count : after.tallies.records = before.tallies.records + UInt64.ofNat records.length
  bytes : after.tallies.bytes = before.tallies.bytes + UInt64.ofNat (Record.stream records).length
  bound : after.slot.bound = before.slot.bound

theorem Wrote.trans {first middle last : Channel} {records more : List Record}
    (power : isPowerOfTwo first.capacity = true) (left : Wrote first records middle)
    (right : Wrote middle more last) : Wrote first (records ++ more) last where
  toFramed := left.toFramed.trans right.toFramed
  data := by
    have cell := ByteRing.toNat_add_mod power first.page.head (Record.stream records).length
    rw [right.data, left.data, left.head, left.capacity, Record.stream_append, ByteRing.fill_append,
      ByteRing.fill_congr _ _ cell]
  head := by
    rw [right.head, left.head, Record.stream_append, List.length_append, UInt64.ofNat_add,
      UInt64.add_assoc]
  tail := right.tail.trans left.tail
  drops := right.drops.trans left.drops
  count := by
    rw [right.count, left.count, List.length_append, UInt64.ofNat_add, UInt64.add_assoc]
  bytes := by
    rw [right.bytes, left.bytes, Record.stream_append, List.length_append, UInt64.ofNat_add,
      UInt64.add_assoc]
  bound := right.bound.trans left.bound

theorem data_writeRecord (channel : Channel) (power : isPowerOfTwo channel.capacity = true)
    (position : UInt64) {record : Record} (fits : record.encode.length ≤ channel.capacity.toNat) :
    (channel.writeRecord position record.header record.body).2.region.data =
      ByteRing.write channel.capacity channel.region.data position record.encode :=
  Record.write_header_body power channel.region.data position record fits

/-- One record is written as it is framed. -/
theorem wrote_writeRecord (channel : Channel) (power : isPowerOfTwo channel.capacity = true)
    {record : Record} (framed : record.WellFormed)
    (fits : record.encode.length ≤ channel.capacity.toNat) :
    Wrote channel [record]
      (channel.writeRecord channel.page.head record.header record.body).2 := by
  have stream : Record.stream [record] = record.encode := List.append_nil _
  have span : record.header.span = UInt64.ofNat record.encode.length := by
    rw [Record.length_encode record framed, UInt64.ofNat_toNat]
  refine ⟨⟨rfl, ?_, rfl, rfl, rfl, fun marked => ⟨marked.1, marked.2, marked.3, marked.4⟩⟩, ?_, ?_,
    rfl, rfl, rfl, ?_, rfl⟩
  · change (ByteRing.write _ (ByteRing.write _ _ _ _) _ _).size = _
    rw [ByteRing.size_write, ByteRing.size_write]
  · rw [stream, channel.data_writeRecord power _ fits, ByteRing.write_eq_fill power _ _ _ fits]
  · rw [stream, ← span]
    rfl
  · rw [stream, ← span]
    rfl

/-- Closing the episode and saying so adds no record. -/
theorem Wrote.closed {before after : Channel} {records : List Record}
    (wrote : Wrote before records after) (event : Event) :
    Wrote before records ((after.modifyPage fun page => page.setDropping false).log event) :=
  { wrote with
    marked := fun marked =>
      let held := wrote.marked marked
      ⟨held.1, held.2, held.3, held.4⟩ }

/-- A channel whose page says that `missed` pushes were dropped since one was written, the first of
them at `since`. -/
structure Misses (channel : Channel) (missed : Nat) (since : UInt64) : Prop where
  dropping : channel.page.isDropping = true ↔ 0 < missed
  count : 0 < missed → channel.page.episodeCount = UInt64.ofNat missed
  start : 0 < missed → channel.page.episodeStart = since

theorem Misses.eq_zero {channel : Channel} {missed : Nat} {since : UInt64}
    (misses : Misses channel missed since) (closed : channel.page.isDropping = false) :
    missed = 0 := by
  have dropping := misses.dropping
  rw [closed] at dropping
  simp only [Bool.false_eq_true, false_iff] at dropping
  omega

theorem Misses.ne_zero {channel : Channel} {missed : Nat} {since : UInt64}
    (misses : Misses channel missed since) (opened : channel.page.isDropping = true) : missed ≠ 0 :=
  Nat.pos_iff_ne_zero.mp (misses.dropping.mp opened)

theorem Misses.of_kept {before after : Channel} (kept : Kept before after) {missed : Nat}
    {since : UInt64} (misses : Misses before missed since) : Misses after missed since where
  dropping := by
    rw [← misses.dropping, ControlPage.isDropping, ControlPage.isDropping, kept.flags]
  count := fun some => kept.episodeCount.trans (misses.count some)
  start := fun some => kept.episodeStart.trans (misses.start some)

def episodeEnd (missed : Nat) (since now : UInt64) : Effect :=
  .logged (.episodeEnded (UInt64.ofNat missed) (if since ≤ now then now - since else 0))

/-- What is said when the episode that is open, if any is, ends. -/
def farewell (missed : Nat) (since now : UInt64) : List Effect :=
  if missed = 0 then [] else [episodeEnd missed since now]

/-- Closing an episode publishes its summary and says so. -/
theorem wrote_flushDropSummary {channel : Channel} (power : isPowerOfTwo channel.capacity = true)
    (room : 36 ≤ channel.capacity.toNat) {missed : Nat} {since : UInt64}
    (misses : Misses channel missed since) (some : 0 < missed) (now : UInt64) :
    let flushed := channel.flushDropSummary channel.page.head now
    Wrote channel [Record.ofEpisode missed since now] flushed.2 ∧
      flushed.1 = flushed.2.page.head ∧ flushed.2.page.isDropping = false ∧
      flushed.2.chronicle = channel.chronicle ++ [episodeEnd missed since now] := by
  intro flushed
  have lost : (if channel.page.episodeCount < 0x100000000 then channel.page.episodeCount.toUInt32
      else 0xFFFFFFFF) = UInt32.ofNat (min (missed % UInt64.size) 0xFFFFFFFF) := by
    rw [DropSummary.capped, misses.count some, UInt64.toNat_ofNat']
  have split : flushed = ((channel.writeRecord channel.page.head
        (Record.ofEpisode missed since now).header (Record.ofEpisode missed since now).body).1,
      ((channel.writeRecord channel.page.head (Record.ofEpisode missed since now).header
        (Record.ofEpisode missed since now).body).2.modifyPage fun page =>
          page.setDropping false).log (.episodeEnded (UInt64.ofNat missed)
            (if since ≤ now then now - since else 0))) := by
    change channel.flushDropSummary channel.page.head now = _
    unfold flushDropSummary
    dsimp only
    rw [lost, misses.count some, misses.start some]
    rfl
  have written := wrote_writeRecord channel power (Record.wellFormed_ofEpisode missed since now)
    (by rw [Record.length_encode_ofEpisode]; exact room)
  rw [split]
  refine ⟨written.closed _, rfl, ?_, ?_⟩
  · exact ControlPage.isDropping_setDropping _ false
  · exact chronicle_push _ (episodeEnd missed since now)

theorem Wrote.nothing (channel : Channel) : Wrote channel [] channel where
  toFramed := (Still.refl channel).framed
  data := rfl
  head := (UInt64.add_zero _).symm
  tail := rfl
  drops := rfl
  count := (UInt64.add_zero _).symm
  bytes := (UInt64.add_zero _).symm
  bound := rfl

/-- Where an episode is open, a push closes it first. -/
theorem wrote_owed {channel : Channel} (power : isPowerOfTwo channel.capacity = true) {missed : Nat}
    {since : UInt64} (misses : Misses channel missed since) (now : UInt64)
    (room : (Record.stream (Record.owed missed since now)).length ≤ channel.capacity.toNat) :
    let flushed :=
      if channel.page.isDropping then channel.flushDropSummary channel.page.head now
      else (channel.page.head, channel)
    Wrote channel (Record.owed missed since now) flushed.2 ∧
      flushed.1 = flushed.2.page.head ∧ flushed.2.page.isDropping = false ∧
      flushed.2.chronicle = channel.chronicle ++ farewell missed since now := by
  intro flushed
  cases dropping : channel.page.isDropping with
  | false =>
      have none := misses.eq_zero dropping
      have same : flushed = (channel.page.head, channel) := if_neg (by rw [dropping]; nofun)
      rw [same, none]
      exact ⟨Wrote.nothing channel, rfl, dropping, (List.append_nil _).symm⟩
  | true =>
      have some := misses.ne_zero dropping
      have same : flushed = channel.flushDropSummary channel.page.head now := if_pos dropping
      rw [Record.length_stream_owed, if_neg some] at room
      rw [same, Record.owed, if_neg some, farewell, if_neg some]
      exact wrote_flushDropSummary power room misses (Nat.pos_of_ne_zero some) now

/-- Whether a push of this need opens an episode or finds one open, the stream stays as it is. -/
theorem steady_noteDrop (channel : Channel) (now need : UInt64) :
    Steady channel (channel.noteDrop now need) := by
  unfold noteDrop
  cases channel.page.isDropping <;>
    exact ⟨⟨rfl, rfl, rfl, rfl, rfl, fun marked => ⟨marked.1, marked.2, marked.3, marked.4⟩⟩, rfl, rfl,
      UInt64.le_refl _, id, rfl, rfl, rfl⟩

theorem tail_noteDrop (channel : Channel) (now need : UInt64) :
    (channel.noteDrop now need).page.tail = channel.page.tail := by
  unfold noteDrop
  cases channel.page.isDropping <;> rfl

theorem misses_noteDrop {channel : Channel} {missed : Nat} {since : UInt64}
    (misses : Misses channel missed since) (now need : UInt64) :
    Misses (channel.noteDrop now need) (missed + 1) (if missed = 0 then now else since) := by
  unfold noteDrop
  cases dropping : channel.page.isDropping with
  | false =>
      have none := misses.eq_zero dropping
      refine ⟨⟨fun _ => Nat.succ_pos _, fun _ => ?_⟩, fun _ => ?_, fun _ => ?_⟩
      · exact ControlPage.isDropping_setDropping _ true
      · rw [none]
        rfl
      · rw [if_pos none]
        rfl
  | true =>
      have some := misses.ne_zero dropping
      refine ⟨⟨fun _ => Nat.succ_pos _, fun _ => dropping⟩, fun _ => ?_, fun _ => ?_⟩
      · change channel.page.episodeCount + 1 = _
        rw [misses.count (Nat.pos_of_ne_zero some), UInt64.ofNat_add]
        rfl
      · rw [if_neg some]
        exact misses.start (Nat.pos_of_ne_zero some)

/-- Only the push that opens an episode says that the ring is full. -/
theorem chronicle_noteDrop {channel : Channel} {missed : Nat} {since : UInt64}
    (misses : Misses channel missed since) (now need : UInt64) :
    (channel.noteDrop now need).chronicle =
      channel.chronicle ++
        if missed = 0 then [.logged (.ringFull need channel.page.used)] else [] := by
  unfold noteDrop
  cases dropping : channel.page.isDropping with
  | false =>
      have none := misses.eq_zero dropping
      rw [if_pos none]
      exact chronicle_push _ (.logged (.ringFull need channel.page.used))
  | true =>
      rw [if_neg (misses.ne_zero dropping), List.append_nil]
      rfl

theorem reserve_eq_some_iff (channel : Channel) (need position : UInt64) :
    channel.reserve need = some position ↔
      channel.page.used.toNat + need.toNat ≤ channel.capacity.toNat ∧
        channel.page.head = position := by
  unfold reserve
  simp only [Bool.and_eq_true, decide_eq_true_eq, UInt64.le_iff_toNat_le]
  split
  · rename_i room
    rw [UInt64.toNat_sub_of_le _ _ (UInt64.le_iff_toNat_le.mpr room.1)] at room
    rw [Option.some.injEq]
    exact ⟨fun same => ⟨by omega, same⟩, And.right⟩
  · rename_i full
    simp only [reduceCtorEq, false_iff]
    rintro ⟨room, -⟩
    have within : channel.page.used.toNat ≤ channel.capacity.toNat := by omega
    rw [UInt64.toNat_sub_of_le _ _ (UInt64.le_iff_toNat_le.mpr within)] at full
    omega

theorem toNat_maxPayload_lt (channel : Channel) : channel.maxPayload.toNat < UInt32.size := by
  have size : UInt32.size = 4294967296 := rfl
  have last : (0xFFFFFFFF : UInt64).toNat = 4294967295 := rfl
  unfold maxPayload RecordRing.maxPayload
  generalize (if channel.capacity < 52 then 0 else channel.capacity - 52) = room
  change (if room ≤ 0xFFFFFFFF then room else 0xFFFFFFFF).toNat < _
  split
  · rename_i less
    rw [UInt64.le_iff_toNat_le] at less
    omega
  · omega

/-- A push asks for as much room as its records take. -/
theorem toNat_need {channel : Channel} {missed : Nat} {since : UInt64}
    (misses : Misses channel missed since) (now : UInt64) {payload : Bytes}
    (short : payload.length ≤ channel.maxPayload.toNat) :
    (if channel.page.isDropping then 16 + UInt64.ofNat payload.length + 36
      else 16 + UInt64.ofNat payload.length).toNat =
        (Record.stream (Record.ofPush missed since now payload)).length := by
  have narrow := Nat.lt_of_le_of_lt short channel.toNat_maxPayload_lt
  have size : UInt32.size = 4294967296 := rfl
  rw [Record.length_stream_ofPush]
  cases dropping : channel.page.isDropping with
  | false =>
      rw [if_pos (misses.eq_zero dropping), if_neg Bool.false_ne_true, UInt64.toNat_add,
        UInt64.toNat_ofNat']
      change (16 + _) % _ = _
      omega
  | true =>
      rw [if_neg (misses.ne_zero dropping), if_pos rfl, UInt64.toNat_add, UInt64.toNat_add,
        UInt64.toNat_ofNat']
      change ((16 + _) % _ + 36) % _ = _
      omega

inductive Pushed (before : Channel) (missed : Nat) (since now : UInt64) (payload : Bytes) :
    PushOutcome → Channel → Prop
  | tooLarge (long : before.maxPayload.toNat < payload.length) :
      Pushed before missed since now payload .tooLarge before
  | dropped (short : payload.length ≤ before.maxPayload.toNat)
      (full : before.capacity.toNat < before.page.used.toNat +
        (Record.stream (Record.ofPush missed since now payload)).length) :
      Pushed before missed since now payload .dropped
        (before.noteDrop now (16 + UInt64.ofNat payload.length))
  | written (written : Channel) (short : payload.length ≤ before.maxPayload.toNat)
      (room : before.page.used.toNat +
        (Record.stream (Record.ofPush missed since now payload)).length ≤ before.capacity.toNat)
      (wrote : Wrote before (Record.ofPush missed since now payload) written)
      (closed : written.page.isDropping = false)
      (chronicle : written.chronicle = before.chronicle ++ farewell missed since now) :
      Pushed before missed since now payload .written (written.evaluateWatermarks now)

theorem pushed_push {channel : Channel} (power : isPowerOfTwo channel.capacity = true) {missed : Nat}
    {since : UInt64} (misses : Misses channel missed since) (now : UInt64) (payload : Bytes) :
    Pushed channel missed since now payload (channel.push now payload).1
      (channel.push now payload).2 := by
  unfold push
  split
  · rename_i long
    exact .tooLarge long
  · rename_i within
    have short : payload.length ≤ channel.maxPayload.toNat := Nat.le_of_not_lt within
    have narrow := Nat.lt_of_le_of_lt short channel.toNat_maxPayload_lt
    have need := toNat_need misses now short
    dsimp only
    split
    · rename_i none
      refine .dropped short ?_
      apply Nat.lt_of_not_le
      intro room
      have free := (channel.reserve_eq_some_iff _ channel.page.head).mpr
        ⟨by rw [need]; exact room, rfl⟩
      rw [none] at free
      cases free
    · rename_i position free
      obtain ⟨room, rfl⟩ := (channel.reserve_eq_some_iff _ position).mp free
      rw [need] at room
      have parts : (Record.stream (Record.ofPush missed since now payload)).length =
          (Record.stream (Record.owed missed since now)).length +
            (Record.ofPayload now payload).encode.length := by
        rw [Record.ofPush, Record.stream_append, List.length_append, Record.stream_cons,
          Record.stream_nil, List.append_nil]
      obtain ⟨flushed, next, closed, chronicle⟩ := wrote_owed power misses now (by omega)
      generalize (if channel.page.isDropping then channel.flushDropSummary channel.page.head now
        else (channel.page.head, channel)) = pending at flushed next closed chronicle ⊢
      obtain ⟨position, ready⟩ := pending
      dsimp only at flushed next closed chronicle ⊢
      have packet := wrote_writeRecord ready (by rw [flushed.capacity]; exact power)
        (Record.wellFormed_ofPayload now narrow) (by rw [flushed.capacity]; omega)
      rw [next, UInt64.toUInt32_ofNat']
      exact .written _ short room (flushed.trans power packet) closed chronicle

end Channel

end RecordRing
