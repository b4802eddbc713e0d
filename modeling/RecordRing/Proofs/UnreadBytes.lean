import RecordRing.Proofs.Publication

set_option autoImplicit false

namespace RecordRing

namespace ByteRing

structure Copy where
  position : UInt64
  bytes : Bytes

def writeAll (capacity : UInt64) (data : Buffer) (copies : List Copy) : Buffer :=
  copies.foldl (fun data copy => write capacity data copy.position copy.bytes) data

/-- A copy is no longer than the ring, and both of its pieces end inside it. -/
structure Copy.Inside (capacity : UInt64) (copy : Copy) : Prop where
  fits : copy.bytes.length ≤ capacity.toNat
  first : offset capacity copy.position + firstPiece capacity copy.position copy.bytes.length ≤
    capacity.toNat
  second : copy.bytes.length - firstPiece capacity copy.position copy.bytes.length ≤ capacity.toNat

theorem Copy.inside_of_fits {capacity : UInt64} (power : isPowerOfTwo capacity = true) {copy : Copy}
    (fits : copy.bytes.length ≤ capacity.toNat) : copy.Inside capacity := by
  have below := Nat.mod_lt copy.position.toNat (capacity_pos power)
  refine ⟨fits, ?_, ?_⟩
  · rw [firstPiece, offset_eq_mod power]
    omega
  · exact Nat.le_trans (Nat.sub_le _ _) fits

end ByteRing

namespace Record

/-- The copies that store records one after another: of each one the header, then the body. -/
def copies (position : UInt64) : List Record → List ByteRing.Copy
  | [] => []
  | record :: rest =>
      ⟨position, record.header.encode⟩ :: ⟨position + 16, record.body⟩ ::
        copies (position + record.header.span) rest

theorem length_le_of_copies {position : UInt64} {records : List Record} {copy : ByteRing.Copy}
    (member : copy ∈ copies position records) : copy.bytes.length ≤ (stream records).length := by
  induction records generalizing position with
  | nil => cases member
  | cons record rest ih =>
      have width := record.length_encode_eq
      rw [stream_cons, List.length_append]
      rcases List.mem_cons.mp member with rfl | later
      · rw [RecordHeader.length_encode]
        omega
      · rcases List.mem_cons.mp later with rfl | other
        · dsimp only
          omega
        · exact Nat.le_trans (ih other) (Nat.le_add_left ..)

/-- Together they fill the ring with the stream. -/
theorem writeAll_copies {capacity : UInt64} (power : isPowerOfTwo capacity = true) (data : Buffer)
    (position : UInt64) {records : List Record} (framed : ∀ record ∈ records, record.WellFormed)
    (fits : (stream records).length ≤ capacity.toNat) :
    ByteRing.writeAll capacity data (copies position records) =
      ByteRing.fill capacity.toNat data position.toNat (stream records) := by
  induction records generalizing data position with
  | nil => rfl
  | cons record rest ih =>
      have span := record.length_encode (framed record List.mem_cons_self)
      rw [stream_cons, List.length_append] at fits
      have next : (position + record.header.span).toNat % capacity.toNat =
          (position.toNat + record.encode.length) % capacity.toNat := by
        rw [← ByteRing.toNat_add_mod power, span, UInt64.ofNat_toNat]
      change ByteRing.writeAll capacity (ByteRing.write capacity
        (ByteRing.write capacity data position record.header.encode) (position + 16) record.body)
          (copies (position + record.header.span) rest) = _
      rw [write_header_body power data position record (by omega),
        ih _ _ (fun other member => framed other (List.mem_cons_of_mem _ member)) (by omega),
        ByteRing.fill_congr _ _ next, ByteRing.write_eq_fill power _ _ record.encode (by omega),
        stream_cons, ByteRing.fill_append]

end Record

/-- How many pushes were dropped in the episode that the page says is open. Its count is a word, so a
count of zero in an open episode stands for a whole turn of it. -/
def ControlPage.missed (page : ControlPage) : Nat :=
  if page.isDropping then
    if page.episodeCount = 0 then UInt64.size else page.episodeCount.toNat
  else 0

namespace Channel

theorem misses_page (channel : Channel) :
    Misses channel channel.page.missed channel.page.episodeStart := by
  unfold ControlPage.missed
  cases dropping : channel.page.isDropping with
  | false => exact ⟨by simp [dropping], nofun, nofun⟩
  | true =>
      rw [if_pos rfl]
      split
      · rename_i zero
        exact ⟨by simp [dropping], fun _ => zero, fun _ => rfl⟩
      · rename_i other
        have positive : 0 < channel.page.episodeCount.toNat := by
          apply Nat.pos_of_ne_zero
          intro zero
          exact other (UInt64.toNat_inj.mp zero)
        exact ⟨by simp [dropping, positive], fun _ => UInt64.ofNat_toNat.symm, fun _ => rfl⟩

/-- The records that a push publishes if it finds room, whatever stands on the page. -/
def offers (channel : Channel) (now : UInt64) (payload : Bytes) : List Record :=
  Record.ofPush channel.page.missed channel.page.episodeStart now payload

theorem length_offers (channel : Channel) (now : UInt64) (payload : Bytes) :
    (Record.stream (channel.offers now payload)).length =
      16 + payload.length + if channel.page.isDropping then 36 else 0 := by
  rw [offers, Record.length_stream_ofPush]
  have misses := channel.misses_page
  cases dropping : channel.page.isDropping with
  | false => rw [if_pos (misses.eq_zero dropping), if_neg Bool.false_ne_true, Nat.zero_add, Nat.add_zero]
  | true => rw [if_neg (misses.ne_zero dropping), if_pos rfl, Nat.add_comm]

/-- The bytes of a push that found room went where nobody was going to read, and nowhere else. -/
structure Appended (before : Channel) (now : UInt64) (payload : Bytes) (after : Channel) : Prop where
  /-- Every copy stays inside the data ring, and all of them make up what was written. -/
  inside : ∀ copy ∈ Record.copies before.page.head (before.offers now payload),
    copy.Inside before.capacity
  held : before.capacity.toNat ≤ after.region.data.size
  copied : after.region.data = ByteRing.writeAll before.capacity before.region.data
    (Record.copies before.page.head (before.offers now payload))
  /-- The cells from the head on hold the records, and every other cell holds what it held. -/
  stored : ∀ i < (Record.stream (before.offers now payload)).length,
    after.region.data.get? (ByteRing.offset before.capacity (before.page.head + UInt64.ofNat i)) =
      (Record.stream (before.offers now payload))[i]?
  kept : ∀ index, (∀ i < (Record.stream (before.offers now payload)).length,
      index ≠ ByteRing.offset before.capacity (before.page.head + UInt64.ofNat i)) →
    after.region.data.get? index = before.region.data.get? index
  /-- None of these cells is one of a byte that was still to be read. -/
  apart : ∀ i < (Record.stream (before.offers now payload)).length, ∀ j < before.page.used.toNat,
    ByteRing.offset before.capacity (before.page.head + UInt64.ofNat i) ≠
      ByteRing.offset before.capacity (before.page.tail + UInt64.ofNat j)

theorem appended_of_fill {before after : Channel} {now : UInt64} {payload : Bytes}
    (power : isPowerOfTwo before.capacity = true)
    (held : before.capacity.toNat ≤ before.region.data.size)
    (short : payload.length ≤ before.maxPayload.toNat)
    (room : before.page.used.toNat + (Record.stream (before.offers now payload)).length ≤
      before.capacity.toNat)
    (data : after.region.data = ByteRing.fill before.capacity.toNat before.region.data
      before.page.head.toNat (Record.stream (before.offers now payload))) :
    Appended before now payload after := by
  have framed := Record.wellFormed_ofPush before.page.missed before.page.episodeStart now
    (Nat.lt_of_le_of_lt short before.toNat_maxPayload_lt)
  have fits : (Record.stream (before.offers now payload)).length ≤ before.capacity.toNat := by omega
  have grown := Record.writeAll_copies power before.region.data before.page.head framed fits
  refine ⟨fun copy member => ?_, ?_, data.trans grown.symm, fun i hi => ?_, fun index outside => ?_,
    fun i hi j hj => ?_⟩
  · exact ByteRing.Copy.inside_of_fits power
      (Nat.le_trans (Record.length_le_of_copies member) fits)
  · rw [data, ByteRing.size_fill]
    exact held
  · rw [ByteRing.offset_add power, data]
    exact ByteRing.get?_fill_inside before.region.data before.page.head.toNat _ fits held hi
  · rw [data]
    refine ByteRing.get?_fill_outside before.region.data before.page.head.toNat _ fun i hi => ?_
    rw [← ByteRing.offset_add power]
    exact outside i hi
  · -- The head is as far behind the tail as the ring is used, whether or not it has wrapped.
    have head : before.page.head = before.page.tail + UInt64.ofNat before.page.used.toNat := by
      rw [UInt64.ofNat_toNat, ControlPage.used, UInt64.add_comm, UInt64.sub_add_cancel]
    rw [head, UInt64.add_assoc, ← UInt64.ofNat_add, ByteRing.offset_add power,
      ByteRing.offset_add power]
    exact (ByteRing.cell_ne (by omega) (by omega)).symm

/-- The head is as many bytes on as the records of the push have, and the tail is where it was. -/
structure Onwards (before : Channel) (payload : Bytes) (after : Channel) : Prop where
  head : after.page.head.toNat =
    before.page.head.toNat + (16 + payload.length + if before.page.isDropping then 36 else 0)
  tail : after.page.tail = before.page.tail

theorem onwards_of_wrote {before after : Channel} {now : UInt64} {payload : Bytes}
    (bound : before.page.head.toNat + payload.length + 52 < UInt64.size)
    (wrote : before.Wrote (before.offers now payload) after) : Onwards before payload after := by
  have size := before.length_offers now payload
  have most : (Record.stream (before.offers now payload)).length ≤ payload.length + 52 := by
    rw [size]
    split <;> omega
  refine ⟨?_, wrote.tail⟩
  rw [wrote.head, UInt64.toNat_add, UInt64.toNat_ofNat', Nat.add_mod_mod, ← size]
  apply Nat.mod_eq_of_lt
  change _ < UInt64.size
  omega

theorem Onwards.still {before middle after : Channel} {payload : Bytes}
    (onwards : Onwards before payload middle) (still : Still middle after) :
    Onwards before payload after := by
  have page : after.page = middle.page := congrArg Region.page still.region
  refine ⟨?_, ?_⟩
  · rw [page]
    exact onwards.head
  · rw [page]
    exact onwards.tail

/-- What a push does to cursors and data, whatever stands on the page. -/
structure Spares (before : Channel) (now : UInt64) (payload : Bytes) (outcome : PushOutcome)
    (after : Channel) : Prop where
  /-- Cursors more than a lap apart leave no room. -/
  astray : before.capacity < before.page.used → outcome ≠ .tooLarge → outcome = .dropped
  unwritten : outcome ≠ .written → after.page.head = before.page.head ∧
    after.page.tail = before.page.tail ∧ after.region.data = before.region.data
  written : outcome = .written → Appended before now payload after
  /-- Whoever is bound finds the head behind what was written, and the tail where it was. -/
  published : outcome = .written → ∃ ready : Channel, after = ready.evaluateWatermarks now ∧
    Onwards before payload ready
  /-- There they stay, unless a notifier acts on the ring. -/
  settled : outcome = .written → before.Passive → Onwards before payload after

/-- A push never writes over a byte that is still to be read. It writes just the cells behind the head,
by copies inside the data ring, and moves the head behind them; only a notifier that acts on the ring
can move a cursor after that. Without room it touches neither cursor and no byte. -/
theorem push_spares_unread (channel : Channel) (power : isPowerOfTwo channel.capacity = true)
    (held : channel.capacity.toNat ≤ channel.region.data.size) (now : UInt64) (payload : Bytes)
    (bound : channel.page.head.toNat + payload.length + 52 < UInt64.size) :
    Spares channel now payload (channel.push now payload).1 (channel.push now payload).2 ∧
      (Record.stream (channel.offers now payload)).length =
        16 + payload.length + if channel.page.isDropping then 36 else 0 := by
  have pushed := pushed_push power channel.misses_page now payload
  refine ⟨?_, channel.length_offers now payload⟩
  generalize channel.push now payload = done at pushed ⊢
  obtain ⟨outcome, after⟩ := done
  cases pushed with
  | tooLarge long =>
      exact ⟨fun _ fits => absurd rfl fits, fun _ => ⟨rfl, rfl, rfl⟩, nofun, nofun, nofun⟩
  | dropped short full =>
      have steady := channel.steady_noteDrop now (16 + UInt64.ofNat payload.length)
      exact ⟨fun _ _ => rfl,
        fun _ => ⟨steady.head, channel.tail_noteDrop now _, steady.data⟩, nofun, nofun, nofun⟩
  | written ready short room wrote closed chronicle =>
      have settles := settles_evaluateWatermarks ready now
      have data : (ready.evaluateWatermarks now).region.data = ready.region.data := by
        cases settles with
        | kept kept => exact kept.data
        | cleared answered cleared => exact cleared.data
      have onwards := onwards_of_wrote bound wrote
      constructor
      case astray =>
        intro astray
        rw [UInt64.lt_iff_toNat_lt] at astray
        omega
      case unwritten => exact fun other => absurd rfl other
      case written => exact fun _ => appended_of_fill power held short room (data.trans wrote.data)
      case published => exact fun _ => ⟨ready, rfl, onwards⟩
      case settled =>
        intro _ passive
        exact onwards.still (still_evaluateWatermarks now (passive.of_bound wrote.bound))

/-- A ring of 64 bytes with twelve of them unread, across the end of the memory, and an episode open
whose count somebody has cleared. -/
def nearlyFull : Channel where
  region :=
    { page := { ControlPage.fresh 64 50 30 with head := 72, tail := 60, flags := 5, episodeStart := 3 }
      padding := .zeros 4040
      data := .zeros 64 }
  capacity := 64
  rate := 2000

/-- The summary and an empty payload take the last 52 bytes. -/
theorem push_spares_unread_to_the_brim :
    isPowerOfTwo nearlyFull.capacity = true ∧
      nearlyFull.capacity.toNat ≤ nearlyFull.region.data.size ∧
      nearlyFull.page.head.toNat + ([] : Bytes).length + 52 < UInt64.size ∧
      (nearlyFull.push 9 []).1 = .written ∧ nearlyFull.Passive ∧
      Spares nearlyFull 9 [] (nearlyFull.push 9 []).1 (nearlyFull.push 9 []).2 ∧
      Onwards nearlyFull [] (nearlyFull.push 9 []).2 := by
  have power : isPowerOfTwo nearlyFull.capacity = true := by decide
  have held : nearlyFull.capacity.toNat ≤ nearlyFull.region.data.size := by decide
  have bound : nearlyFull.page.head.toNat + ([] : Bytes).length + 52 < UInt64.size := by decide
  have written : (nearlyFull.push 9 []).1 = .written := by decide +kernel
  have passive : nearlyFull.Passive := .of_unbound rfl
  obtain ⟨spares, -⟩ := nearlyFull.push_spares_unread power held 9 [] bound
  exact ⟨power, held, bound, written, passive, spares, spares.settled written passive⟩

/-- A ring of 64 bytes with 28 of them unread, bound to a notifier that reacts to its signals. -/
def halfFull (reaction : Reaction) : Channel where
  region :=
    { page := { ControlPage.fresh 64 50 30 with head := 28 }
      padding := .zeros 4040
      data := .zeros 64 }
  capacity := 64
  rate := 2000
  slot := { bound := some (.counting 0 reaction) }
  counts := #[0]

/-- Where the notifier drains the ring or resets it, the cursors are not left behind what was written: the
tail has followed the head, or both are back at the start. -/
theorem push_moves_cursors_of_acting_notifier :
    let drained := ((halfFull .drain).push 3 (List.replicate 12 8)).2
    let renewed := ((halfFull .reset).push 3 (List.replicate 12 8)).2
    (∀ reaction, isPowerOfTwo (halfFull reaction).capacity = true ∧
      (halfFull reaction).capacity.toNat ≤ (halfFull reaction).region.data.size ∧
      (halfFull reaction).page.head.toNat + 12 + 52 < UInt64.size ∧
      (halfFull reaction).page.head = 28 ∧ (halfFull reaction).page.tail = 0 ∧
      (halfFull reaction).page.isDropping = false ∧
      ((halfFull reaction).push 3 (List.replicate 12 8)).1 = .written) ∧
    drained.page.head = 56 ∧ drained.page.tail = 56 ∧
    renewed.page.head = 0 ∧ renewed.page.tail = 0 := by
  refine ⟨fun reaction => ?_, ?_⟩
  · cases reaction <;> decide +kernel
  · decide +kernel

end Channel

end RecordRing
