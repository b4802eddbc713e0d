import RecordRing.Channel.Crossing

set_option autoImplicit false

namespace RecordRing

inductive ReadOutcome where
  | nothing
  | record (record : Record)
  /-- The bytes at the tail are no record. -/
  | corrupted (place : Corruption)
  /-- The ring was asked for more bytes than it has. -/
  | overrun
  deriving DecidableEq, Repr

namespace Region

/-- The bytes between the cursors, if they hold at least a header and at most the whole ring. -/
def available? (page : ControlPage) (capacity : UInt64) : Option UInt64 :=
  if page.tail ≤ page.head && page.used ≤ capacity && 16 ≤ page.used then some page.used else none

/-- The record at the tail, as a ring of the given capacity sees it. What stands there may have been
written by anyone, so every length is checked against the published bytes before it is used. -/
def recordAtTail (region : Region) (capacity : UInt64) : ReadOutcome :=
  let page := region.page
  let corrupted (length : UInt64) : ReadOutcome := .corrupted ⟨page.tail, page.head, length⟩
  if page.tail = page.head then
    .nothing
  else
    match available? page capacity with
    | none => corrupted page.used
    | some available =>
        match ByteRing.read? capacity region.data page.tail RecordHeader.size with
        | none => .overrun
        | some raw =>
            let header := RecordHeader.decode raw
            if header.span > available then
              corrupted header.span
            else
              match header.recordKind? with
              | none => corrupted header.span
              | some kind =>
                  match ByteRing.read? capacity region.data page.tail header.span.toNat with
                  | none => .overrun
                  | some whole =>
                      let body := whole.drop RecordHeader.size
                      match kind with
                      | .packet => .record (.packet header body)
                      | .drop =>
                          match DropSummary.decode? body with
                          | some summary => .record (.drop header summary)
                          | none => corrupted header.span

/-- Release the bytes of a record that was copied out. -/
def release (region : Region) (record : Record) : Region :=
  { region with page := { region.page with tail := region.page.tail + record.header.span } }

end Region

/-- One end that reads a ring. -/
structure Reader where
  /-- The capacity of the ring when the reader was attached. -/
  capacity : UInt64
  /-- The reader shares the process of the producing side, and sees its latch. -/
  inProcess : Bool
  packets : UInt64 := 0
  /-- Lost pushes that the summaries read so far tell of. -/
  lost : UInt64 := 0
  deriving DecidableEq, Repr

namespace Reader

def count (reader : Reader) (record : Record) : Reader :=
  match record with
  | .packet .. => { reader with packets := reader.packets + 1 }
  | .drop _ summary => { reader with lost := reader.lost + summary.lost.toUInt64 }

/-- Read once, and release what was read. -/
def take (reader : Reader) (region : Region) : ReadOutcome × Reader × Region :=
  match region.recordAtTail reader.capacity with
  | .record record => (.record record, reader.count record, region.release record)
  | outcome => (outcome, reader, region)

/-- The fill of the region, as the reader sees it, is at or above the high watermark. -/
def isReady (reader : Reader) (page : ControlPage) : Bool :=
  page.hi ≤ utilization page.used reader.capacity

/-- How many records a region can hold between its cursors, and one look more. -/
def pollFuel (page : ControlPage) : Nat :=
  page.used.toNat / 16 + 1

end Reader

inductive PollEnd where
  | drained
  | corrupted (place : Corruption)
  | overrun
  deriving DecidableEq, Repr

namespace Reader

/-- Read until nothing is left, for a reader that only maps the file. -/
def pollFor (reader : Reader) (region : Region) :
    Nat → PollEnd × List Record × Reader × Region
  | 0 => (.drained, [], reader, region)
  | fuel + 1 =>
      match reader.take region with
      | (.record record, counted, released) =>
          let (ended, records, last, rest) := counted.pollFor released fuel
          (ended, record :: records, last, rest)
      | (.nothing, same, unchanged) => (.drained, [], same, unchanged)
      | (.corrupted place, same, unchanged) => (.corrupted place, [], same, unchanged)
      | (.overrun, same, unchanged) => (.overrun, [], same, unchanged)

/-- Read until nothing is left. Every record frees at least sixteen bytes, so the number of bytes
between the cursors bounds the number of reads. -/
def poll (reader : Reader) (region : Region) : PollEnd × List Record × Reader × Region :=
  reader.pollFor region (pollFuel region.page)

end Reader

namespace Channel

/-- Read once through a reader of this channel. A reader of the same process looks at the latch
once it has freed the bytes. -/
def read (channel : Channel) (now : UInt64) (reader : Reader) : ReadOutcome × Reader × Channel :=
  match reader.take channel.region with
  | (.record record, counted, region) =>
      let freed := { channel with region }
      (.record record, counted, if reader.inProcess then freed.evaluateWatermarks now else freed)
  | (.corrupted place, same, _) =>
      (.corrupted place, same, channel.log (.desynchronised place))
  | (outcome, same, _) => (outcome, same, channel)

/-- Read until nothing is left, at most `fuel` times. -/
def pollFor (channel : Channel) (now : UInt64) (reader : Reader) :
    Nat → PollEnd × List Record × Reader × Channel
  | 0 => (.drained, [], reader, channel)
  | fuel + 1 =>
      match channel.read now reader with
      | (.record record, counted, after) =>
          let (ended, records, last, rest) := after.pollFor now counted fuel
          (ended, record :: records, last, rest)
      | (.nothing, same, after) => (.drained, [], same, after)
      | (.corrupted place, same, after) => (.corrupted place, [], same, after)
      | (.overrun, same, after) => (.overrun, [], same, after)

/-- Read until nothing is left. Every record frees at least sixteen bytes, and what a notifier does
meanwhile only empties the ring, so the bytes between the cursors bound the number of reads. -/
def poll (channel : Channel) (now : UInt64) (reader : Reader) :
    PollEnd × List Record × Reader × Channel :=
  channel.pollFor now reader (Reader.pollFuel channel.page)

end Channel

end RecordRing
