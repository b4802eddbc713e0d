import RecordRing.Channel.Crossing

set_option autoImplicit false

namespace RecordRing

inductive PushOutcome where
  | written
  /-- The ring was full; the push is counted in the open episode. -/
  | dropped
  /-- The payload fits this ring at no time, and is not counted. -/
  | tooLarge
  deriving DecidableEq, Repr

namespace Channel

/-- The head, if `need` bytes are free there. Cursors that contradict each other leave no room. -/
def reserve (channel : Channel) (need : UInt64) : Option UInt64 :=
  let used := channel.page.used
  if used ≤ channel.capacity && need ≤ channel.capacity - used then
    some channel.page.head
  else
    none

/-- Count a push that found no room; the first one opens an episode. -/
def noteDrop (channel : Channel) (now need : UInt64) : Channel :=
  let opened :=
    if channel.page.isDropping then
      channel
    else
      let started := channel.modifyPage fun page =>
        { page with episodeStart := now, episodeCount := 0 }.setDropping true
      started.log (.ringFull need started.page.used)
  let counted := opened.modifyPage fun page =>
    { page with episodeCount := page.episodeCount + 1 }
  { counted with tallies := { counted.tallies with drops := counted.tallies.drops + 1 } }

/-- Copy a header and its payload into the ring and publish the head behind them. -/
def writeRecord (channel : Channel) (position : UInt64) (header : RecordHeader)
    (payload : Bytes) : UInt64 × Channel :=
  let next := position + header.span
  let region := channel.region
  let withHeader := ByteRing.write channel.capacity region.data position header.encode
  let withPayload := ByteRing.write channel.capacity withHeader (position + 16) payload
  let tallies := channel.tallies
  (next,
    { channel with
      region := { region with data := withPayload, page := { region.page with head := next } }
      tallies := { tallies with
        records := tallies.records + 1
        bytes := tallies.bytes + header.span } })

/-- Write the summary of the open episode, and close it. -/
def flushDropSummary (channel : Channel) (position now : UInt64) : UInt64 × Channel :=
  let page := channel.page
  let lost := page.episodeCount
  let start := page.episodeStart
  let kept : UInt32 := if lost < 0x100000000 then lost.toUInt32 else 0xFFFFFFFF
  let summary : DropSummary := ⟨kept, start, now⟩
  let (next, written) := channel.writeRecord position (.dropSummary now) summary.encode
  let closed := written.modifyPage fun page => page.setDropping false
  (next, closed.log (.episodeEnded lost (if start ≤ now then now - start else 0)))

/-- Frame a payload as a packet and publish it, behind a summary of the episode that is open. Room for
both is reserved at once, so the summary is never parted from its place in the stream. -/
def push (channel : Channel) (now : UInt64) (payload : Bytes) : PushOutcome × Channel :=
  if payload.length > channel.maxPayload.toNat then
    (.tooLarge, channel)
  else
    let length := UInt64.ofNat payload.length
    let need := 16 + length
    let dropping := channel.page.isDropping
    match channel.reserve (if dropping then need + 36 else need) with
    | none => (.dropped, channel.noteDrop now need)
    | some head =>
        let (position, flushed) :=
          if dropping then channel.flushDropSummary head now else (head, channel)
        let (_, written) :=
          flushed.writeRecord position (.packet length.toUInt32 now) payload
        (.written, written.evaluateWatermarks now)

def pushTimes (channel : Channel) (now : UInt64) (payload : Bytes) :
    Nat → List PushOutcome × Channel
  | 0 => ([], channel)
  | times + 1 =>
      let (outcome, pushed) := channel.push now payload
      let (outcomes, done) := pushed.pushTimes now payload times
      (outcome :: outcomes, done)

end Channel

end RecordRing
