import RecordRing.Channel.Basic

set_option autoImplicit false

namespace RecordRing

namespace Channel

/-- Look at the latch for the fill as it is now, and record an edge. -/
def crossWatermarks (channel : Channel) (now : UInt64) : Option Edge × Channel :=
  let page := channel.page
  let used := page.used
  match Edge.ofFill channel.latched channel.utilization page.hi page.lo with
  | none => (none, channel)
  | some .rising =>
      let crossed : Channel :=
        { channel with
          latched := true
          tallies := { channel.tallies with highCrossed := now } }
      (some .rising, crossed.log (.crossedHigh used page.hi))
  | some .falling =>
      let crossed : Channel :=
        { channel with
          latched := false
          tallies := { channel.tallies with lowCrossed := now } }
      (some .falling, crossed.log (.drainedToLow used page.lo))

/-- Move the tail to a position between tail and head, and look at the latch. -/
def moveTail (channel : Channel) (now position : UInt64) :
    Except RingError (Option Edge) × Channel :=
  let page := channel.page
  if position > page.head || position < page.tail then
    (.error (.outOfRange position page.tail page.head), channel)
  else
    let moved := channel.modifyPage fun page => { page with tail := position }
    let (edge, crossed) := moved.crossWatermarks now
    (.ok edge, crossed)

/-- Back to the state of a fresh ring; the watermarks, the rate, the notifier and the bytes of the
data ring stay. -/
def reset (channel : Channel) : Channel :=
  let cleared := channel.modifyPage fun page =>
    { page with head := 0, tail := 0, flags := 0, episodeStart := 0, episodeCount := 0 }
  { cleared with tallies := {}, latched := false }.log .ringReset

/-- One signal to a notifier. The latch is set while it runs, so a tail that it advances can make a
falling edge only, and no signal leads to another one. -/
def signal (channel : Channel) (now : UInt64) (notifier : Notifier) :
    Except Failure Unit × Channel :=
  let asked := { channel with trace := channel.trace.push (.signalled notifier) }
  match notifier with
  | .counting number reaction =>
      let counted := { asked with counts := asked.counts.modify number (· + 1) }
      match reaction with
      | .nothing => (.ok (), counted)
      | .fail => (.error (.other "notifier down"), counted)
      | .drain => (.ok (), (counted.moveTail now counted.page.head).2)
      | .reset => (.ok (), counted.reset)
  | .descriptor bell =>
      match asked.bells[bell]? with
      | none => (.error (.system .badDescriptor), asked)
      | some target =>
          match target.signal with
          | .ok after => (.ok (), { asked with bells := asked.bells.setIfInBounds bell after })
          | .error error => (.error (.system error), asked)

/-- Signal a notifier a number of times; the first failure is logged and ends it. -/
def fire (channel : Channel) (now : UInt64) (notifier : Notifier) : Nat → Channel
  | 0 => channel
  | times + 1 =>
      match channel.signal now notifier with
      | (.ok _, after) => after.fire now notifier times
      | (.error cause, after) => after.log (.signalFailed cause)

/-- Deliver the pending signals to the bound notifier. Where none is bound they are forgotten. -/
def deliver (channel : Channel) (now : UInt64) : Channel :=
  let pending := channel.slot.pending
  let taken := { channel with slot := { channel.slot with pending := 0 } }
  match taken.slot.bound with
  | none => taken
  | some notifier => taken.fire now notifier pending

/-- Wake whoever waits in this process, then signal the bound notifier. -/
def notifyConsumer (channel : Channel) (now : UInt64) : Channel :=
  let woken := { channel with trace := channel.trace.push .woken }
  let owed := { woken with slot := { woken.slot with pending := woken.slot.pending + 1 } }
  owed.deliver now

/-- Look at the latch, and notify on a rising edge. -/
def evaluateWatermarks (channel : Channel) (now : UInt64) : Channel :=
  match channel.crossWatermarks now with
  | (some .rising, crossed) => crossed.notifyConsumer now
  | (_, crossed) => crossed

end Channel

end RecordRing
