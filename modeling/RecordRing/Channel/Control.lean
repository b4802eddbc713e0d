import RecordRing.Channel.Crossing

set_option autoImplicit false

namespace RecordRing

namespace Channel

def setWatermarks (channel : Channel) (hi lo : UInt32) : Except RingError Unit × Channel :=
  match checkWatermarks hi lo with
  | .error error => (.error error, channel)
  | .ok () =>
      let changed := channel.modifyPage fun page => { page with hi, lo }
      (.ok (), changed.log (.watermarksUpdated hi lo))

def setRate (channel : Channel) (rate : UInt32) : Except RingError Unit × Channel :=
  match checkRate rate with
  | .error error => (.error error, channel)
  | .ok () => (.ok (), { channel with rate }.log (.rateUpdated rate))

/-- Move the tail on behalf of a reader, and notify if that raised an edge. -/
def advanceTail (channel : Channel) (now position : UInt64) : Except RingError Unit × Channel :=
  match channel.moveTail now position with
  | (.error error, same) => (.error error, same)
  | (.ok (some .rising), moved) => (.ok (), moved.notifyConsumer now)
  | (.ok _, moved) => (.ok (), moved)

/-- Replace the notifier, or unbind it, and deliver what is still pending to the new one. -/
def bindNotifier (channel : Channel) (now : UInt64) (notifier : Option Notifier) :
    Option Notifier × Channel :=
  let previous := channel.slot.bound
  let logged := channel.log (.notifierRebound notifier.isSome)
  let rebound := { logged with slot := { logged.slot with bound := notifier } }
  (previous, rebound.deliver now)

end Channel

end RecordRing
