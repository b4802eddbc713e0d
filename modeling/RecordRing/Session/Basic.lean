import RecordRing.Session.Command

set_option autoImplicit false

namespace RecordRing

/-- Who holds the pushing end of the ring. -/
inductive Seat where
  | producer
  | generator (generator : LoadGenerator)
  /-- It was handed to a generator that could not be made. -/
  | gone

/-- What the handles of a session share. -/
inductive Store where
  /-- A ring created here; `named` if other handles can be opened on its file. -/
  | ring (channel : Channel) (named : Bool)
  /-- A file that was found. -/
  | file (held : RingFile) (trace : Array Effect)

/-- A ring or ring file with its handles and the clock. -/
structure Session where
  path : String
  now : UInt64
  store : Store
  readers : Array Reader := #[]
  seat : Seat := .producer

/-- What the session's ring is made in. -/
inductive Origin where
  | anonymous
  /-- A path where nothing is yet, or a file that is there. -/
  | path (before : Option Buffer)
  | missingDirectory
  /-- No ring is made: the file is kept as it is. -/
  | found (held : RingFile)

namespace Session

/-- Make the session's ring, or take the file as it is. -/
def start (origin : Origin) (plan : RingPlan) (path : String) (now : UInt64) :
    Reply × Option Session :=
  let ring (made : Except RingError Channel) (named : Bool) : Reply × Option Session :=
    match made with
    | .error error => (.refused error, none)
    | .ok channel =>
        let size := ControlPage.size + channel.region.padding.size + channel.region.data.size
        let view : CreationView :=
          { capacity := channel.capacity
            maxPayload := channel.maxPayload
            isEmpty := channel.page.used == 0
            fileSize := if named then some size else none }
        let reader : Reader := { capacity := channel.capacity, inProcess := true }
        (.created view, some { path, now, store := .ring channel named, readers := #[reader] })
  match origin with
  | .anonymous => ring (Channel.anonymous plan) false
  | .path before => ring (Channel.create path before plan) true
  | .missingDirectory =>
      match plan.validate with
      | .error error => (.refused error, none)
      | .ok () => (.refused (.failure (.system .noSuchFile)), none)
  | .found held => (.found, some { path, now, store := .file held #[], seat := .gone })

def channel? (session : Session) : Option Channel :=
  match session.store with
  | .ring channel _ => some channel
  | .file .. => none

def file? (session : Session) : Option RingFile :=
  match session.store with
  | .ring channel true => some (.whole channel.region)
  | .ring _ false => none
  | .file held _ => some held

def withChannel (session : Session) (channel : Channel) : Session :=
  match session.store with
  | .ring _ named => { session with store := .ring channel named }
  | .file .. => session

/-- Put a changed file back. A file does not shrink, so a ring in it stays one. -/
def withFile (session : Session) (file : RingFile) : Session :=
  match session.store, file with
  | .ring channel named, .whole region => { session with store := .ring { channel with region } named }
  | .ring .., .short _ => session
  | .file _ trace, held => { session with store := .file held trace }

/-- Log an event of a handle that only maps the file. -/
def log (session : Session) (event : Event) : Session :=
  match session.store with
  | .ring channel named => { session with store := .ring (channel.log event) named }
  | .file held trace => { session with store := .file held (trace.push (.logged event)) }

def withReader (session : Session) (number : Nat) (reader : Reader) : Session :=
  { session with readers := session.readers.setIfInBounds number reader }

/-- What the commands so far made visible. -/
def trace (session : Session) : Array Effect :=
  match session.store with
  | .ring channel _ => channel.trace
  | .file _ trace => trace

def clearTrace (session : Session) : Session :=
  match session.store with
  | .ring channel named => { session with store := .ring { channel with trace := #[] } named }
  | .file held _ => { session with store := .file held #[] }

end Session

end RecordRing
