import RecordRing.ControlPage
import RecordRing.MappedFile

set_option autoImplicit false

namespace RecordRing

/-- What a mapping of at least 4096 bytes holds. -/
structure Region where
  page : ControlPage
  padding : Buffer
  data : Buffer
  deriving DecidableEq

namespace Region

/-- Read a region off its bytes. -/
def ofBytes (bytes : Buffer) : Region where
  page := ControlPage.decode (Buffer.read bytes 0 ControlPage.size)
  padding := bytes.extract ControlPage.size controlPageSize.toNat
  data := bytes.extract controlPageSize.toNat bytes.size

def toBytes (region : Region) : Buffer :=
  Buffer.ofBytes region.page.encode ++ region.padding ++ region.data

/-- The page at the start of the bytes of a file, if there are enough of them. -/
def pageOf? (bytes : Buffer) : Option ControlPage :=
  if bytes.size < controlPageSize.toNat then none
  else some (ControlPage.decode (Buffer.read bytes 0 ControlPage.size))

/-- The fields at the start of the bytes of a file; these take up less than a whole control page. -/
def fieldsOf? (bytes : Buffer) : Option ControlPage :=
  if bytes.size < ControlPage.size then none
  else some (ControlPage.decode (Buffer.read bytes 0 ControlPage.size))

/-- Lay a ring out in memory that was just mapped: only the fields of the page are written. -/
def init (memory : Buffer) (plan : RingPlan) : Region :=
  let page := ControlPage.fresh plan.capacity plan.hi plan.lo
  ofBytes (Buffer.write memory 0 page.encode)

end Region

inductive RingFile where
  | short (held : Buffer)
  | whole (held : Region)
  deriving DecidableEq

namespace RingFile

def ofBytes (bytes : Buffer) : RingFile :=
  if bytes.size < controlPageSize.toNat then .short bytes else .whole (Region.ofBytes bytes)

def bytes : RingFile → Buffer
  | short held => held
  | whole held => held.toBytes

def size : RingFile → Nat
  | short held => held.size
  | whole held => ControlPage.size + held.padding.size + held.data.size

def poke (file : RingFile) (offset : Nat) (bytes : Bytes) : RingFile :=
  ofBytes (Buffer.write file.bytes offset bytes)

/-- Overwrite fields of the control page, in order. -/
def setFields (file : RingFile) (fields : List (ControlPage.Field × UInt64)) : RingFile :=
  match file with
  | short held =>
      .short (fields.foldl (fun bytes change =>
        Buffer.write bytes change.1.offset (change.1.encode change.2)) held)
  | whole held =>
      let changed := fields.foldl (fun page change => page.set change.1 change.2) held.page
      .whole { held with page := changed }

/-- The page of the file, if it is long enough for one. -/
def page? : RingFile → Option ControlPage
  | short _ => none
  | whole held => some held.page

/-- The fields of the page, if the file is long enough for them. -/
def fields? : RingFile → Option ControlPage
  | short held => Region.fieldsOf? held
  | whole held => some held.page

/-- The capacity that an attaching party sees through a view of a file of `size` bytes with this page,
if the region is sound. -/
def capacityIn (size : Nat) (page : Option ControlPage) (view : Option UInt64) :
    Except RingError UInt64 := do
  let length ← (MappedFile.viewLength (UInt64.ofNat size) view).mapError fun fault =>
    .viewTooLarge fault.requested fault.available
  match page with
  | none => .error (.viewTooSmall length controlPageSize)
  | some page =>
      if length < controlPageSize then
        .error (.viewTooSmall length controlPageSize)
      else do
        page.validate length
        return page.capacity

/-- The capacity that an attaching party sees in the file. -/
def attach (file : RingFile) (view : Option UInt64) : Except RingError UInt64 :=
  capacityIn file.size file.page? view

@[simp] theorem page?_ofBytes (bytes : Buffer) : (ofBytes bytes).page? = Region.pageOf? bytes := by
  unfold ofBytes Region.pageOf?
  split <;> rfl

end RingFile

end RecordRing
