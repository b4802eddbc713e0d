import RecordRing.Proofs.Attachment
import RecordRing.Proofs.PublishedStream
import RecordRing.Session.Basic

set_option autoImplicit false

namespace RecordRing

theorem RingPlan.validate_eq_ok_iff (plan : RingPlan) :
    plan.validate = .ok () ↔
      isPowerOfTwo plan.capacity = true ∧ minCapacity ≤ plan.capacity ∧
        (plan.lo ≤ plan.hi ∧ plan.hi ≤ 100) ∧ 1 ≤ plan.rate ∧ plan.rate ≤ 100000 := by
  rw [← checkWatermarks_eq_ok_iff, ← checkRate_eq_ok_iff, ← and_assoc, ← checkCapacity_eq_ok_iff]
  unfold validate
  cases checkCapacity plan.capacity with
  | error fault => simp [bind, Except.bind]
  | ok done =>
      cases checkWatermarks plan.hi plan.lo with
      | error fault => simp [bind, Except.bind]
      | ok done => simp [bind, Except.bind]

namespace Channel

/-- A channel that was just made after a plan. -/
structure Fresh (plan : RingPlan) (channel : Channel) : Prop where
  valid : plan.validate = .ok ()
  capacity : channel.capacity = plan.capacity
  page : channel.page = .fresh plan.capacity plan.hi plan.lo
  size : channel.region.data.size = plan.capacity.toNat
  padding : ControlPage.size + channel.region.padding.size = controlPageSize.toNat
  rate : channel.rate = plan.rate
  tallies : channel.tallies = {}
  bound : channel.slot.bound = none

theorem Fresh.ofMemory {plan : RingPlan} (valid : plan.validate = .ok ()) (trace : Array Effect) :
    Fresh plan { ofMemory (.zeros (bytesForRing plan.capacity).toNat) plan with trace } := by
  obtain ⟨power, -⟩ := plan.validate_eq_ok_iff.mp valid
  have length := toNat_bytesForRing power
  have page : controlPageSize.toNat = 4096 := rfl
  have size := Buffer.size_write (.zeros (bytesForRing plan.capacity).toNat) 0
    (ControlPage.fresh plan.capacity plan.hi plan.lo).encode
  rw [Buffer.size_zeros] at size
  refine ⟨valid, rfl, ?_, ?_, ?_, rfl, rfl, rfl⟩
  · change ControlPage.decode (Buffer.read (Buffer.write _ 0 _) 0 ControlPage.size) = _
    have width := (ControlPage.fresh plan.capacity plan.hi plan.lo).length_encode
    have read := Buffer.read_write_self (.zeros (bytesForRing plan.capacity).toNat) 0
      (ControlPage.fresh plan.capacity plan.hi plan.lo).encode (by
        rw [width, Buffer.size_zeros, length, ControlPage.size]
        omega)
    rw [width] at read
    rw [read, ControlPage.decode_encode]
  · change min (Buffer.write _ _ _).size (Buffer.write _ _ _).size - controlPageSize.toNat = _
    omega
  · change ControlPage.size +
      (min controlPageSize.toNat (Buffer.write _ _ _).size - ControlPage.size) = _
    have fields : ControlPage.size = 56 := rfl
    omega

theorem Fresh.holds {plan : RingPlan} {channel : Channel} (fresh : Fresh plan channel) :
    Holds channel [] := by
  obtain ⟨power, -⟩ := plan.validate_eq_ok_iff.mp fresh.valid
  refine ⟨?_, ?_, ?_, ?_, ?_, ?_, ?_, ?_, ?_⟩
  · rw [fresh.capacity]
    exact power
  · rw [fresh.capacity]
    exact Nat.le_of_eq fresh.size.symm
  · intro record member
    cases member
  · rw [fresh.page]
    exact UInt64.le_refl 0
  · rw [fresh.page]
    exact Nat.zero_le _
  · rw [fresh.page]
    rfl
  · rw [fresh.page]
    intro position start _
    rw [Nat.le_zero.mp start]
    rfl
  · rw [fresh.tallies]
    rfl
  · rw [fresh.tallies, fresh.page]
    rfl

theorem Fresh.misses {plan : RingPlan} {channel : Channel} (fresh : Fresh plan channel) :
    Misses channel 0 0 := by
  refine ⟨?_, nofun, nofun⟩
  rw [fresh.page]
  change ((0 : UInt32) &&& 1 != 0) = true ↔ 0 < 0
  decide

theorem Fresh.marked {plan : RingPlan} {channel : Channel} (fresh : Fresh plan channel) :
    Marked channel := by
  obtain ⟨-, -, ⟨ordered, percent⟩, least, most⟩ := plan.validate_eq_ok_iff.mp fresh.valid
  refine ⟨?_, ?_, ?_, ?_⟩
  · rw [fresh.page]
    exact ordered
  · rw [fresh.page]
    exact percent
  · rw [fresh.rate]
    exact least
  · rw [fresh.rate]
    exact most

/-- The rest of the control page is zeros, whatever the plan. -/
theorem padding_ofMemory (length : Nat) (plan : RingPlan) :
    (ofMemory (.zeros length) plan).region.padding =
      .zeros (min controlPageSize.toNat length - ControlPage.size) := by
  have width := (ControlPage.fresh plan.capacity plan.hi plan.lo).length_encode
  have held := Buffer.size_held_write_le (.zeros length) 0
    (ControlPage.fresh plan.capacity plan.hi plan.lo).encode
  have none : (Buffer.zeros length).held.size = 0 := rfl
  rw [width, none] at held
  change (Buffer.write (.zeros length) 0 _).extract ControlPage.size controlPageSize.toNat = _
  rw [Buffer.extract_of_held_le _ _ (by omega), Buffer.size_write, Buffer.size_zeros]

/-- So is the data ring. -/
theorem data_ofMemory (length : Nat) (plan : RingPlan) :
    (ofMemory (.zeros length) plan).region.data = .zeros (length - controlPageSize.toNat) := by
  have width := (ControlPage.fresh plan.capacity plan.hi plan.lo).length_encode
  have held := Buffer.size_held_write_le (.zeros length) 0
    (ControlPage.fresh plan.capacity plan.hi plan.lo).encode
  have none : (Buffer.zeros length).held.size = 0 := rfl
  have fields : ControlPage.size = 56 := rfl
  have page : controlPageSize.toNat = 4096 := rfl
  rw [width, none] at held
  change (Buffer.write (.zeros length) 0 _).extract controlPageSize.toNat
    (Buffer.write (.zeros length) 0 _).size = _
  rw [Buffer.extract_of_held_le _ _ (by omega), Nat.min_self, Buffer.size_write, Buffer.size_zeros]

/-- The channel that a plan makes in fresh memory. -/
def made (plan : RingPlan) (event : Event) : Channel :=
  { ofMemory (.zeros (bytesForRing plan.capacity).toNat) plan with trace := #[.logged event] }

theorem fresh_made {plan : RingPlan} (valid : plan.validate = .ok ()) (event : Event) :
    Fresh plan (made plan event) :=
  .ofMemory valid _

theorem padding_made (plan : RingPlan) (event : Event) :
    (made plan event).region.padding =
      .zeros (min controlPageSize.toNat (bytesForRing plan.capacity).toNat - ControlPage.size) :=
  padding_ofMemory ..

/-- A channel is made where the plan and the length of the memory pass their checks. -/
theorem checked_eq_ok_iff {plan : RingPlan} {granted : Except RingError Unit} {made channel : Channel} :
    (plan.validate >>= fun _ => granted >>= fun _ => pure made) = .ok channel ↔
      plan.validate = .ok () ∧ granted = .ok () ∧ made = channel := by
  cases plan.validate with
  | error fault => simp [bind, Except.bind]
  | ok done =>
      cases granted with
      | error fault => simp [bind, Except.bind]
      | ok room => simp [bind, Except.bind, pure, Except.pure]

theorem anonymous_eq_ok_iff (plan : RingPlan) (channel : Channel) :
    anonymous plan = .ok channel ↔
      plan.validate = .ok () ∧
        (MappedFile.checkMemoryLength (bytesForRing plan.capacity).toNat).mapError
          RingError.failure = .ok () ∧
        made plan (.anonymousRingCreated plan.capacity) = channel :=
  checked_eq_ok_iff

/-- What stood in the file is gone, so it makes no difference. -/
theorem create_eq_ok_iff (path : String) (found : Option Buffer) (plan : RingPlan) (channel : Channel) :
    create path found plan = .ok channel ↔
      plan.validate = .ok () ∧
        (MappedFile.checkFileLength (bytesForRing plan.capacity).toNat).mapError
          RingError.failure = .ok () ∧
        made plan (.ringCreated path plan.capacity) = channel := by
  rw [made, ← MappedFile.create_eq_zeros found]
  exact checked_eq_ok_iff

end Channel

/-- A ring of the same kind again: in memory of its own, or at its path, whatever is found there. -/
def Origin.again (found : Option Buffer) : Origin → Origin
  | .path _ => .path found
  | other => other

namespace Session

def begun (path : String) (now : UInt64) (plan : RingPlan) (event : Event) (named : Bool) : Session where
  path := path
  now := now
  store := .ring (Channel.made plan event) named
  readers := #[{ capacity := plan.capacity, inProcess := true }]

theorem start_of_anonymous {plan : RingPlan} (valid : plan.validate = .ok ())
    (granted : (MappedFile.checkMemoryLength (bytesForRing plan.capacity).toNat).mapError
      RingError.failure = .ok ()) (path : String) (now : UInt64) :
    ∃ view, start .anonymous plan path now =
      (.created view, some (begun path now plan (.anonymousRingCreated plan.capacity) false)) := by
  have built := (Channel.anonymous_eq_ok_iff plan _).mpr ⟨valid, granted, rfl⟩
  unfold start
  dsimp only
  rw [built]
  exact ⟨_, rfl⟩

theorem start_of_create {plan : RingPlan} (valid : plan.validate = .ok ())
    (granted : (MappedFile.checkFileLength (bytesForRing plan.capacity).toNat).mapError
      RingError.failure = .ok ()) (path : String) (found : Option Buffer) (now : UInt64) :
    ∃ view, start (.path found) plan path now =
      (.created view, some (begun path now plan (.ringCreated path plan.capacity) true)) := by
  have built := (Channel.create_eq_ok_iff path found plan _).mpr ⟨valid, granted, rfl⟩
  unfold start
  dsimp only
  rw [built]
  exact ⟨_, rfl⟩

/-- A session that has made a ring; and that a ring of the same size can be made again. -/
theorem begun_of_start {origin : Origin} {plan : RingPlan} {path : String} {now : UInt64}
    {view : CreationView} {session : Session}
    (made : start origin plan path now = (.created view, some session)) :
    ∃ event named, plan.validate = .ok () ∧ session = begun path now plan event named ∧
      ∀ (found : Option Buffer) (other : RingPlan) (time : UInt64), other.validate = .ok () →
        other.capacity = plan.capacity →
          ∃ view, start (origin.again found) other path time =
            (.created view, some (begun path time other event named)) := by
  unfold start at made
  cases origin with
  | anonymous =>
      cases built : Channel.anonymous plan with
      | error fault =>
          rw [built] at made
          cases made
      | ok channel =>
          rw [built] at made
          cases made
          obtain ⟨valid, granted, rfl⟩ := (Channel.anonymous_eq_ok_iff plan channel).mp built
          refine ⟨.anonymousRingCreated plan.capacity, false, valid, rfl, ?_⟩
          intro found other time validOther same
          rw [← same] at granted ⊢
          exact start_of_anonymous validOther granted path time
  | path before =>
      dsimp only at made
      cases built : Channel.create path before plan with
      | error fault =>
          rw [built] at made
          cases made
      | ok channel =>
          rw [built] at made
          cases made
          obtain ⟨valid, granted, rfl⟩ := (Channel.create_eq_ok_iff path before plan channel).mp built
          refine ⟨.ringCreated path plan.capacity, true, valid, rfl, ?_⟩
          intro found other time validOther same
          rw [← same] at granted ⊢
          exact start_of_create validOther granted path found time
  | missingDirectory =>
      dsimp only at made
      split at made <;> cases made
  | found held => cases made

/-- A session that has made a ring: its channel is fresh, the producer is there, and one reader of the
same process. -/
theorem fresh_of_start {origin : Origin} {plan : RingPlan} {path : String} {now : UInt64}
    {view : CreationView} {session : Session}
    (made : start origin plan path now = (.created view, some session)) :
    ∃ channel named, Channel.Fresh plan channel ∧
      session = { path, now, store := .ring channel named,
                  readers := #[{ capacity := channel.capacity, inProcess := true }] } := by
  obtain ⟨event, named, valid, rfl, -⟩ := begun_of_start made
  exact ⟨_, named, Channel.fresh_made valid event, rfl⟩

def small : Session :=
  let made := Channel.ofMemory (.zeros 4160) { capacity := 64 }
  { path := "ring"
    now := 0
    store := .ring { made with trace := #[.logged (.anonymousRingCreated 64)] } false
    readers := #[{ capacity := 64, inProcess := true }] }

theorem start_small :
    ∃ view, start .anonymous { capacity := 64 } "ring" 0 = (.created view, some small) :=
  ⟨_, rfl⟩

def smallShared : Session :=
  let made := Channel.ofMemory (MappedFile.create none 4160) { capacity := 64 }
  { path := "ring"
    now := 0
    store := .ring { made with trace := #[.logged (.ringCreated "ring" 64)] } true
    readers := #[{ capacity := 64, inProcess := true }] }

theorem start_smallShared :
    ∃ view, start (.path none) { capacity := 64 } "ring" 0 = (.created view, some smallShared) :=
  ⟨_, rfl⟩

end Session

end RecordRing
