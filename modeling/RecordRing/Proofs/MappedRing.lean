import RecordRing.Process.Feed
import RecordRing.Proofs.FileLocations

set_option autoImplicit false

namespace RecordRing

namespace Buffer

theorem read_ofBytes (bytes : Bytes) : read (ofBytes bytes) 0 bytes.length = bytes := by
  apply List.ext_getElem?
  intro index
  by_cases inside : index < bytes.length
  · rw [getElem?_read _ _ _ _ inside, Nat.zero_add, get?_ofBytes]
  · rw [List.getElem?_eq_none, List.getElem?_eq_none (Nat.le_of_not_lt inside)]
    rw [length_read]
    omega

theorem get?_append_left {front : Buffer} (back : Buffer) {index : Nat} (inside : index < front.size) :
    (front ++ back).get? index = front.get? index := by
  have within : index < (front ++ back).size := Nat.lt_of_lt_of_le inside (Nat.le_add_right ..)
  rw [get?, get?, if_pos inside, if_pos within]
  change some ((if back.held.isEmpty then front.held
    else front.held ++ Array.replicate (front.size - front.held.size) 0 ++ back.held).getD index 0) = _
  split
  · rfl
  · simp only [Array.getD_eq_getD_getElem?, Array.getElem?_append, Array.size_append,
      Array.size_replicate, Array.getElem?_replicate]
    by_cases held : index < front.held.size
    · rw [if_pos (by omega), if_pos held]
    · rw [if_pos (by omega), if_neg held, if_pos (by omega), Array.getElem?_eq_none (by omega)]
      rfl

theorem eq_of_held {left right : Buffer} (size : left.size = right.size)
    (held : left.held = right.held) : left = right := by
  cases left
  cases right
  cases size
  cases held
  rfl

/-- What was put behind is found behind. -/
theorem extract_append_right (front back : Buffer) :
    (front ++ back).extract front.size (front ++ back).size = back := by
  have fits := front.size_held_le
  apply eq_of_held
  · change min (front.size + back.size) (front.size + back.size) - front.size = back.size
    omega
  change (if back.held.isEmpty then front.held
    else front.held ++ Array.replicate (front.size - front.held.size) 0 ++ back.held).extract
      front.size (front.size + back.size) = back.held
  split
  · rename_i none
    rw [Array.isEmpty_iff.mp none]
    apply Array.eq_empty_of_size_eq_zero
    rw [Array.size_extract]
    omega
  · have reached : (front.held ++ Array.replicate (front.size - front.held.size) 0).size =
        front.size := by
      rw [Array.size_append, Array.size_replicate]
      omega
    rw [Array.extract_append, reached, Nat.sub_self, Nat.add_sub_cancel_left,
      Array.extract_eq_empty_of_le (by omega), Array.empty_append]
    exact Array.extract_eq_self_of_le back.size_held_le

end Buffer

namespace Region

/-- The page of the region takes up as much as the page of every ring does. -/
def Padded (region : Region) : Prop :=
  ControlPage.size + region.padding.size = controlPageSize.toNat

variable {region : Region}

theorem Padded.size_front (padded : region.Padded) :
    (Buffer.ofBytes region.page.encode ++ region.padding).size = controlPageSize.toNat := by
  rw [Buffer.size_append, Buffer.size_ofBytes, ControlPage.length_encode]
  exact padded

/-- The page and the data are found again in the bytes of a region. -/
theorem Padded.ofBytes_toBytes (padded : region.Padded) :
    (ofBytes region.toBytes).page = region.page ∧ (ofBytes region.toBytes).data = region.data ∧
      (ofBytes region.toBytes).Padded := by
  have front := padded.size_front
  have width := region.page.length_encode
  refine ⟨?_, ?_, ?_⟩
  · have fields : Buffer.read region.toBytes 0 ControlPage.size = region.page.encode := by
      conv => rhs; rw [← Buffer.read_ofBytes region.page.encode, width]
      apply Buffer.read_congr
      intro index _ upper
      have page : controlPageSize.toNat = 4096 := rfl
      have size : ControlPage.size = 56 := rfl
      rw [toBytes, Buffer.get?_append_left _ (by omega), Buffer.get?_append_left]
      rw [Buffer.size_ofBytes, width]
      omega
    change ControlPage.decode (Buffer.read region.toBytes 0 ControlPage.size) = _
    rw [fields, ControlPage.decode_encode]
  · change region.toBytes.extract controlPageSize.toNat region.toBytes.size = _
    rw [← front]
    exact Buffer.extract_append_right _ _
  · have size : region.toBytes.size = controlPageSize.toNat + region.data.size := by
      rw [toBytes, Buffer.size_append, front]
    have page : controlPageSize.toNat = 4096 := rfl
    have fields : ControlPage.size = 56 := rfl
    change ControlPage.size + (min controlPageSize.toNat region.toBytes.size - ControlPage.size) = _
    omega

theorem Padded.size_toBytes (padded : region.Padded) :
    region.toBytes.size = controlPageSize.toNat + region.data.size := by
  rw [toBytes, Buffer.size_append, padded.size_front]

/-- So the file of the region holds a ring. -/
theorem Padded.ringFile (padded : region.Padded) :
    RingFile.ofBytes region.toBytes = .whole (ofBytes region.toBytes) := by
  have size := padded.size_toBytes
  exact if_neg (by omega)

/-- Nothing of the region changed, or its tail was moved to its head. -/
structure Drains (before after : Region) : Prop where
  data : after.data = before.data
  padded : before.Padded → after.Padded
  page : after.page = before.page ∨ after.page = { before.page with tail := before.page.head }

theorem Drains.refl (region : Region) : region.Drains region :=
  ⟨rfl, id, .inl rfl⟩

/-- Only the tail tells. -/
theorem Drains.fields {before after : Region} (drains : before.Drains after) :
    after.page.head = before.page.head ∧ after.page.capacity = before.page.capacity ∧
      after.page.flags = before.page.flags ∧
        (after.page.tail = before.page.tail ∨ after.page.tail = before.page.head) := by
  rcases drains.page with same | moved
  · rw [same]
    exact ⟨rfl, rfl, rfl, .inl rfl⟩
  · rw [moved]
    exact ⟨rfl, rfl, rfl, .inr rfl⟩

/-- A file that is drained drains the region that is read off it. -/
theorem Padded.drains (padded : region.Padded) :
    let drained := (RingFile.ofBytes region.toBytes).drained
    drained.bytes.size = region.toBytes.size ∧ region.Drains (ofBytes drained.bytes) := by
  intro drained
  obtain ⟨page, data, again⟩ := padded.ofBytes_toBytes
  let emptied : Region :=
    { ofBytes region.toBytes with
      page := { (ofBytes region.toBytes).page with tail := (ofBytes region.toBytes).page.head } }
  have bytes : drained.bytes = emptied.toBytes := by
    change (RingFile.ofBytes region.toBytes).drained.bytes = _
    rw [padded.ringFile]
    rfl
  have held : emptied.Padded := again
  obtain ⟨pageAgain, dataAgain, padding⟩ := held.ofBytes_toBytes
  rw [bytes]
  refine ⟨?_, dataAgain.trans data, fun _ => padding, .inr ?_⟩
  · rw [held.size_toBytes, padded.size_toBytes]
    exact congrArg (fun found : Buffer => controlPageSize.toNat + found.size) data
  · rw [pageAgain, ← page]

end Region

structure FeedEntry.OnlyDrains (entry : FeedEntry) : Prop where
  create : entry.create = none
  write : entry.write = []
  fields : entry.fields = []

namespace FeedEntry

variable {entry : FeedEntry}

theorem OnlyDrains.fate_eq (only : entry.OnlyDrains) :
    entry.fate = if entry.drain then .overwritten else .kept := by
  rw [fate, only.create, only.write, only.fields]
  cases entry.drain <;> rfl

theorem OnlyDrains.change_eq (only : entry.OnlyDrains) (drain : entry.drain = true) (file : RingFile) :
    entry.change file = file.drained := by
  rw [change, only.write, only.fields, drain]
  rfl

/-- An entry that drains finds the file it is about, and drains it. -/
theorem OnlyDrains.apply_of_drain (only : entry.OnlyDrains) (drain : entry.drain = true)
    {location : List String} {files : FileTree} {bytes : Buffer} {executable : Bool}
    (there : files.root.at? location = some (.file bytes executable)) :
    entry.apply location files = files.store location (RingFile.ofBytes bytes).drained.bytes := by
  unfold apply
  rw [only.create, only.fate_eq, if_pos drain, there]
  exact congrArg (fun file : RingFile => files.store location file.bytes) (only.change_eq drain _)

/-- Such an entry does nothing to other files than the one it is about, and nothing where it does not
drain. -/
theorem OnlyDrains.apply_cases (only : entry.OnlyDrains) (location : List String) (files : FileTree) :
    (entry.drain = true ∧ ∃ bytes executable,
      files.root.at? location = some (.file bytes executable) ∧
        entry.apply location files = files.store location (RingFile.ofBytes bytes).drained.bytes) ∨
      entry.apply location files = files := by
  by_cases drains : entry.drain = true ∧
      ∃ bytes executable, files.root.at? location = some (.file bytes executable)
  · obtain ⟨drain, bytes, executable, found⟩ := drains
    exact .inl ⟨drain, bytes, executable, found, only.apply_of_drain drain found⟩
  · refine .inr ?_
    unfold apply
    rw [only.create, only.fate_eq]
    dsimp only
    split
    · rename_i bytes executable overwritten found
      refine absurd ⟨?_, bytes, executable, found⟩ drains
      cases drain : entry.drain with
      | true => rfl
      | false =>
          rw [drain] at overwritten
          cases overwritten
    · rfl

end FeedEntry

theorem Feed.onlyDrains_entry {feed : Feed} (only : ∀ entry ∈ feed.entries, entry.2.OnlyDrains)
    (idle : Nat) : (feed.entry idle).OnlyDrains := by
  unfold Feed.entry
  cases found : feed.entries.find? fun entry => entry.1 == idle with
  | none => exact ⟨rfl, rfl, rfl⟩
  | some entry => exact only entry (List.mem_of_find?_eq_some found)

namespace Mapping

variable {mapping : Mapping} {files : FileTree} {path : String} {location : List String}

/-- Where the file is kept, a process does not see what becomes of others. -/
theorem afterIdle_of_kept {others : Surroundings} {idle : Nat}
    (kept : ∀ location, mapping.location = some location → others.fate idle location = .kept)
    (files : FileTree) : mapping.afterIdle others idle files = (others.change idle files, mapping) := by
  unfold afterIdle
  cases lies : mapping.location with
  | none => rfl
  | some location =>
      dsimp only
      rw [kept location lies]

/-- Where the file is written to, a process sees what is there then. -/
theorem afterIdle_of_overwritten {others : Surroundings} {idle : Nat}
    (lies : mapping.location = some location)
    (overwritten : others.fate idle location = .overwritten) {bytes : Buffer} {executable : Bool}
    (there : (others.change idle (mapping.store files)).root.at? location =
      some (.file bytes executable)) :
    mapping.afterIdle others idle files =
      (others.change idle (mapping.store files), { mapping with region := .ofBytes bytes }) := by
  unfold afterIdle
  rw [lies]
  dsimp only
  rw [overwritten]
  dsimp only
  rw [there]

/-- After an idle the ring lies where it lay, and at most it was drained. -/
theorem afterIdle_of_draining {feed : Feed} {idle : Nat} (only : (feed.entry idle).OnlyDrains)
    (fed : List String) (lies : mapping.location = some location)
    (padded : mapping.region.Padded) (offers : files.Offers path location) :
    let done := mapping.afterIdle (feed.surroundings fed) idle files
    done.1.Offers path location ∧ done.2.location = some location ∧
      mapping.region.Drains done.2.region := by
  intro done
  have fate : (feed.surroundings fed).fate idle location =
      if location = fed then (if (feed.entry idle).drain then .overwritten else .kept) else .kept := by
    rw [← only.fate_eq]
    rfl
  by_cases drains : location = fed ∧ (feed.entry idle).drain = true
  · obtain ⟨rfl, drain⟩ := drains
    rw [if_pos rfl, if_pos drain] at fate
    obtain ⟨offered, found⟩ := offers.store mapping.region.toBytes
    obtain ⟨last, there⟩ := offered.store (RingFile.ofBytes mapping.region.toBytes).drained.bytes
    have changed : (feed.surroundings location).change idle (mapping.store files) =
        (files.store location mapping.region.toBytes).store location
          (RingFile.ofBytes mapping.region.toBytes).drained.bytes := by
      rw [store, lies]
      exact only.apply_of_drain drain found
    have same : done = _ := afterIdle_of_overwritten lies fate (by rw [changed]; exact there)
    rw [same, changed]
    exact ⟨last, lies, padded.drains.2⟩
  · have kept : (feed.surroundings fed).fate idle location = .kept := by
      rw [fate]
      split
      · rename_i here
        exact if_neg fun drain => drains ⟨here, drain⟩
      · rfl
    have same : done = ((feed.entry idle).apply fed files, mapping) :=
      afterIdle_of_kept (fun place here => by cases lies.symm.trans here; exact kept) files
    rw [same]
    refine ⟨?_, lies, .refl _⟩
    -- Another file may be drained.
    rcases only.apply_cases fed files with ⟨-, bytes, executable, there, stored⟩ | unchanged
    · rw [stored]
      exact offers.store_other there _
    · rw [unchanged]
      exact offers

/-- Where nothing is fed, nothing happens. -/
theorem afterIdle_of_nothing {feed : Feed} (nothing : feed.entries = []) (mapping : Mapping)
    (fed : List String) (idle : Nat) (files : FileTree) :
    mapping.afterIdle (feed.surroundings fed) idle files = (files, mapping) := by
  have blank : feed.entry idle = {} := by
    rw [Feed.entry, nothing]
    rfl
  have change : (feed.surroundings fed).change idle files = files := by
    change (feed.entry idle).apply fed files = files
    rw [blank]
    rfl
  rw [afterIdle_of_kept _ files, change]
  intro location _
  change (if location = fed then (feed.entry idle).fate else .kept) = _
  rw [blank]
  exact ite_self _

end Mapping

end RecordRing
