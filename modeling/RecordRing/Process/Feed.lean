import RecordRing.Process.FileTree
import RecordRing.Region
/-!
What others do while a process idles. The idles of a process are numbered from one. In each of them
files may change and the doorbell may be rung; a feed lists such changes of one file by entries: it is
made anew, overwritten, or drained. A process that has mapped a file sees what is written to it, but
keeps what it has mapped when another file takes its place.
-/

set_option autoImplicit false

namespace RecordRing

/-- What becomes of a file in an idle. -/
inductive Fate where
  | kept
  | overwritten
  | replaced
  deriving DecidableEq, Repr

/-- What others do, by the number of the idle in which they do it. -/
structure Surroundings where
  change : Nat → FileTree → FileTree := fun _ files => files
  fate : Nat → List String → Fate := fun _ _ => .kept
  signals : Nat → Nat := fun _ => 0

/-- A file that a process has mapped. -/
structure Mapping where
  region : Region
  /-- Where the file lies; nowhere any more, once another file has taken its place. -/
  location : Option (List String)

namespace Mapping

/-- The files with what the process has written to the one it has mapped. -/
def store (mapping : Mapping) (files : FileTree) : FileTree :=
  match mapping.location with
  | none => files
  | some location => files.store location mapping.region.toBytes

/-- The files and the mapping after an idle. -/
def afterIdle (mapping : Mapping) (others : Surroundings) (idle : Nat) (files : FileTree) :
    FileTree × Mapping :=
  match mapping.location with
  | none => (others.change idle files, mapping)
  | some location =>
      match others.fate idle location with
      | .kept => (others.change idle files, mapping)
      | .replaced => (others.change idle files, { mapping with location := none })
      | .overwritten =>
          let changed := others.change idle (mapping.store files)
          match changed.root.at? location with
          | some (.file bytes _) => (changed, { mapping with region := .ofBytes bytes })
          | _ => (changed, mapping)

end Mapping

/-- What happens in one idle, in this order. -/
structure FeedEntry where
  create : Option RingFile := none
  write : List (Nat × Bytes) := []
  fields : List (ControlPage.Field × UInt64) := []
  drain : Bool := false
  signals : Nat := 0

namespace RingFile

def drained (file : RingFile) : RingFile :=
  match file with
  | short held => short held
  | whole held => whole { held with page := { held.page with tail := held.page.head } }

end RingFile

namespace FeedEntry

/-- What becomes of a file that is there. -/
def change (entry : FeedEntry) (file : RingFile) : RingFile :=
  let written := entry.write.foldl (fun file place => file.poke place.1 place.2) file
  let marked := if entry.fields.isEmpty then written else written.setFields entry.fields
  if entry.drain then marked.drained else marked

/-- What the entry means for the file that it is about. -/
def fate (entry : FeedEntry) : Fate :=
  if entry.create.isSome then .replaced
  else if entry.write.isEmpty && entry.fields.isEmpty && !entry.drain then .kept
  else .overwritten

/-- What becomes of the files when the entry is about the file at a location. Unless it is made anew,
only a file that is there can change. -/
def apply (entry : FeedEntry) (location : List String) (files : FileTree) : FileTree :=
  match entry.create with
  | some made => files.store location (entry.change made).bytes
  | none =>
      match entry.fate, files.root.at? location with
      | .overwritten, some (.file bytes _) =>
          files.store location (entry.change (.ofBytes bytes)).bytes
      | _, _ => files

end FeedEntry

structure Feed where
  entries : List (Nat × FeedEntry) := []

namespace Feed

def entry (feed : Feed) (idle : Nat) : FeedEntry :=
  ((feed.entries.find? fun entry => entry.1 == idle).map Prod.snd).getD {}

def last (feed : Feed) : Nat :=
  feed.entries.foldl (fun last entry => max last entry.1) 0

/-- A feed of the file at a location. -/
def surroundings (feed : Feed) (location : List String) : Surroundings where
  change idle files := (feed.entry idle).apply location files
  fate idle place := if place = location then (feed.entry idle).fate else .kept
  signals idle := (feed.entry idle).signals

end Feed

end RecordRing
