import Mathlib.Control.Monad.Basic
import RecordRing.Process.Launch
import RecordRing.Proofs.Crossings
import RecordRing.Proofs.EmptiedRing
import RecordRing.Proofs.LongestPrefix

set_option autoImplicit false

namespace RecordRing

namespace Reader

variable {region : Region}

/-- A poll that is not stopped and hands nothing on has found the cursors together. -/
theorem eq_of_poll_nothing {reader : Reader} (drained : (reader.poll region).1 = .drained)
    (nothing : (reader.poll region).2.1 = []) : region.page.tail = region.page.head := by
  by_cases found : ∃ record, region.recordAtTail reader.capacity = .record record
  · obtain ⟨record, look⟩ := found
    rw [poll, pollFuel, pollFor, take_of_record look] at nothing
    cases nothing
  · rw [poll, pollFuel, pollFor_of_not_record (not_exists.mp found), Region.ending] at drained
    cases look : region.recordAtTail reader.capacity with
    | nothing => exact Region.eq_of_recordAtTail_nothing look
    | record record => exact absurd ⟨record, look⟩ found
    | corrupted place =>
        rw [look] at drained
        cases drained
    | overrun =>
        rw [look] at drained
        cases drained

/-- Where the cursors are together a poll does nothing. -/
theorem poll_of_eq (reader : Reader) (together : region.page.tail = region.page.head) :
    reader.poll region = (.drained, [], reader, region) := by
  have look := Region.recordAtTail_of_eq reader.capacity together
  have none (record : Record) : region.recordAtTail reader.capacity ≠ .record record := by
    rw [look]
    nofun
  rw [poll, pollFuel, pollFor_of_not_record none, Region.ending, look]

/-- An empty ring is ready for a high watermark of zero only. -/
theorem isReady_of_eq (reader : Reader) {page : ControlPage} (together : page.tail = page.head) :
    reader.isReady page = true ↔ page.hi = 0 := by
  have used : page.used = 0 := by
    rw [ControlPage.used, together, UInt64.sub_self]
  rw [isReady, used, utilization_zero, decide_eq_true_iff]
  exact UInt32.le_zero_iff

end Reader

namespace ConsumerRun

def Idle.length : Idle → Nat
  | doorbell => reportInterval
  | sleep length => length

/-- What can be told of an iteration of the loop that went on. -/
structure Pass where
  records : List Record
  hi : UInt32
  idles : List Nat

/-- The loop waits for the doorbell of a ring whose high watermark is zero. -/
def Pass.Unwatched (pass : Pass) (how : Idle) : Prop :=
  how = .doorbell ∧ pass.hi = 0

structure Pass.Idles (pass : Pass) (how : Idle) : Prop where
  busy : pass.records ≠ [] → pass.idles = []
  once : pass.records = [] → ¬ pass.Unwatched how → pass.idles = [how.length]
  never : pass.records = [] → pass.Unwatched how → pass.idles = []

def Outcome.loop : Outcome → Loop
  | goOn loop => loop
  | failed _ loop => loop

namespace Loop

variable {loop next : Loop} {others : Surroundings} {how : Idle}

def haul (loop : Loop) : List Record :=
  (loop.reader.poll loop.mapping.region).2.1

/-- The iterations from here on, at most `fuel` of them, as far as the loop goes on. -/
def passes (loop : Loop) (others : Surroundings) (how : Idle) : Nat → List Pass
  | 0 => []
  | fuel + 1 =>
      match loop.iterate others how with
      | .goOn next =>
          { records := loop.haul
            hi := loop.mapping.region.page.hi
            idles := next.run.idles.toList.drop loop.run.idles.size } ::
              next.passes others how fuel
      | .failed .. => []

@[simp] theorem idles_report (loop : Loop) : loop.report.run.idles = loop.run.idles := by
  unfold report
  split <;> rfl

@[simp] theorem now_report (loop : Loop) : loop.report.run.now = loop.run.now := by
  unfold report
  split <;> rfl

@[simp] theorem mapping_report (loop : Loop) : loop.report.mapping = loop.mapping := by
  unfold report
  split <;> rfl

@[simp] theorem reader_report (loop : Loop) : loop.report.reader = loop.reader := by
  unfold report
  split <;> rfl

theorem idles_waitForBell (run : ConsumerRun) (others : Surroundings) :
    (run.waitForBell others).idles = run.idles.push reportInterval := by
  unfold waitForBell
  dsimp only
  split
  · split <;> rfl
  · rfl

/-- Whoever is to idle does so once, but for the doorbell of a ring that is ready. -/
theorem idles_idle (loop : Loop) (others : Surroundings) (how : Idle) :
    (loop.idle others how).run.idles =
      if how = .doorbell ∧ loop.reader.isReady loop.mapping.region.page = true then loop.run.idles
      else loop.run.idles.push how.length := by
  cases how with
  | sleep length =>
      rw [if_neg (by simp)]
      rfl
  | doorbell =>
      unfold idle
      by_cases ready : loop.reader.isReady loop.mapping.region.page = true
      · simp only [ready, and_self, if_true]
      · rw [if_neg ready, if_neg (fun both => ready both.2)]
        exact idles_waitForBell loop.run others

/-- An iteration polls, and after that it fails, or it goes on and idles if there was nothing. -/
theorem iterate_cases (loop : Loop) (others : Surroundings) (how : Idle) :
    ∃ polled : Loop, polled.run.idles = loop.run.idles ∧ polled.run.now = loop.run.now ∧
      polled.reader = (loop.reader.poll loop.mapping.region).2.2.1 ∧
      polled.mapping =
        { loop.mapping with region := (loop.reader.poll loop.mapping.region).2.2.2 } ∧
      ((∃ error, loop.iterate others how = .failed error polled) ∨
        ((loop.reader.poll loop.mapping.region).1 = .drained ∧
          loop.iterate others how =
            .goOn (if loop.haul = [] then polled.idle others how else polled))) := by
  unfold iterate haul
  generalize loop.reader.poll loop.mapping.region = polled
  obtain ⟨ended, records, reader, rest⟩ := polled
  dsimp only
  cases ended with
  | corrupted place =>
      refine ⟨_, ?_, ?_, ?_, ?_, .inl ⟨_, rfl⟩⟩
      all_goals rfl
  | overrun =>
      refine ⟨_, ?_, ?_, ?_, ?_, .inl ⟨_, rfl⟩⟩
      all_goals rfl
  | drained =>
      simp only [List.isEmpty_iff]
      refine ⟨_, ?_, ?_, ?_, ?_, .inr ⟨trivial, rfl⟩⟩
      · exact idles_report _
      · exact now_report _
      · exact reader_report _
      · exact mapping_report _

/-- Over an empty ring every iteration goes on, and all that it comes to is to idle. -/
theorem iterate_of_eq (together : loop.mapping.region.page.tail = loop.mapping.region.page.head)
    (others : Surroundings) (how : Idle) :
    ∃ polled : Loop, polled.run.idles = loop.run.idles ∧ polled.run.now = loop.run.now ∧
      polled.reader = loop.reader ∧ polled.mapping = loop.mapping ∧
      loop.iterate others how = .goOn (polled.idle others how) := by
  have still := loop.reader.poll_of_eq together
  obtain ⟨polled, idles, now, reader, mapping, ends⟩ := iterate_cases loop others how
  rw [still] at reader mapping ends
  refine ⟨polled, idles, now, reader, mapping, ?_⟩
  rcases ends with ⟨error, failed⟩ | ⟨-, on⟩
  · unfold iterate at failed
    rw [still] at failed
    cases failed
  · have nothing : loop.haul = [] := by rw [haul, still]
    rw [if_pos nothing] at on
    exact on

/-- What an iteration idles, told by what there is to read and by the page. -/
theorem idles_iterate (on : loop.iterate others how = .goOn next) :
    next.run.idles.toList = loop.run.idles.toList ++
      if loop.haul = [] ∧ ¬ (how = .doorbell ∧ loop.mapping.region.page.hi = 0) then [how.length]
      else [] := by
  by_cases nothing : loop.haul = []
  · have together : loop.mapping.region.page.tail = loop.mapping.region.page.head := by
      obtain ⟨polled, -, -, -, -, ⟨error, failed⟩ | ⟨drained, -⟩⟩ := iterate_cases loop others how
      · rw [failed] at on
        cases on
      · exact Reader.eq_of_poll_nothing drained nothing
    obtain ⟨polled, idles, -, reader, mapping, goes⟩ := iterate_of_eq together others how
    have ready : polled.reader.isReady polled.mapping.region.page = true ↔
        loop.mapping.region.page.hi = 0 := by
      rw [reader, mapping]
      exact loop.reader.isReady_of_eq together
    rw [goes] at on
    cases on
    rw [idles_idle, idles]
    by_cases unwatched : how = .doorbell ∧ loop.mapping.region.page.hi = 0
    · rw [if_pos ⟨unwatched.1, ready.mpr unwatched.2⟩, if_neg (fun both => both.2 unwatched),
        List.append_nil]
    · rw [if_neg (fun both => unwatched ⟨both.1, ready.mp both.2⟩), if_pos ⟨nothing, unwatched⟩,
        Array.toList_push]
  · obtain ⟨polled, idles, -, -, -, ⟨error, failed⟩ | ⟨-, goes⟩⟩ := iterate_cases loop others how
    · rw [failed] at on
      cases on
    · rw [if_neg nothing] at goes
      rw [goes] at on
      cases on
      rw [idles, if_neg (fun both => nothing both.1), List.append_nil]

/-- The idles of a run are those of its iterations, one after another. -/
theorem idles_iterations (loop : Loop) (others : Surroundings) (how : Idle) (fuel : Nat) :
    (loop.iterations others how fuel).loop.run.idles.toList =
      loop.run.idles.toList ++ (loop.passes others how fuel).flatMap Pass.idles := by
  induction fuel generalizing loop with
  | zero => exact (List.append_nil _).symm
  | succ fuel ih =>
      cases on : loop.iterate others how with
      | goOn next =>
          have step := idles_iterate on
          simp only [iterations, passes, on, List.flatMap_cons]
          rw [ih next, step, ← Array.length_toList, List.drop_left, List.append_assoc]
      | failed error last =>
          obtain ⟨polled, idles, -, -, -, ⟨other, failed⟩ | ⟨-, goes⟩⟩ := iterate_cases loop others how
          · rw [failed] at on
            cases on
            simp only [iterations, passes, failed, List.flatMap_nil, List.append_nil]
            exact congrArg Array.toList idles
          · rw [goes] at on
            cases on

/-- Every iteration of a run idles once if it read nothing, unless it is unwatched. -/
theorem idles_of_mem_passes (loop : Loop) (others : Surroundings) (how : Idle) (fuel : Nat) :
    ∀ pass ∈ loop.passes others how fuel, pass.Idles how := by
  induction fuel generalizing loop with
  | zero => nofun
  | succ fuel ih =>
      intro pass member
      cases on : loop.iterate others how with
      | failed error last =>
          simp only [passes, on, List.not_mem_nil] at member
      | goOn next =>
          simp only [passes, on] at member
          rcases List.mem_cons.mp member with rfl | later
          · have step := idles_iterate on
            rw [step, ← Array.length_toList, List.drop_left]
            constructor
            case busy =>
              intro some
              exact if_neg (fun both => some both.1)
            case once =>
              intro nothing watched
              exact if_pos ⟨nothing, watched⟩
            case never =>
              intro nothing unwatched
              exact if_neg (fun both => both.2 unwatched)
          · exact ih next pass later

/-- At the doorbell of an empty ring with a high watermark of zero the loop goes on and on: it does not
idle, no time passes, and nobody else gets to do anything. -/
theorem spins (together : loop.mapping.region.page.tail = loop.mapping.region.page.head)
    (zero : loop.mapping.region.page.hi = 0) (others : Surroundings) (fuel : Nat) :
    ∃ last, loop.iterations others .doorbell fuel = .goOn last ∧
      last.run.idles = loop.run.idles ∧ last.run.now = loop.run.now ∧
      last.mapping = loop.mapping := by
  induction fuel generalizing loop with
  | zero => exact ⟨loop, rfl, rfl, rfl, rfl⟩
  | succ fuel ih =>
      obtain ⟨polled, idles, now, reader, mapping, on⟩ := iterate_of_eq together others .doorbell
      have ready : polled.reader.isReady polled.mapping.region.page = true := by
        rw [reader, mapping]
        exact (loop.reader.isReady_of_eq together).mpr zero
      have goes : polled.idle others .doorbell = polled := by
        rw [idle, if_pos ready]
      rw [goes] at on
      rw [← mapping] at together zero
      obtain ⟨last, runs, lastIdles, lastNow, lastMapping⟩ := ih together zero
      refine ⟨last, ?_, lastIdles.trans idles, lastNow.trans now, lastMapping.trans mapping⟩
      rw [iterations, on]
      exact runs

end Loop

end ConsumerRun

namespace Host

open ConsumerRun

/-- How a consumer idles, by its settings and the descriptor that it was handed. -/
def idling (settings : Settings) (adopted : Option Nat) : Idle :=
  if adopted.isSome then .doorbell else .sleep (settings.pollInterval.toNat * 1000)

def firstLoop (settings : Settings) (run : ConsumerRun) (mapping : Mapping) (capacity : UInt64)
    (adopted : Option Nat) : Loop :=
  let attached := run.log
    [.attached settings.ringPath capacity, .consumerAttached settings.ringPath capacity]
  let ready := if adopted.isSome then attached.log [.waitingOnDescriptor] else attached
  { run := ready, mapping, reader := { capacity, inProcess := false }, lastReport := ready.now }

/-- The idles of a consumer are those of its loop, which is looked at often enough. -/
theorem idles_drainRing (host : Host) (settings : Settings) (run : ConsumerRun) (mapping : Mapping)
    (capacity : UInt64) (lastError : SystemError) {adopted : Option Nat}
    (adopts : Descriptors.adopt host.inherited host.isOpen lastError = .ok adopted) :
    (host.drainRing settings run mapping capacity lastError).idles =
      ((firstLoop settings run mapping capacity adopted).iterations host.surroundings
        (idling settings adopted) host.enoughPolls).loop.run.idles := by
  unfold drainRing firstLoop idling
  rw [adopts]
  cases adopted with
  | none =>
      simp only [Option.isSome_none, Bool.false_eq_true, if_false]
      generalize Loop.iterations _ _ _ _ = ending
      cases ending <;> rfl
  | some number =>
      simp only [Option.isSome_some, if_true]
      generalize Loop.iterations _ _ _ _ = ending
      cases ending <;> rfl

/-- A consumer from where it is attached to the ring: its idles are those before that, and then those
of the iterations of its loop. Of these, and of all others that begin anywhere, one that reads nothing
idles once: for the interval of the settings, or at most for a second at the doorbell; but at the
doorbell of an empty ring with a high watermark of zero it spins. -/
theorem idles_of_drainRing (host : Host) (settings : Settings) (run : ConsumerRun) (mapping : Mapping)
    (capacity : UInt64) (lastError : SystemError) {adopted : Option Nat}
    (adopts : Descriptors.adopt host.inherited host.isOpen lastError = .ok adopted) :
    let how := idling settings adopted
    (host.drainRing settings run mapping capacity lastError).idles.toList = run.idles.toList ++
        ((firstLoop settings run mapping capacity adopted).passes host.surroundings how
          host.enoughPolls).flatMap Pass.idles ∧
      ∀ (loop : Loop) (others : Surroundings) (fuel : Nat),
        (loop.iterations others how fuel).loop.run.idles.toList = loop.run.idles.toList ++
          (loop.passes others how fuel).flatMap Pass.idles ∧
        (∀ pass ∈ loop.passes others how fuel, pass.Idles how) ∧
        (how = .doorbell → loop.mapping.region.page.tail = loop.mapping.region.page.head →
          loop.mapping.region.page.hi = 0 →
            ∃ last, loop.iterations others how fuel = .goOn last ∧
              last.run.idles = loop.run.idles ∧ last.run.now = loop.run.now) := by
  intro how
  constructor
  · have told := (firstLoop settings run mapping capacity adopted).idles_iterations
      host.surroundings how host.enoughPolls
    have first : (firstLoop settings run mapping capacity adopted).run.idles = run.idles := by
      cases adopted <;> rfl
    rw [idles_drainRing host settings run mapping capacity lastError adopts, told, first]
  · intro loop others fuel
    refine ⟨loop.idles_iterations others how fuel, loop.idles_of_mem_passes others how fuel, ?_⟩
    intro bell together zero
    rw [bell]
    obtain ⟨last, runs, idles, now, -⟩ := Loop.spins together zero others fuel
    exact ⟨last, runs, idles, now⟩

/-- A consumer that was handed no descriptor, in front of an empty ring of 64 bytes. -/
def quietHost : Host :=
  { files := ⟨.directory [], []⟩, fedPath := "ring" }

def quietRun : ConsumerRun :=
  { files := quietHost.files, now := 0 }

def quietMapping : Mapping :=
  { region := .init (.zeros 4160) { capacity := 64 }, location := none }

/-- As often as it looks, it sleeps for the usual hundred microseconds. -/
theorem idles_of_drainRing_quiet :
    (quietHost.drainRing {} quietRun quietMapping 64 .none).idles.toList = quietRun.idles.toList ++
        ((firstLoop {} quietRun quietMapping 64 none).passes quietHost.surroundings (idling {} none)
          quietHost.enoughPolls).flatMap Pass.idles ∧
      (quietHost.drainRing {} quietRun quietMapping 64 .none).idles.toList =
        [100000, 100000, 100000, 100000] := by
  have adopts : Descriptors.adopt quietHost.inherited quietHost.isOpen .none = .ok none := rfl
  have told := (idles_of_drainRing quietHost {} quietRun quietMapping 64 .none adopts).1
  refine ⟨told, ?_⟩
  rw [told]
  decide +kernel

/-- Settings with watermarks of zero are accepted, and so is the ring that is made after them; at the
doorbell of that ring two iterations read nothing and do not idle. -/
theorem idles_not_at_zero :
    let settings : Settings := { ringOrder := 7, hi := 0, lo := 0, payloadSize := 16 }
    settings.validate = .ok () ∧
      ∃ plan channel, settings.plan = .ok plan ∧ Channel.create "ring" none plan = .ok channel ∧
        Descriptors.adopt (some "3") quietHost.isOpen .none = .ok (some 3) ∧
        let mapping : Mapping := { region := channel.region, location := none }
        let loop := firstLoop settings quietRun mapping channel.capacity (some 3)
        (loop.passes {} (idling settings (some 3)) 2).map (fun pass => (pass.records, pass.idles)) =
          [([], []), ([], [])] := by
  refine ⟨rfl, _, _, rfl, rfl, by decide +kernel, ?_⟩
  decide +kernel

end Host

end RecordRing
