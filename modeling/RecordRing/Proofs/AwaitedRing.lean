import RecordRing.Process.ConsumerRun
import RecordRing.Proofs.Attachment

set_option autoImplicit false

namespace RecordRing

/-- The files at the end of so many idles, of which the first one has the given number. -/
def Surroundings.filesAfter (others : Surroundings) (first : Nat) (files : FileTree) : Nat → FileTree
  | 0 => files
  | count + 1 => others.filesAfter (first + 1) (others.change first files) count

/-- Others can make any history of the files. -/
theorem Surroundings.exists_filesAfter (history : Nat → FileTree) (first : Nat) :
    ∃ others : Surroundings, ∀ count, others.filesAfter first (history 0) count = history count := by
  let others : Surroundings := { change := fun idle _ => history (idle - first + 1) }
  have later (count past : Nat) :
      others.filesAfter (first + past) (history past) count = history (past + count) := by
    induction count generalizing past with
    | zero => rfl
    | succ count ih =>
        have next : others.change (first + past) (history past) = history (past + 1) := by
          change history (first + past - first + 1) = _
          rw [Nat.add_sub_cancel_left]
        rw [filesAfter, next, Nat.add_assoc, ih, Nat.add_right_comm, Nat.add_assoc]
  exact ⟨others, fun count => by simpa only [Nat.add_zero, Nat.zero_add] using later count 0⟩

namespace ConsumerRun

def Attempt.Fails (attempt : Attempt) : Prop :=
  ∃ error, attempt.outcome = .error error

theorem Attempt.fails_iff (attempt : Attempt) : attempt.Fails ↔ attempt.outcome.toBool = false := by
  unfold Fails
  cases attempt.outcome with
  | error error => exact ⟨fun _ => rfl, fun _ => ⟨error, rfl⟩⟩
  | ok attached => exact ⟨nofun, nofun⟩

variable {run : ConsumerRun} {others : Surroundings} {path : String} {deadline : Nat}

/-- An attempt succeeds where a ring file can be attached to, and maps that file. -/
theorem attach_eq (run : ConsumerRun) (path : String) :
    run.attach path =
      match run.files.openMapped path with
      | .error failure => .error (.failure failure)
      | .ok (location, bytes) =>
          ((RingFile.ofBytes bytes).attach none).map fun capacity =>
            ({ region := .ofBytes bytes, location := some location }, capacity) := by
  unfold attach RingFile.attach
  cases run.files.openMapped path with
  | error failure => rfl
  | ok opened =>
      obtain ⟨location, bytes⟩ := opened
      dsimp only
      rw [RingFile.size_ofBytes, RingFile.page?_ofBytes]
      cases RingFile.capacityIn bytes.size (Region.pageOf? bytes) none <;> rfl

def afterSleeps (run : ConsumerRun) (others : Surroundings) : Nat → ConsumerRun
  | 0 => run
  | count + 1 => (run.sleepUnattached others).afterSleeps others count

def attemptAfter (run : ConsumerRun) (others : Surroundings) (path : String) (count : Nat) : Attempt where
  moment := (run.afterSleeps others count).now
  outcome := (run.afterSleeps others count).attach path

theorem now_afterSleeps (run : ConsumerRun) (others : Surroundings) (count : Nat) :
    (run.afterSleeps others count).now = run.now + openInterval * count := by
  induction count generalizing run with
  | zero => rfl
  | succ count ih => rw [afterSleeps, ih, sleepUnattached_now, Nat.mul_succ, Nat.add_assoc,
      Nat.add_comm openInterval]

theorem idles_afterSleeps (run : ConsumerRun) (others : Surroundings) (count : Nat) :
    (run.afterSleeps others count).idles.toList =
      run.idles.toList ++ List.replicate count openInterval := by
  induction count generalizing run with
  | zero => exact (List.append_nil _).symm
  | succ count ih =>
      have slept : (run.sleepUnattached others).idles = run.idles.push openInterval := rfl
      rw [afterSleeps, ih, slept, Array.toList_push, List.append_assoc, List.replicate_succ]
      rfl

theorem files_afterSleeps (run : ConsumerRun) (others : Surroundings) (count : Nat) :
    (run.afterSleeps others count).files = others.filesAfter run.nextIdle run.files count := by
  induction count generalizing run with
  | zero => rfl
  | succ count ih =>
      have next : (run.sleepUnattached others).nextIdle = run.nextIdle + 1 :=
        congrArg (· + 1) (Array.size_push openInterval)
      rw [afterSleeps, ih, next]
      rfl

/-- How many sleeps it takes until an attempt succeeds, or the time is up. -/
structure StopsAfter (run : ConsumerRun) (others : Surroundings) (path : String) (most count : Nat) :
    Prop where
  within : count ≤ most
  failed : ∀ earlier < count, (run.attemptAfter others path earlier).Fails
  stops : (run.attemptAfter others path count).Fails → count = most

theorem StopsAfter.unique {most count other : Nat} (stops : run.StopsAfter others path most count)
    (second : run.StopsAfter others path most other) : count = other := by
  rcases Nat.lt_trichotomy count other with less | same | more
  · have last := stops.stops (second.failed count less)
    have within := second.within
    omega
  · exact same
  · have last := second.stops (stops.failed other more)
    have within := stops.within
    omega

theorem stopsAfter_zero {most : Nat} (stops : (run.attemptAfter others path 0).Fails → 0 = most) :
    run.StopsAfter others path most 0 :=
  ⟨Nat.zero_le _, fun _ less => absurd less (Nat.not_lt_zero _), stops⟩

/-- An attempt that fails is followed by those after one more sleep. -/
theorem StopsAfter.succ {most count : Nat} (fails : (run.attemptAfter others path 0).Fails)
    (stops : (run.sleepUnattached others).StopsAfter others path most count) :
    run.StopsAfter others path (most + 1) (count + 1) := by
  refine ⟨Nat.succ_le_succ stops.within, fun earlier less => ?_, fun last => ?_⟩
  · cases earlier with
    | zero => exact fails
    | succ earlier => exact stops.failed earlier (Nat.lt_of_succ_lt_succ less)
  · exact congrArg (· + 1) (stops.stops last)

/-- An attempt that succeeds, or comes when the time is up, is the last one. -/
theorem awaitRing_of_last
    (last : ∀ error, run.attach path = .error error → ¬ run.now < deadline) :
    run.awaitRing others path deadline =
      ⟨[run.attemptAfter others path 0], (run.attemptAfter others path 0).outcome, run⟩ := by
  rw [awaitRing]
  change _ = (⟨[⟨run.now, run.attach path⟩], run.attach path, run⟩ : Wait)
  cases look : run.attach path with
  | ok attached => rfl
  | error error => exact if_neg (last error look)

/-- After an attempt that fails in time the wait goes on from the end of a sleep. -/
theorem awaitRing_of_early {error : RingError} (fails : run.attach path = .error error)
    (early : run.now < deadline) :
    run.awaitRing others path deadline =
      ((run.sleepUnattached others).awaitRing others path deadline).prepend
        (run.attemptAfter others path 0) := by
  rw [awaitRing]
  change _ = Wait.prepend _ ⟨run.now, run.attach path⟩
  rw [fails]
  exact if_pos early

/-- A wait that has time for so many sleeps stops at the first attempt that succeeds, or at the last
one. Its outcome is that of the last attempt made. -/
theorem exists_stopsAfter (run : ConsumerRun) (others : Surroundings) (path : String) (most : Nat) :
    ∃ count, run.StopsAfter others path most count ∧
      run.awaitRing others path (run.now + openInterval * most) =
        ⟨(List.range (count + 1)).map (run.attemptAfter others path),
          (run.attemptAfter others path count).outcome, run.afterSleeps others count⟩ := by
  induction most generalizing run with
  | zero =>
      exact ⟨0, stopsAfter_zero fun _ => rfl, awaitRing_of_last fun _ _ => Nat.lt_irrefl _⟩
  | succ most ih =>
      cases look : run.attach path with
      | ok attached =>
          have succeeds (error : RingError) : run.attach path ≠ .error error := by
            rw [look]
            nofun
          refine ⟨0, stopsAfter_zero ?_, awaitRing_of_last fun error fails => ?_⟩
          · exact fun ⟨error, fails⟩ => absurd fails (succeeds error)
          · exact absurd fails (succeeds error)
      | error error =>
          have early : run.now < run.now + openInterval * (most + 1) :=
            Nat.lt_add_of_pos_right (Nat.mul_pos (by decide) (Nat.succ_pos _))
          -- The deadline stays where it is while the clock goes on, so one sleep less fits before
          -- it.
          have deadline : run.now + openInterval * (most + 1) =
              (run.sleepUnattached others).now + openInterval * most := by
            rw [sleepUnattached_now, Nat.mul_succ]
            omega
          have onward := @awaitRing_of_early run others path _ error look early
          obtain ⟨count, stops, awaited⟩ := ih (run.sleepUnattached others)
          refine ⟨count + 1, stops.succ ⟨error, look⟩, ?_⟩
          rw [onward, deadline, awaited, List.range_succ_eq_map (n := count + 1), List.map_cons,
            List.map_map]
          rfl

/-- What opening a ring comes to: attempts ten milliseconds apart, of which there are at most one more
than a thousand, and the first one that succeeds is the last one made. -/
structure OpensFirst (run : ConsumerRun) (others : Surroundings) (path : String) : Prop where
  made : (run.openWait others path).attempts =
    (List.range (run.openWait others path).attempts.length).map (run.attemptAfter others path)
  moments : ∀ count, (run.attemptAfter others path count).moment = run.now + 10000000 * count
  /-- Each attempt is to attach to the file that the path leads to at that moment. -/
  tried : ∀ count, (run.attemptAfter others path count).outcome =
    match (run.afterSleeps others count).files.openMapped path with
    | .error failure => .error (.failure failure)
    | .ok (location, bytes) =>
        ((RingFile.ofBytes bytes).attach none).map fun capacity =>
          ({ region := .ofBytes bytes, location := some location }, capacity)
  slept : ∀ count, (run.afterSleeps others count).now = run.now + 10000000 * count ∧
    (run.afterSleeps others count).idles.toList =
      run.idles.toList ++ List.replicate count 10000000
  bounded : (run.openWait others path).attempts.length ≤ 1001
  opened : ∀ count ≤ 1000, (∀ earlier < count, (run.attemptAfter others path earlier).Fails) →
    ∀ attached, (run.attemptAfter others path count).outcome = .ok attached →
      run.openRing others path = (.ok attached, run.afterSleeps others count) ∧
        (run.openWait others path).attempts.length = count + 1
  refused : (∀ count ≤ 1000, (run.attemptAfter others path count).Fails) →
    ∃ error, (run.attemptAfter others path 1000).outcome = .error error ∧
      run.openRing others path =
        (.error ⟨s!"opening ring at {path}", [error.message]⟩, run.afterSleeps others 1000) ∧
      (run.openWait others path).attempts.length = 1001

/-- There is time for a thousand sleeps. -/
theorem openTimeout_eq : openTimeout = openInterval * 1000 :=
  rfl

theorem opensFirst (run : ConsumerRun) (others : Surroundings) (path : String) :
    run.OpensFirst others path := by
  -- Every part of the statement is read off the number of sleeps after which the loop stopped.
  obtain ⟨last, stops, awaited⟩ := run.exists_stopsAfter others path 1000
  rw [← openTimeout_eq] at awaited
  change run.openWait others path = _ at awaited
  have counted : (run.openWait others path).attempts.length = last + 1 := by
    rw [awaited, List.length_map, List.length_range]
  have opens : run.openRing others path =
      ((run.attemptAfter others path last).outcome.mapError
        fun error => ⟨s!"opening ring at {path}", [error.message]⟩, run.afterSleeps others last) := by
    rw [openRing, awaited]
  constructor
  case made => rw [counted, awaited]
  case moments =>
    intro count
    rw [attemptAfter, now_afterSleeps, openInterval]
  case tried => exact fun count => (run.afterSleeps others count).attach_eq path
  case slept =>
    intro count
    rw [now_afterSleeps, idles_afterSleeps, openInterval]
    exact ⟨rfl, rfl⟩
  case bounded =>
    have within := stops.within
    omega
  case opened =>
    intro count within failed attached succeeds
    have same : last = count := by
      refine stops.unique ⟨within, failed, ?_⟩
      rintro ⟨error, fails⟩
      exact absurd (succeeds.symm.trans fails) nofun
    subst same
    rw [opens, succeeds]
    exact ⟨rfl, counted⟩
  case refused =>
    intro failed
    have same : last = 1000 :=
      stops.unique ⟨Nat.le_refl _, fun earlier less => failed earlier (Nat.le_of_lt less), fun _ => rfl⟩
    subst same
    obtain ⟨error, fails⟩ := failed 1000 (Nat.le_refl _)
    refine ⟨error, fails, ?_, counted⟩
    rw [opens, fails]
    rfl

/-- Whatever others do to the files while a consumer sleeps, and every history of the files is one that
they can make, it takes the first attempt that succeeds, and tells the error of the last one if none
does. -/
theorem opens_first_good (run : ConsumerRun) (path : String) :
    (∀ others, run.OpensFirst others path) ∧
      ∀ history : Nat → FileTree, history 0 = run.files →
        ∃ others, ∀ count, (run.afterSleeps others count).files = history count := by
  refine ⟨fun others => run.opensFirst others path, fun history starts => ?_⟩
  obtain ⟨others, makes⟩ := Surroundings.exists_filesAfter history run.nextIdle
  exact ⟨others, fun count => by rw [files_afterSleeps, ← starts, makes]⟩

/-- In the first sleep somebody makes a file that is too short, and in the second one a ring of it. -/
def lateRing : Surroundings where
  change idle files :=
    match idle with
    | 1 => files.store ["ring"] (.zeros 100)
    | 2 => files.store ["ring"] (RingFile.whole (.init (.zeros 4160) { capacity := 64 })).bytes
    | _ => files

/-- The third attempt is the first one that finds a ring, and the last one made. -/
theorem opens_first_good_late_ring :
    let run : ConsumerRun := { files := ⟨.directory [], []⟩, now := 0 }
    (run.attemptAfter lateRing "/ring" 0).Fails ∧ (run.attemptAfter lateRing "/ring" 1).Fails ∧
      ∃ attached, (run.attemptAfter lateRing "/ring" 2).outcome = .ok attached ∧
        run.openRing lateRing "/ring" = (.ok attached, run.afterSleeps lateRing 2) ∧
        (run.openWait lateRing "/ring").attempts.length = 3 := by
  intro run
  have absent : (run.attemptAfter lateRing "/ring" 0).Fails := by
    rw [Attempt.fails_iff]
    decide +kernel
  have short : (run.attemptAfter lateRing "/ring" 1).Fails := by
    rw [Attempt.fails_iff]
    decide +kernel
  have found : (run.attemptAfter lateRing "/ring" 2).outcome.toBool = true := by
    decide +kernel
  obtain ⟨opens, -⟩ := run.opens_first_good "/ring"
  cases outcome : (run.attemptAfter lateRing "/ring" 2).outcome with
  | error error =>
      rw [outcome] at found
      cases found
  | ok attached =>
      refine ⟨absent, short, attached, rfl, (opens lateRing).opened 2 (by decide) ?_ attached outcome⟩
      intro earlier less
      match earlier, less with
      | 0, _ => exact absent
      | 1, _ => exact short

end ConsumerRun

end RecordRing
