import NvMemory.Proofs.Device

/-!
A start leaves nothing of the cycle before it.

Two devices are alike if they differ in times and journals only. No operation looks at those, so
alike devices stay alike and answer alike (`Device.Alike.perform`). All else that a cycle keeps is
replaced by a start. So two devices that have the same blocks behave alike after the same start,
whatever their cycles have been through.
-/

namespace NvMemory

/-- Both results are refusals for the same reason, or both are accepted and `Same`. -/
inductive Agree {ε α β : Type} (Same : α → β → Prop) : Except ε α → Except ε β → Prop
  | refused (error : ε) : Agree Same (.error error) (.error error)
  | accepted {first : α} {second : β} (same : Same first second) :
      Agree Same (.ok first) (.ok second)

/-- Steps that begin with the same check agree if they agree after it. -/
theorem Agree.after {ε α β : Type} {first second : Except ε α} {Same : β → β → Prop}
    {firstNext secondNext : α → Except ε β} (check : first = second)
    (next : ∀ value, Agree Same (firstNext value) (secondNext value)) :
    Agree Same (first >>= firstNext) (second >>= secondNext) := by
  subst check
  cases first with
  | error error => exact .refused error
  | ok value => exact next value

def Snapshot.timeless (snapshot : Snapshot) : Snapshot :=
  { snapshot with takenAt := 0 }

def WriteCycleStatus.timeless (status : WriteCycleStatus) : WriteCycleStatus :=
  { status with time := 0, events := [] }

namespace WriteCycle

variable {first second : WriteCycle}

/-- The cycles differ at most in their times and journals. -/
structure Alike (first second : WriteCycle) : Prop where
  phase : first.phase = second.phase
  target : first.target = second.target
  pending : first.pending = second.pending
  snapshot : first.snapshot.map Snapshot.timeless = second.snapshot.map Snapshot.timeless
  dirty : first.dirty = second.dirty
  lossPoint : first.lossPoint = second.lossPoint

namespace Alike

/-- A start sets all fields but the clock and the journal. -/
theorem started (first second : WriteCycle) (id : BlockId) (bytes : List UInt8) :
    (first.started id bytes).Alike (second.started id bytes) :=
  ⟨rfl, rfl, rfl, rfl, rfl, rfl⟩

theorem refl (cycle : WriteCycle) : cycle.Alike cycle :=
  ⟨rfl, rfl, rfl, rfl, rfl, rfl⟩

theorem checkStep (alike : first.Alike second) (expected : Phase) (id : BlockId) :
    first.checkStep expected id = second.checkStep expected id := by
  simp only [WriteCycle.checkStep, alike.phase, alike.target]

theorem checkClean (alike : first.Alike second) : first.checkClean = second.checkClean := by
  simp only [WriteCycle.checkClean, alike.dirty]

theorem snapshotTaken (alike : first.Alike second) (id : BlockId) (block : Block) (time later : Nat) :
    (first.snapshotTaken id (Snapshot.ofBlock block time)).Alike
      (second.snapshotTaken id (Snapshot.ofBlock block later)) :=
  ⟨rfl, alike.target, alike.pending, rfl, alike.dirty, alike.lossPoint⟩

theorem persisted (alike : first.Alike second) (id : BlockId) :
    (first.persisted id).Alike (second.persisted id) :=
  ⟨rfl, alike.target, alike.pending, alike.snapshot, alike.dirty, alike.lossPoint⟩

theorem foundDirty (alike : first.Alike second) (id : BlockId) :
    (first.foundDirty id).Alike (second.foundDirty id) :=
  ⟨alike.phase, alike.target, alike.pending, alike.snapshot, rfl, alike.lossPoint⟩

theorem copied (alike : first.Alike second) (id : BlockId) (block : Block) (bytes : List UInt8) :
    (first.copied id block bytes).Alike (second.copied id block bytes) :=
  ⟨rfl, alike.target, rfl, alike.snapshot, alike.dirty, alike.lossPoint⟩

theorem completed (alike : first.Alike second) (id : BlockId) (block : Block) :
    (first.completed id block).Alike (second.completed id block) :=
  ⟨rfl, alike.target, alike.pending, alike.snapshot, alike.dirty, alike.lossPoint⟩

theorem failed (alike : first.Alike second) (id : BlockId) :
    (first.failed id).Alike (second.failed id) :=
  ⟨rfl, alike.target, alike.pending, alike.snapshot, alike.dirty, alike.lossPoint⟩

theorem lost (alike : first.Alike second) (point : LossPoint) :
    (first.lost point).Alike (second.lost point) :=
  ⟨alike.phase, alike.target, alike.pending, alike.snapshot, alike.dirty, rfl⟩

theorem assessed (alike : first.Alike second) (consequence : Consequence) :
    (first.assessed consequence).Alike (second.assessed consequence) :=
  ⟨rfl, alike.target, alike.pending, alike.snapshot, alike.dirty, alike.lossPoint⟩

/-- A restore writes back the block of the snapshot and does not look at its time. -/
theorem restore (alike : first.Alike second) (store : BlockStore) :
    first.restore store = second.restore store := by
  have same := alike.snapshot
  unfold WriteCycle.restore
  rw [alike.target]
  cases held : first.snapshot with
  | none =>
      rw [held] at same
      rw [Option.map_eq_none_iff.mp same.symm]
  | some snapshot =>
      rw [held] at same
      obtain ⟨other, kept, untimed⟩ := Option.map_eq_some_iff.mp same.symm
      have restored : snapshot.restored = other.restored :=
        (congrArg Snapshot.restored untimed).symm
      have known : snapshot.knownChecksum? = other.knownChecksum? :=
        (congrArg Snapshot.knownChecksum? untimed).symm
      rw [kept]
      cases second.target with
      | none => rfl
      | some id => simp only [restored, known]

theorem consequence (alike : first.Alike second) (store : BlockStore) (point : LossPoint) :
    first.consequence store point = second.consequence store point := by
  cases point with
  | beforePhase1 => rfl
  | afterPhase1 => exact alike.restore store
  | duringPhase2 => simp only [WriteCycle.consequence, interrupt, alike.target, alike.pending]
  | afterPhase2 => simp only [WriteCycle.consequence, alike.target]

theorem status (alike : first.Alike second) :
    first.status.timeless = second.status.timeless := by
  have held : first.snapshot.isSome = second.snapshot.isSome := by
    simpa using congrArg Option.isSome alike.snapshot
  have checksum : first.snapshot.map (·.block.checksum) = second.snapshot.map (·.block.checksum) := by
    have same := congrArg (Option.map (·.block.checksum)) alike.snapshot
    rwa [Option.map_map, Option.map_map] at same
  simp only [WriteCycle.status, WriteCycleStatus.timeless, alike.phase, alike.target, alike.dirty,
    alike.lossPoint, held, checksum]

end Alike

end WriteCycle

namespace Device

variable {first second : Device}

def Answer.timeless : Answer → Answer
  | .started report => .started { report with time := 0 }
  | .snapshotTaken report => .snapshotTaken { report with snapshot := report.snapshot.timeless }
  | answer => answer

/-- The devices have the same blocks and differ at most in their times and journals. -/
structure Alike (first second : Device) : Prop where
  store : first.store = second.store
  cycle : first.cycle.Alike second.cycle

/-- The devices are alike, and so are the answers that led to them. -/
structure AlikeResults (first second : Device × Answer) : Prop where
  device : first.1.Alike second.1
  answer : first.2.timeless = second.2.timeless

/-! Alike results of a cycle or of a memory make alike results of its device. -/

theorem Alike.cycleStep {ρ : Type} {report : ρ → Answer} (alike : first.Alike second)
    {one other : Except WriteError (WriteCycle × ρ)}
    (agree : Agree (fun one other => one.1.Alike other.1 ∧
      (report one.2).timeless = (report other.2).timeless) one other) :
    AlikeResults (answerCycle report (first.cycleStep one))
      (answerCycle report (second.cycleStep other)) := by
  cases agree with
  | refused error => exact ⟨alike, rfl⟩
  | accepted same => exact ⟨⟨alike.store, same.1⟩, same.2⟩

theorem Alike.storeStep {ρ : Type} {report : ρ → Answer} (alike : first.Alike second)
    {one other : Except WriteError (WriteCycle × BlockStore × ρ)}
    (agree : Agree (fun one other => one.1.Alike other.1 ∧ one.2 = other.2) one other) :
    AlikeResults (answerCycle report (first.storeStep one))
      (answerCycle report (second.storeStep other)) := by
  cases agree with
  | refused error => exact ⟨alike, rfl⟩
  | @accepted one other same =>
      obtain ⟨firstCycle, firstRest⟩ := one
      obtain ⟨secondCycle, secondRest⟩ := other
      obtain ⟨cycle, rest⟩ := same
      cases rest
      exact ⟨⟨rfl, cycle⟩, rfl⟩

theorem Alike.memoryStep {ρ : Type} {report : ρ → Answer} (alike : first.Alike second)
    {one other : Except MemoryError (Memory × ρ)}
    (agree : Agree (fun one other => one.1.store = other.1.store ∧ one.2 = other.2) one other) :
    AlikeResults (answerMemory report (first.memoryStep one))
      (answerMemory report (second.memoryStep other)) := by
  cases agree with
  | refused error => exact ⟨alike, rfl⟩
  | accepted same => exact ⟨⟨same.1, alike.cycle⟩, congrArg (fun rest => (report rest).timeless) same.2⟩

theorem Alike.perform (alike : first.Alike second) (operation : Operation) :
    AlikeResults (first.perform operation) (second.perform operation) := by
  have ⟨store, cycle⟩ := alike
  have lookup (id : BlockId) : first.memory.lookup id = second.memory.lookup id :=
    congrArg (fun store => (Memory.ofStore store).lookup id) store
  have placed (id : BlockId) (block : Block) :
      first.memory.store.set id block = second.memory.store.set id block :=
    congrArg (BlockStore.set · id block) store
  cases operation with
  | start id bytes =>
      refine alike.cycleStep (.after (by rw [store]) fun block => .accepted ?_)
      exact ⟨.started _ _ id bytes, rfl⟩
  | takeSnapshot id =>
      refine alike.cycleStep (.after (cycle.checkStep _ _) fun _ => ?_)
      refine .after (by rw [store]) fun block => .accepted ?_
      exact ⟨cycle.snapshotTaken id block _ _, rfl⟩
  | persist id =>
      refine alike.cycleStep (.after (cycle.checkStep _ _) fun _ => .accepted ?_)
      exact ⟨cycle.persisted id, rfl⟩
  | copy id bytes dirty =>
      refine alike.storeStep (.after (cycle.checkStep _ _) fun _ => .after cycle.checkClean fun _ => ?_)
      refine .after (by rw [store]) fun block => ?_
      cases dirty with
      | true => exact .accepted ⟨cycle.foundDirty id, by simp only [store, cycle.phase]⟩
      | false => exact .accepted ⟨cycle.copied id block bytes, by simp only [store]⟩
  | verify id =>
      refine alike.storeStep (.after (cycle.checkStep _ _) fun _ => ?_)
      refine .after (by rw [store]) fun block => ?_
      cases block.isIntact with
      | true => exact .accepted ⟨cycle.completed id block, by simp only [store]⟩
      | false => exact .accepted ⟨cycle.failed id, by simp only [store]⟩
  | losePower point =>
      have lost := cycle.lost point
      have same := lost.consequence first.store point
      simp only [Device.perform, losePower, WriteCycle.losePower, ← store, ← same]
      cases (first.cycle.lost point).consequence first.store point with
      | error error => exact ⟨⟨rfl, lost⟩, rfl⟩
      | ok consequence => exact ⟨⟨rfl, lost.assessed consequence⟩, rfl⟩
  | resetCycle => exact ⟨⟨store, .refl _⟩, rfl⟩
  | inject id fault =>
      refine alike.memoryStep (.after (lookup id) fun block => ?_)
      cases block.suffer? fault with
      | none => exact .refused _
      | some suffered => exact .accepted ⟨placed id suffered.1, rfl⟩
  | recover id =>
      exact alike.memoryStep (.after (lookup id) fun block => .accepted ⟨placed id _, rfl⟩)
  | writeVersion id bytes =>
      refine alike.memoryStep (.after (lookup id) fun block => ?_)
      cases block.versionStep? with
      | none => exact .refused _
      | some step => exact .accepted ⟨placed id _, rfl⟩

theorem Alike.after (alike : first.Alike second) (operations : List Operation) :
    (first.after operations).Alike (second.after operations) := by
  induction operations generalizing first second with
  | nil => exact alike
  | cons operation rest ih => exact ih (alike.perform operation).device

theorem Alike.answers (alike : first.Alike second) (operations : List Operation) :
    (first.answers operations).map Answer.timeless =
      (second.answers operations).map Answer.timeless := by
  induction operations generalizing first second with
  | nil => rfl
  | cons operation rest ih =>
      rw [answers_cons, answers_cons, List.map_cons, List.map_cons,
        (alike.perform operation).answer, ih (alike.perform operation).device]

/-- Whether a start is accepted depends on the store only, and it makes all devices alike that have
the same store. -/
theorem alike_of_started {begun : Device} {id : BlockId} {bytes : List UInt8} {report : StartReport}
    (sameStore : first.store = second.store)
    (started : first.perform (.start id bytes) = (begun, .started report)) :
    ∃ other otherReport, second.perform (.start id bytes) = (other, .started otherReport) ∧
      { otherReport with time := report.time } = report ∧ begun.Alike other := by
  cases step_iff.mpr started with
  | started found =>
      have stored := sameStore ▸ found
      exact ⟨_, _, (Step.started stored).perform_eq, rfl, sameStore, .started _ _ id bytes⟩

/-- Two devices have the same blocks, and whatever is left in them of cycles that were torn, found
dirty or cut off before. Once a start has been accepted on one of them, the same start is accepted on
the other, and from then on every run of operations gets the same answers on both, but for the times
in them, and leaves the same blocks after each operation. Their cycles show the same status, but for
its time and events. -/
theorem no_leak_between_cycles {begun : Device} {id : BlockId} {bytes : List UInt8}
    {report : StartReport} (sameStore : first.store = second.store)
    (started : first.perform (.start id bytes) = (begun, .started report)) :
    ∃ other otherReport, second.perform (.start id bytes) = (other, .started otherReport) ∧
      { otherReport with time := report.time } = report ∧ begun.store = other.store ∧
      ∀ operations,
        (begun.answers operations).map Answer.timeless =
          (other.answers operations).map Answer.timeless ∧
        (begun.after operations).store = (other.after operations).store ∧
        (begun.after operations).cycle.status.timeless =
          (other.after operations).cycle.status.timeless := by
  obtain ⟨other, otherReport, accepted, same, alike⟩ := alike_of_started sameStore started
  refine ⟨other, otherReport, accepted, same, alike.store, fun operations => ?_⟩
  have later := alike.after operations
  exact ⟨alike.answers operations, later.store, later.cycle.status⟩

/-- The cycle that was there before has a snapshot of another block, was found dirty and lost power. -/
theorem restart_forgets_torn_dirty_cycle :
    let used := (ofMemory Memory.seeded).after ([.inject ⟨1⟩ .bitFlip, .start ⟨2⟩ [7],
      .takeSnapshot ⟨2⟩, .persist ⟨2⟩, .copy ⟨2⟩ [7] true, .losePower .duringPhase2])
    let unused := ofMemory (Memory.ofStore used.store)
    let operations := [.takeSnapshot ⟨1⟩, .persist ⟨1⟩, .copy ⟨1⟩ [5] false,
      .losePower .afterPhase1, .start ⟨9⟩ [], .copy ⟨2⟩ [6] false, .recover ⟨2⟩]
    (used.cycle.snapshot.isSome = true ∧ used.cycle.dirty = true ∧
      used.cycle.lossPoint = some .duringPhase2) ∧
    used.store = unused.store ∧
    ∃ begun report other otherReport,
      used.perform (.start ⟨1⟩ [5]) = (begun, .started report) ∧
      unused.perform (.start ⟨1⟩ [5]) = (other, .started otherReport) ∧
      (begun.answers operations).map Answer.timeless =
        (other.answers operations).map Answer.timeless ∧
      (begun.after operations).store = (other.after operations).store := by
  intro used unused operations
  have found : ∃ block, used.store.get? ⟨1⟩ = some block :=
    Option.isSome_iff_exists.mp (by decide +kernel)
  obtain ⟨block, found⟩ := found
  have started : used.perform (.start ⟨1⟩ [5]) = _ := (Step.started found).perform_eq
  have sameStore : used.store = unused.store := rfl
  obtain ⟨other, otherReport, accepted, _, _, run⟩ := no_leak_between_cycles sameStore started
  exact ⟨by decide +kernel, sameStore, _, _, other, otherReport, started, accepted,
    (run operations).1, (run operations).2.1⟩

end Device

end NvMemory
