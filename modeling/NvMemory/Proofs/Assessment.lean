import NvMemory.Proofs.Block
import NvMemory.Proofs.Checksum
import NvMemory.Proofs.Device

/-!
Whether the assessment of a power loss is true of the block.

The assessment depends on the point at which power is said to be lost and not on what the cycle has
done. A `Course` is kept beside the operations of a cycle and tells what they have made of its
block, so that the two can be compared.
-/

namespace NvMemory

namespace Block

variable {block : Block} {pending : List UInt8}

/-- A torn write leaves the bytes that were to be written only if the part that did not land looks
like an erased one. -/
theorem bytes_tear_eq_iff :
    (block.tear pending).bytes = pending ↔
      (∀ byte ∈ pending.drop (pending.length / 2), byte = 0xFF) ∧
        (pending = [] → block.bytes = []) := by
  by_cases empty : pending = []
  · simp [tear, bytes, empty]
  · have nonempty : pending.isEmpty = false := by simpa using empty
    have half : pending.length / 2 ≤ pending.length := Nat.div_le_self _ _
    have landed : (block.tear pending).bytes = pending.take (pending.length / 2) ++
        List.replicate (pending.length - pending.length / 2) 0xFF := by
      simp only [tear, bytes, nonempty, Bool.false_eq_true, if_false, List.length_take,
        Nat.min_eq_left half]
    rw [landed, and_iff_left fun none => absurd none empty]
    conv => lhs; rhs; rw [← List.take_append_drop (pending.length / 2) pending]
    rw [List.append_right_inj, eq_comm, List.eq_replicate_iff, List.length_drop]
    exact and_iff_right rfl

/-- Content that is written as a whole is what a block had before only if the block was sound. -/
theorem written_eq_iff {written : Block} {data : List UInt8} (id : written.id = block.id)
    (content : written.content = .ofBytes data) (valid : written.valid = true) :
    written = block ↔
      block.isSound = true ∧ block.bytes = data ∧ written.protection = block.protection := by
  constructor
  · rintro rfl
    refine ⟨?_, ?_, rfl⟩
    · rw [isSound, isIntact, valid, content, Sealed.isIntact_ofBytes, Bool.and_self]
    · rw [bytes, content, Sealed.ofBytes]
  · rintro ⟨sound, rfl, protection⟩
    obtain ⟨good, intact⟩ := Bool.and_eq_true_iff.mp sound
    have same : written.content = block.content :=
      content.trans (Sealed.ofBytes_bytes_of_isIntact intact)
    cases written
    cases block
    rw [Block.mk.injEq]
    exact ⟨id, same, valid.trans good.symm, protection⟩

theorem isSound_eq_valid_iff : block.isSound = block.valid ↔ block.Honest := by
  rw [honest_iff, isSound]
  cases block.valid <;> simp

end Block

/-- What a write cycle has made of its block so far. -/
inductive Imprint where
  | untouched
  | copied
  | verified
  | torn (before : Block)
  | rewound
deriving DecidableEq

/-- In these phases of the cycle the block can have the imprint. -/
def Imprint.Suits (imprint : Imprint) : Phase → Prop
  | .snapshot | .persist | .copy => imprint = .untouched
  | .verify => imprint = .copied
  | .idle | .completed | .failed => True

/-- A write cycle as its operations tell it: which block it was started for, what that block was
then, and which data it was to get last. -/
structure Course where
  block : BlockId
  original : Block
  data : List UInt8
  imprint : Imprint
deriving DecidableEq

namespace Course

/-- What the block of the cycle is now. -/
def left (course : Course) : Block :=
  match course.imprint with
  | .untouched => course.original
  | .copied => course.original.commit course.data
  | .verified => (course.original.commit course.data).refreshBackup
  | .torn before => before.tear course.data
  | .rewound => { course.original with valid := course.original.isSound }

/-- To what extent `block` is the one that the cycle was started for. -/
def KeepsOriginal (course : Course) (block : Block) : Prop :=
  match course.imprint with
  | .untouched => block = course.original
  | .copied | .verified => block = course.original ↔
      course.original.isSound = true ∧ course.original.bytes = course.data ∧
        block.protection = course.original.protection
  | .torn _ => block = course.original → course.original.valid = false
  | .rewound => block = course.original ↔ course.original.Honest

/-- To what extent `block` has the data of the cycle. -/
def HoldsData (course : Course) (block : Block) : Prop :=
  match course.imprint with
  | .untouched | .rewound => block.bytes = course.data ↔ course.original.bytes = course.data
  | .copied | .verified => block.bytes = course.data
  | .torn before => block.bytes = course.data ↔
      (∀ byte ∈ course.data.drop (course.data.length / 2), byte = 0xFF) ∧
        (course.data = [] → before.bytes = [])

theorem keepsOriginal_left (course : Course) : course.KeepsOriginal course.left := by
  obtain ⟨id, original, data, imprint⟩ := course
  cases imprint with
  | untouched => rfl
  | copied | verified => exact Block.written_eq_iff rfl rfl rfl
  | torn before =>
      intro same
      exact (congrArg Block.valid same).symm
  | rewound =>
      rw [KeepsOriginal, ← Block.isSound_eq_valid_iff]
      constructor
      · exact fun same => congrArg Block.valid same
      · intro same
        rw [left, same]

theorem holdsData_left (course : Course) : course.HoldsData course.left := by
  obtain ⟨id, original, data, imprint⟩ := course
  cases imprint with
  | untouched | rewound => exact Iff.rfl
  | copied | verified => rfl
  | torn before => exact Block.bytes_tear_eq_iff

end Course

namespace Device

variable {device next : Device} {operation : Operation} {answer : Answer} {id : BlockId}
  {course : Course} {known : Option Course}

def Operation.isOfCycle : Operation → Bool
  | .inject .. | .recover _ | .writeVersion .. => false
  | _ => true

def followCourse (known : Option Course) (device : Device) : Operation → Answer → Option Course
  | .start id bytes, .started _ => (device.store.get? id).map fun original =>
      { block := id, original := original, data := bytes, imprint := .untouched }
  | .copy _ bytes _, .copied report =>
      if report.dirty then known
      else known.map fun course => { course with data := bytes, imprint := .copied }
  | .verify _, .verified _ => known.map fun course => { course with imprint := .verified }
  | .losePower _, .powerLost report =>
      match report.assessment with
      | .restoredFromSnapshot => known.map fun course => { course with imprint := .rewound }
      | .corrupted => known.map fun course => { course with imprint := .torn course.left }
      | .unaffected | .noSnapshot | .durable => known
  | .resetCycle, .cycleReset => none
  | _, _ => known

@[simp] theorem followCourse_cycleRefused {error : WriteError} :
    followCourse known device operation (.cycleRefused error) = known := by
  cases operation <;> rfl

@[simp] theorem followCourse_memoryRefused {error : MemoryError} :
    followCourse known device operation (.memoryRefused error) = known := by
  cases operation <;> rfl

/-- The cycle is on its course, and its block is what the course makes of it. -/
structure Follows (device : Device) (course : Course) : Prop where
  target : device.cycle.target = some course.block
  pending : device.cycle.pending = course.data
  block : device.store.get? course.block = some course.left
  snapshot : ∀ snapshot, device.cycle.snapshot = some snapshot →
    snapshot.restored = { course.original with valid := course.original.isSound }
  suits : course.imprint.Suits device.cycle.phase

theorem Follows.eq_left {block : Block} (follows : device.Follows course)
    (found : device.store.get? course.block = some block) : block = course.left :=
  Option.some.inj (found.symm.trans follows.block)

inductive OnCourse (device : Device) : Option Course → Prop
  | idle (targetless : device.cycle.target = none) : OnCourse device none
  | underWay {course : Course} (follows : device.Follows course) : OnCourse device (some course)

theorem OnCourse.follows (onCourse : device.OnCourse known)
    (target : device.cycle.target = some id) :
    ∃ course, known = some course ∧ course.block = id ∧ device.Follows course := by
  cases onCourse with
  | idle targetless =>
      rw [targetless] at target
      contradiction
  | @underWay course follows =>
      exact ⟨course, rfl, Option.some.inj (follows.target.symm.trans target), follows⟩

theorem OnCourse.atStep {phase : Phase} (onCourse : device.OnCourse known)
    (atStep : device.cycle.AtStep phase id) :
    ∃ course, known = some course ∧ course.block = id ∧ device.Follows course ∧
      course.imprint.Suits phase := by
  obtain ⟨course, told, named, follows⟩ := onCourse.follows atStep.target
  exact ⟨course, told, named, follows, atStep.phase ▸ follows.suits⟩

theorem OnCourse.losePower {point : LossPoint} {consequence : WriteCycle.Consequence}
    (onCourse : device.OnCourse known)
    (aftermath : (device.cycle.lost point).Aftermath device.store point consequence) :
    ((device.withStore consequence.store).withCycle
        ((device.cycle.lost point).assessed consequence)).OnCourse
      (followCourse known device (.losePower point) (.powerLost (consequence.report point))) := by
  cases aftermath with
  | unaffected | noSnapshot | durable =>
      cases onCourse with
      | idle targetless => exact .idle targetless
      | underWay follows => exact .underWay { follows with suits := trivial }
  | @restored id snapshot block held target found =>
      obtain ⟨course, rfl, rfl, follows⟩ := onCourse.follows target
      refine .underWay ⟨follows.target, follows.pending, ?_, follows.snapshot, trivial⟩
      rw [Course.left, ← follows.snapshot snapshot held]
      exact BlockStore.get?_set_same _ _ _
  | @torn id block target found =>
      obtain ⟨course, rfl, rfl, follows⟩ := onCourse.follows target
      obtain rfl := follows.eq_left found
      have torn : { course with imprint := .torn course.left : Course }.left =
          course.left.tear device.cycle.pending := by
        rw [follows.pending]
        rfl
      refine .underWay ⟨follows.target, follows.pending, ?_, follows.snapshot, trivial⟩
      exact (BlockStore.get?_set_same _ _ _).trans (congrArg some torn.symm)

theorem Step.onCourse (step : Step device operation next answer)
    (ofCycle : operation.isOfCycle = true) (onCourse : device.OnCourse known) :
    next.OnCourse (followCourse known device operation answer) := by
  cases step with
  | @started id bytes block found =>
      rw [followCourse, found, Option.map_some]
      exact .underWay ⟨rfl, rfl, found, fun _ held => by contradiction, rfl⟩
  | @snapshotTaken id block snapshot atStep found taken =>
      obtain ⟨course, rfl, rfl, follows, (untouched : course.imprint = .untouched)⟩ :=
        onCourse.atStep atStep
      refine .underWay ⟨follows.target, follows.pending, follows.block, fun other held => ?_,
        untouched⟩
      cases held
      obtain rfl := follows.eq_left found
      rw [taken, Course.left, untouched]
      rfl
  | @persisted id atStep =>
      obtain ⟨course, rfl, rfl, follows, (untouched : course.imprint = .untouched)⟩ :=
        onCourse.atStep atStep
      exact .underWay { follows with suits := untouched }
  | foundDirty atStep =>
      obtain ⟨course, rfl, rfl, follows, _⟩ := onCourse.atStep atStep
      exact .underWay { follows with }
  | @copied id bytes block atStep clean found =>
      obtain ⟨course, rfl, rfl, follows, (untouched : course.imprint = .untouched)⟩ :=
        onCourse.atStep atStep
      have original := follows.eq_left found
      rw [Course.left, untouched] at original
      subst original
      exact .underWay ⟨follows.target, rfl, BlockStore.get?_set_same _ _ _, follows.snapshot, rfl⟩
  | @verified id block atStep found intact =>
      obtain ⟨course, rfl, rfl, follows, (copied : course.imprint = .copied)⟩ :=
        onCourse.atStep atStep
      have written := follows.eq_left found
      rw [Course.left, copied] at written
      subst written
      exact .underWay ⟨follows.target, follows.pending, BlockStore.get?_set_same _ _ _,
        follows.snapshot, trivial⟩
  | @mismatched id block atStep found damaged =>
      -- nothing but the memory can damage a copy before it is verified
      obtain ⟨course, rfl, rfl, follows, (copied : course.imprint = .copied)⟩ :=
        onCourse.atStep atStep
      have written := follows.eq_left found
      rw [Course.left, copied] at written
      rw [written, Block.isIntact_commit] at damaged
      contradiction
  | powerLost aftermath => exact onCourse.losePower aftermath
  | lossRefused =>
      cases onCourse with
      | idle targetless => exact .idle targetless
      | underWay follows => exact .underWay { follows with }
  | cycleReset => exact .idle rfl
  | injected | recovered | versionWritten => contradiction
  | cycleRefused =>
      rw [followCourse_cycleRefused]
      exact onCourse
  | memoryRefused =>
      rw [followCourse_memoryRefused]
      exact onCourse

theorem onCourse_after {memory : Memory} {operations : List Operation}
    (ofCycle : ∀ operation ∈ operations, operation.isOfCycle = true) :
    ((ofMemory memory).after operations).OnCourse
      ((ofMemory memory).observe followCourse none operations) :=
  observe_after (fun known device => device.OnCourse known)
    (fun operation => operation.isOfCycle = true) Step.onCourse ofCycle (.idle rfl)

/-- What the cycle has done has no part in these assessments, which leave the blocks alone. -/
theorem assessment_of_lost {point : LossPoint} {report : LossReport}
    (lost : device.perform (.losePower point) = (next, .powerLost report)) :
    (report.assessment = .unaffected ↔ point = .beforePhase1) ∧
      (report.assessment = .durable ↔ point = .afterPhase2) ∧
      (report.assessment = .unaffected ∨ report.assessment = .durable → next.store = device.store) := by
  cases step_iff.mpr lost with
  | powerLost aftermath => cases aftermath <;> simp [WriteCycle.Consequence.report] <;> rfl

/-- As long as only a cycle works on the blocks, a power loss is assessed by its point alone. That
nothing had been written is true of an untouched block; of others it is so if the original was such
that writing or restoring it changed nothing. That the write had landed is true once the data have
been copied, and neither torn nor taken back since; of other blocks it is so if they had the data
before, or if what a tear has cut off looks like erased bytes. -/
theorem assessment_follows_point {memory : Memory} {operations : List Operation} {id : BlockId}
    {point : LossPoint} {final : Device} {report : LossReport}
    (ofCycle : ∀ operation ∈ operations, operation.isOfCycle = true)
    (lost : ((ofMemory memory).after operations).perform (.losePower point) =
      (final, .powerLost report))
    (started : ((ofMemory memory).after operations).cycle.target = some id) :
    (report.assessment = .unaffected ↔ point = .beforePhase1) ∧
    (report.assessment = .durable ↔ point = .afterPhase2) ∧
    ∃ course, (ofMemory memory).observe followCourse none operations = some course ∧
      course.block = id ∧
      (report.assessment = .unaffected → final.store.get? id = some course.left ∧
        course.KeepsOriginal course.left) ∧
      (report.assessment = .durable → final.store.get? id = some course.left ∧
        course.HoldsData course.left) := by
  obtain ⟨unaffected, durable, alone⟩ := assessment_of_lost lost
  obtain ⟨course, told, rfl, follows⟩ := (onCourse_after ofCycle).follows started
  refine ⟨unaffected, durable, course, told, rfl, fun told => ⟨?_, course.keepsOriginal_left⟩,
    fun told => ⟨?_, course.holdsData_left⟩⟩
  · rw [alone (.inl told)]
    exact follows.block
  · rw [alone (.inr told)]
    exact follows.block

/-- Once a copy has landed, power is lost before the first phase; and with nothing copied, power is
lost after the second phase. -/
theorem power_loss_assessed_against_block :
    let first : List Operation := [.start ⟨0⟩ [1, 2, 3], .takeSnapshot ⟨0⟩, .persist ⟨0⟩]
    let both : List Operation := first ++ [.copy ⟨0⟩ [1, 2, 3] false]
    let original := Block.native ⟨0⟩ (BlockStore.pattern 0x11 0x22 0x33 0x44)
    (∃ final report block, ((ofMemory Memory.seeded).after both).perform (.losePower .beforePhase1) =
        (final, .powerLost report) ∧ report.assessment = .unaffected ∧
      final.store.get? ⟨0⟩ = some block ∧ block ≠ original) ∧
    ∃ final report block, ((ofMemory Memory.seeded).after first).perform (.losePower .afterPhase2) =
        (final, .powerLost report) ∧ report.assessment = .durable ∧
      final.store.get? ⟨0⟩ = some block ∧ block.bytes ≠ [1, 2, 3] := by
  intro first both original
  constructor
  · have lost : ((ofMemory Memory.seeded).after both).perform (.losePower .beforePhase1) = _ :=
      (Step.powerLost .unaffected).perform_eq
    have written : (ofMemory Memory.seeded).observe followCourse none both =
        some ⟨⟨0⟩, original, [1, 2, 3], .copied⟩ := by decide +kernel
    have started : ((ofMemory Memory.seeded).after both).cycle.target = some ⟨0⟩ := by
      decide +kernel
    obtain ⟨_, _, course, told, _, unaffected, _⟩ :=
      assessment_follows_point (by decide) lost started
    cases told.symm.trans written
    obtain ⟨found, kept⟩ := unaffected rfl
    refine ⟨_, _, _, lost, rfl, found, fun same => ?_⟩
    exact absurd (kept.mp same).2.1 (by decide)
  · have lost : ((ofMemory Memory.seeded).after first).perform (.losePower .afterPhase2) = _ :=
      (Step.powerLost .durable).perform_eq
    have untouched : (ofMemory Memory.seeded).observe followCourse none first =
        some ⟨⟨0⟩, original, [1, 2, 3], .untouched⟩ := by decide +kernel
    have started : ((ofMemory Memory.seeded).after first).cycle.target = some ⟨0⟩ := by
      decide +kernel
    obtain ⟨_, _, course, told, _, _, durable⟩ :=
      assessment_follows_point (by decide) lost started
    cases told.symm.trans untouched
    obtain ⟨found, holds⟩ := durable rfl
    refine ⟨_, _, _, lost, rfl, found, fun same => ?_⟩
    exact absurd (holds.mp same) (by decide)

end Device

end NvMemory
