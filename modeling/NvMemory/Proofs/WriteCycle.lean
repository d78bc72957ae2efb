import NvMemory.WriteCycle

/-!
When the operations of a write cycle are accepted, and what they give back then.

An operation is accepted exactly when the cycle stands at the step that the operation belongs
to (`WriteCycle.AtStep`) and the store has the block. What a power loss leads to is listed in
`WriteCycle.Aftermath`, one rule for each assessment.
-/

namespace NvMemory

/-- Two operations in a row are accepted exactly when each of them is. -/
theorem bind_eq_ok_iff {ε α β : Type} {first : Except ε α} {next : α → Except ε β} {result : β} :
    (first >>= next) = .ok result ↔ ∃ value, first = .ok value ∧ next value = .ok result := by
  cases first with
  | error reason => simp [bind, Except.bind]
  | ok value => simp [bind, Except.bind]

/-- A refusal that neither of two operations gives is not given by them in a row. -/
theorem bind_ne_error {ε α β : Type} {first : Except ε α} {next : α → Except ε β} {reason : ε}
    (passes : first ≠ .error reason) (goesOn : ∀ value, next value ≠ .error reason) :
    first >>= next ≠ .error reason := by
  cases first with
  | error other =>
      intro refused
      cases refused
      exact passes rfl
  | ok value => exact goesOn value

namespace WriteCycle

variable {cycle : WriteCycle} {store : BlockStore} {id : BlockId} {bytes : List UInt8}

/-- The cycle is in `phase` and was started for block `id`. -/
structure AtStep (cycle : WriteCycle) (phase : Phase) (id : BlockId) : Prop where
  phase : cycle.phase = phase
  target : cycle.target = some id

theorem checkStep_eq_ok_iff {phase : Phase} {done : Unit} :
    cycle.checkStep phase id = .ok done ↔ cycle.AtStep phase id := by
  constructor
  · intro accepted
    unfold checkStep at accepted
    split at accepted
    · contradiction
    · rename_i samePhase
      cases target : cycle.target with
      | none => simp [target] at accepted
      | some other =>
          simp only [target] at accepted
          split at accepted
          · contradiction
          · rename_i sameBlock
            simp only [ne_eq, Decidable.not_not] at samePhase sameBlock
            exact ⟨samePhase, by rw [target, sameBlock]⟩
  · rintro ⟨samePhase, target⟩
    simp [checkStep, samePhase, target]

theorem checkClean_eq_ok_iff {done : Unit} :
    cycle.checkClean = .ok done ↔ cycle.dirty = false := by
  unfold checkClean
  cases cycle.dirty <;> simp

theorem lookup_eq_ok_iff {block : Block} :
    lookup store id = .ok block ↔ store.get? id = some block := by
  unfold lookup
  cases store.get? id <;> simp

theorem start_eq_ok_iff {result : WriteCycle × StartReport} :
    cycle.start store id bytes = .ok result ↔ ∃ block, store.get? id = some block ∧
      (cycle.started id bytes,
        { phase := .snapshot, block := id, bytes := bytes,
          time := cycle.clock.tick.now : StartReport }) = result := by
  simp only [start, bind_eq_ok_iff, lookup_eq_ok_iff, pure, Except.pure, Except.ok.injEq]
  rfl

theorem takeSnapshot_eq_ok_iff {result : WriteCycle × SnapshotReport} :
    cycle.takeSnapshot store id = .ok result ↔
      cycle.AtStep .snapshot id ∧ ∃ block, store.get? id = some block ∧
      (cycle.snapshotTaken id (Snapshot.ofBlock block cycle.clock.tick.now),
        { phase := .persist,
          snapshot := Snapshot.ofBlock block cycle.clock.tick.now : SnapshotReport }) = result := by
  simp only [takeSnapshot, bind_eq_ok_iff, checkStep_eq_ok_iff, lookup_eq_ok_iff, exists_and_left,
    exists_const, pure, Except.pure, Except.ok.injEq]

theorem persist_eq_ok_iff {result : WriteCycle × PersistReport} :
    cycle.persist id = .ok result ↔ cycle.AtStep .persist id ∧
      (cycle.persisted id, { phase := .copy : PersistReport }) = result := by
  simp only [persist, bind_eq_ok_iff, checkStep_eq_ok_iff, exists_and_left, exists_const, pure,
    Except.pure, Except.ok.injEq]

/-- What an accepted copy gives back. -/
def copyResult (cycle : WriteCycle) (store : BlockStore) (id : BlockId) (block : Block)
    (bytes : List UInt8) : (dirty : Bool) → WriteCycle × BlockStore × CopyReport
  | true => (cycle.foundDirty id, store, { phase := .copy, dirty := true })
  | false => (cycle.copied id block bytes, store.set id (block.commit bytes),
      { phase := .verify, dirty := false })

theorem copy_eq_ok_iff {dirty : Bool} {result : WriteCycle × BlockStore × CopyReport} :
    cycle.copy store id bytes dirty = .ok result ↔
      cycle.AtStep .copy id ∧ cycle.dirty = false ∧ ∃ block, store.get? id = some block ∧
      cycle.copyResult store id block bytes dirty = result := by
  simp only [copy, bind_eq_ok_iff, checkStep_eq_ok_iff, checkClean_eq_ok_iff, lookup_eq_ok_iff,
    exists_and_left, exists_const]
  refine and_congr_right fun atStep => ?_
  cases dirty <;> simp [copyResult, pure, Except.pure, atStep.phase]

/-- What an accepted verification gives back. -/
def verifyResult (cycle : WriteCycle) (store : BlockStore) (id : BlockId) (block : Block) :
    WriteCycle × BlockStore × VerifyReport :=
  if block.isIntact then
    (cycle.completed id block, store.set id block.refreshBackup,
      { phase := .completed, valid := true, checksum := block.checksum })
  else
    (cycle.failed id, store.set id block.invalidate,
      { phase := .failed, valid := false, checksum := block.checksum })

theorem verify_eq_ok_iff {result : WriteCycle × BlockStore × VerifyReport} :
    cycle.verify store id = .ok result ↔
      cycle.AtStep .verify id ∧ ∃ block, store.get? id = some block ∧
      cycle.verifyResult store id block = result := by
  simp only [verify, bind_eq_ok_iff, checkStep_eq_ok_iff, lookup_eq_ok_iff, exists_and_left,
    exists_const]
  refine and_congr_right fun _ => exists_congr fun block => and_congr_right fun _ => ?_
  unfold verifyResult
  split <;> simp [pure, Except.pure]

/-- What losing power leads to, for each of its assessments. -/
inductive Aftermath (cycle : WriteCycle) (store : BlockStore) : LossPoint → Consequence → Prop
  | unaffected : Aftermath cycle store .beforePhase1
      { phase := .idle, store := store, assessment := .unaffected, checksum := none }
  | restored {id : BlockId} {snapshot : Snapshot} {block : Block}
      (held : cycle.snapshot = some snapshot) (target : cycle.target = some id)
      (found : store.get? id = some block) : Aftermath cycle store .afterPhase1
      { phase := .completed, store := store.set id snapshot.restored,
        assessment := .restoredFromSnapshot, checksum := snapshot.knownChecksum? }
  | noSnapshot (missing : cycle.snapshot = none ∨ cycle.target = none) :
      Aftermath cycle store .afterPhase1
      { phase := .failed, store := store, assessment := .noSnapshot, checksum := none }
  | torn {id : BlockId} {block : Block} (target : cycle.target = some id)
      (found : store.get? id = some block) : Aftermath cycle store .duringPhase2
      { phase := .failed, store := store.set id (block.tear cycle.pending),
        assessment := .corrupted, checksum := none }
  | durable : Aftermath cycle store .afterPhase2
      { phase := .completed, store := store, assessment := .durable,
        checksum := (cycle.target.bind store.get?).map Block.checksum }

theorem consequence_eq_ok_iff {point : LossPoint} {consequence : Consequence} :
    cycle.consequence store point = .ok consequence ↔
      cycle.Aftermath store point consequence := by
  constructor
  · intro drawn
    cases point with
    | beforePhase1 => cases drawn; exact .unaffected
    | afterPhase1 =>
        cases held : cycle.snapshot with
        | none =>
            simp only [WriteCycle.consequence, restore, held, Except.ok.injEq] at drawn
            subst drawn
            exact .noSnapshot (.inl held)
        | some snapshot =>
            cases target : cycle.target with
            | none =>
                simp only [WriteCycle.consequence, restore, held, target,
                  Except.ok.injEq] at drawn
                subst drawn
                exact .noSnapshot (.inr target)
            | some id =>
                simp only [WriteCycle.consequence, restore, held, target, bind_eq_ok_iff,
                  lookup_eq_ok_iff, pure, Except.pure, Except.ok.injEq] at drawn
                obtain ⟨block, found, rfl⟩ := drawn
                exact .restored held target found
    | duringPhase2 =>
        cases target : cycle.target with
        | none => simp [WriteCycle.consequence, interrupt, target] at drawn
        | some id =>
            simp only [WriteCycle.consequence, interrupt, target, bind_eq_ok_iff,
              lookup_eq_ok_iff, pure, Except.pure, Except.ok.injEq] at drawn
            obtain ⟨block, found, rfl⟩ := drawn
            exact .torn target found
    | afterPhase2 => cases drawn; exact .durable
  · intro aftermath
    cases aftermath with
    | unaffected => rfl
    | restored held target found =>
        simp [WriteCycle.consequence, restore, held, target, lookup_eq_ok_iff.mpr found, bind,
          Except.bind, pure, Except.pure]
    | noSnapshot missing =>
        rcases missing with none | none <;> simp [WriteCycle.consequence, restore, none]
    | torn target found =>
        simp [WriteCycle.consequence, interrupt, target, lookup_eq_ok_iff.mpr found, bind,
          Except.bind, pure, Except.pure]
    | durable => rfl

/-- As long as the store has the block of the cycle, no power loss is refused. -/
theorem exists_aftermath {block : Block} (target : cycle.target = some id)
    (found : store.get? id = some block) (point : LossPoint) :
    ∃ consequence, cycle.Aftermath store point consequence := by
  cases point with
  | beforePhase1 => exact ⟨_, .unaffected⟩
  | afterPhase1 =>
      cases held : cycle.snapshot with
      | none => exact ⟨_, .noSnapshot (.inl held)⟩
      | some snapshot => exact ⟨_, .restored held target found⟩
  | duringPhase2 => exact ⟨_, .torn target found⟩
  | afterPhase2 => exact ⟨_, .durable⟩

end WriteCycle

end NvMemory
