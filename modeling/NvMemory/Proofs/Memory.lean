import NvMemory.Memory
import NvMemory.Proofs.WriteCycle

/-!
When the operations of a memory are accepted, and what they give back then.
-/

namespace NvMemory.Memory

variable {memory : Memory} {id : BlockId}

theorem lookup_eq_ok_iff {block : Block} :
    memory.lookup id = .ok block ↔ memory.store.get? id = some block := by
  unfold lookup
  cases memory.store.get? id <;> simp

def faultReport (id : BlockId) (fault : Fault) (block damaged : Block) (damage : Damage) :
    FaultReport where
  block := id
  kind := block.kind
  fault := fault
  valid := damaged.valid
  damage := damage

theorem inject_eq_ok_iff {fault : Fault} {result : Memory × FaultReport} :
    memory.inject id fault = .ok result ↔ ∃ block damaged damage,
      memory.store.get? id = some block ∧ block.suffer? fault = some (damaged, damage) ∧
      ((memory.set id damaged).recordFault (faultReport id fault block damaged damage),
        faultReport id fault block damaged damage) = result := by
  simp only [inject, bind_eq_ok_iff, lookup_eq_ok_iff]
  constructor
  · rintro ⟨block, found, accepted⟩
    cases suffers : block.suffer? fault with
    | none => simp [suffers] at accepted
    | some outcome =>
        obtain ⟨damaged, damage⟩ := outcome
        simp only [suffers, pure, Except.pure, Except.ok.injEq] at accepted
        exact ⟨block, damaged, damage, found, suffers, accepted⟩
  · rintro ⟨block, damaged, damage, found, suffers, rfl⟩
    exact ⟨block, found, by simp only [suffers]; rfl⟩

theorem recover_eq_ok_iff {result : Memory × RepairReport} :
    memory.recover id = .ok result ↔ ∃ block, memory.store.get? id = some block ∧
      ((memory.set id block.repair.1).announce (repairEvent id block.repair.2),
        { block := block.id, kind := block.kind,
          repair := block.repair.2 : RepairReport }) = result := by
  simp only [recover, bind_eq_ok_iff, lookup_eq_ok_iff, pure, Except.pure, Except.ok.injEq]

theorem writeVersion_eq_ok_iff {bytes : List UInt8} {result : Memory × VersionReport} :
    memory.writeVersion id bytes = .ok result ↔ ∃ block step,
      memory.store.get? id = some block ∧ block.versionStep? = some step ∧
      ((memory.set id (block.commit bytes)).announce (versionEvent id step),
        { block := id, step := step : VersionReport }) = result := by
  simp only [writeVersion, bind_eq_ok_iff, lookup_eq_ok_iff]
  constructor
  · rintro ⟨block, found, accepted⟩
    cases steps : block.versionStep? with
    | none => simp [steps] at accepted
    | some step =>
        simp only [steps, pure, Except.pure, Except.ok.injEq] at accepted
        exact ⟨block, step, found, steps, accepted⟩
  · rintro ⟨block, step, found, steps, rfl⟩
    exact ⟨block, found, by simp only [steps]; rfl⟩

end NvMemory.Memory
