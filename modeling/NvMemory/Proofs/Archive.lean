import NvMemory.Block.Archive

/-!
What an archive holds under each number, and which of its versions a rollback goes back to.

`WordMap.findLast?` walks the entries backwards. Since they ascend, the entry that it stops at
is the greatest of those that it is looking for (`WordMap.findLast?_eq_some_iff`).
-/

namespace NvMemory

namespace WordMap

variable {β : Type} {map : WordMap β} {accepts : β → Bool} {key : UInt32} {value : β}

theorem find_eq_some_iff_mem {entries : List (UInt32 × β)}
    (ascending : entries.Pairwise fun first second => first.1 < second.1) :
    find key entries = some value ↔ (key, value) ∈ entries := by
  induction entries with
  | nil => simp [find]
  | cons head rest ih =>
      obtain ⟨stored, first⟩ := head
      obtain ⟨below, restAscending⟩ := List.pairwise_cons.mp ascending
      by_cases same : stored = key
      · subst same
        have absent : (stored, value) ∉ rest := by
          intro member
          exact UInt32.lt_irrefl stored (below (stored, value) member)
        simp [find, absent, eq_comm]
      · have elsewhere : key ≠ stored := fun equal => same equal.symm
        simp [find, same, elsewhere, ih restAscending]

theorem mem_entries_iff : (key, value) ∈ map.entries ↔ map.get? key = some value :=
  (find_eq_some_iff_mem map.ascending).symm

theorem place_self {entries : List (UInt32 × β)}
    (ascending : entries.Pairwise fun first second => first.1 < second.1)
    (held : find key entries = some value) : place key value entries = entries := by
  induction entries with
  | nil => simp [find] at held
  | cons head rest ih =>
      obtain ⟨stored, first⟩ := head
      obtain ⟨below, restAscending⟩ := List.pairwise_cons.mp ascending
      by_cases same : stored = key
      · simp_all [find, place, UInt32.lt_irrefl]
      · have later : find key rest = some value := by simpa [find, same] using held
        have after : ¬ key < stored := by
          have member := (find_eq_some_iff_mem restAscending).mp later
          exact UInt32.not_lt.mpr (UInt32.le_of_lt (below _ member))
        simp [place, after, same, ih restAscending later]

theorem insert_self (held : map.get? key = some value) :
    map.insert key value = map := by
  obtain ⟨entries, ascending⟩ := map
  simp only [insert, place_self ascending held]

theorem findLast?_eq_none_iff :
    map.findLast? accepts = none ↔
      ∀ key value, map.get? key = some value → accepts value = false := by
  simp only [findLast?, List.find?_eq_none, List.mem_reverse, Prod.forall, mem_entries_iff,
    Bool.not_eq_true]

/-- What the backward walk stops at is accepted, and nothing beyond it is. -/
theorem findLast?_greatest (found : map.findLast? accepts = some (key, value)) :
    map.get? key = some value ∧ accepts value = true ∧
      ∀ other held, map.get? other = some held → accepts held = true → other ≤ key := by
  obtain ⟨accepted, after, before, split, refused⟩ := List.find?_eq_some_iff_append.mp found
  have descending : (after ++ (key, value) :: before).Pairwise
      fun first second => second.1 < first.1 := by
    rw [← split]
    exact List.pairwise_reverse.mpr map.ascending
  have below := (List.pairwise_cons.mp (List.pairwise_append.mp descending).2.1).1
  have entries (entry : UInt32 × β) :
      entry ∈ map.entries ↔ entry ∈ after ++ (key, value) :: before := by
    rw [← split, List.mem_reverse]
  refine ⟨mem_entries_iff.mp ((entries _).mpr (by simp)), accepted, ?_⟩
  intro other held stored good
  have member := (entries _).mp (mem_entries_iff.mpr stored)
  rcases List.mem_append.mp member with later | here
  · have bad := refused _ later
    simp only [good, Bool.not_true, Bool.false_eq_true] at bad
  · rcases List.mem_cons.mp here with same | earlier
    · cases same
      exact UInt32.le_refl _
    · exact UInt32.le_of_lt (below _ earlier)

theorem findLast?_eq_some_iff :
    map.findLast? accepts = some (key, value) ↔
      map.get? key = some value ∧ accepts value = true ∧
      ∀ other held, map.get? other = some held → accepts held = true → other ≤ key := by
  constructor
  · exact findLast?_greatest
  · rintro ⟨stored, accepted, greatest⟩
    cases result : map.findLast? accepts with
    | none =>
        have refused := findLast?_eq_none_iff.mp result key value stored
        rw [accepted] at refused
        contradiction
    | some found =>
        obtain ⟨last, held⟩ := found
        obtain ⟨present, good, above⟩ := findLast?_greatest result
        have same : last = key :=
          UInt32.le_antisymm (greatest last held present good) (above key value stored accepted)
        subst same
        rw [present] at stored
        rw [Option.some.inj stored]

end WordMap

namespace Archive

variable {archive : Archive} {version : UInt32} {record content : Sealed}

/-- The version is intact, and no version with a greater number is. -/
structure NewestIntact (archive : Archive) (version : UInt32) (record : Sealed) : Prop where
  archived : archive.records.get? version = some record
  intact : record.isIntact = true
  greatest : ∀ other held, archive.records.get? other = some held → held.isIntact = true →
    other ≤ version

theorem newestIntact?_eq_some_iff :
    archive.newestIntact? = some (version, record) ↔ archive.NewestIntact version record := by
  constructor
  · intro found
    obtain ⟨archived, intact, greatest⟩ := WordMap.findLast?_greatest found
    exact ⟨archived, intact, greatest⟩
  · intro newest
    exact WordMap.findLast?_eq_some_iff.mpr ⟨newest.archived, newest.intact, newest.greatest⟩

theorem newestIntact?_eq_none_iff :
    archive.newestIntact? = none ↔
      ∀ version record, archive.records.get? version = some record → record.isIntact = false :=
  WordMap.findLast?_eq_none_iff

theorem get?_supersede (archive : Archive) (content : Sealed) (version : UInt32) :
    (archive.supersede content).records.get? version =
      if archive.version = version then some content else archive.records.get? version :=
  archive.records.get?_insert _ _ _

/-- Intact content that is superseded becomes the newest version to go back to, unless the archive
had intact content under a later number. -/
theorem newestIntact_supersede (intact : content.isIntact = true)
    (bounded : ∀ version record, archive.records.get? version = some record →
      record.isIntact = true → version ≤ archive.version) :
    (archive.supersede content).NewestIntact archive.version content := by
  refine ⟨?_, intact, ?_⟩
  · rw [get?_supersede, if_pos rfl]
  · intro other held stored good
    rw [get?_supersede] at stored
    split at stored
    · rename_i same
      rw [same]
      exact UInt32.le_refl _
    · exact bounded other held stored good

end Archive

end NvMemory
