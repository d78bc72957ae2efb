import Mathlib.Data.List.DropRight
import NvMemory.Journal

/-!
What a journal tells of everything that was recorded in it.

The trace tells of every entry and the window shows the newest ones. Both are functions of the list of
the entries, so that an entry is announced whether or not another one has to give way to it.
-/

namespace NvMemory

namespace Window

variable {α : Type}

theorem rtake_rtake (items : List α) (first second : Nat) :
    (items.rtake first).rtake second = items.rtake (min second first) := by
  simp only [List.rtake, List.length_drop, List.drop_drop]
  congr 1
  omega

theorem rtake_min_length (items : List α) (count : Nat) :
    items.rtake (min items.length count) = items.rtake count := by
  simp only [List.rtake]
  congr 1
  omega

theorem getLast?_rtake (items : List α) {count : Nat} (some : 0 < count) :
    (items.rtake count).getLast? = items.getLast? := by
  cases items with
  | nil => simp
  | cons first rest =>
      have kept : ¬ (first :: rest).length ≤ (first :: rest).length - count := by
        simp only [List.length_cons]
        omega
      rw [List.rtake, List.getLast?_drop, if_neg kept]

theorem sublist_push (window : Window α) (item : α) :
    (window.push item).items.Sublist (window.items ++ [item]) := by
  unfold push
  split
  · exact (List.drop_sublist _ _).append_right _
  · exact List.Sublist.refl _

variable (requested : Nat) (items : List α)

theorem capacity_pushAll (window : Window α) :
    (window.pushAll items).capacity = window.capacity := by
  induction items generalizing window with
  | nil => rfl
  | cons item rest ih => exact (ih (window.push item)).trans (window.capacity_push item)

theorem items_pushAll_eq_rtake :
    ((ofCapacity requested).pushAll items).items = items.rtake (max requested 1) :=
  items_pushAll_ofCapacity requested items

theorem recent_pushAll (count : Nat) :
    ((ofCapacity requested).pushAll items).recent count =
      items.rtake (min count (max requested 1)) := by
  rw [← rtake_rtake, ← items_pushAll_eq_rtake]
  rfl

theorem last?_pushAll : ((ofCapacity requested).pushAll items).last? = items.getLast? := by
  rw [last?, items_pushAll_eq_rtake]
  apply getLast?_rtake
  omega

end Window

namespace Journal

def recordAll (journal : Journal) (entries : List Entry) : Journal :=
  entries.foldl record journal

theorem window_recordAll (journal : Journal) (entries : List Entry) :
    (journal.recordAll entries).window = journal.window.pushAll entries := by
  induction entries generalizing journal with
  | nil => rfl
  | cons entry rest ih => exact ih (journal.record entry)

theorem trace_recordAll (journal : Journal) (entries : List Entry) :
    (journal.recordAll entries).trace =
      journal.trace ++ entries.map (·.announced journal.component) := by
  induction entries generalizing journal with
  | nil => simp [recordAll]
  | cons entry rest ih =>
      change ((journal.record entry).recordAll rest).trace = _
      simp [ih, record]

/-- The entries that have given way to newer ones are no longer counted, whatever their level. -/
theorem countAtLeast_recordAll (component : String) (requested : Nat) (entries : List Entry)
    (level : Level) :
    ((ofCapacity component requested).recordAll entries).countAtLeast level =
      (entries.rtake (max requested 1)).countP fun entry => level.rank ≤ entry.level.rank := by
  rw [countAtLeast, Journal.entries, window_recordAll]
  exact congrArg _ (Window.items_pushAll_eq_rtake requested entries)

theorem countAtLeast_antitone (journal : Journal) {lower higher : Level}
    (above : lower.rank ≤ higher.rank) :
    journal.countAtLeast higher ≤ journal.countAtLeast lower := by
  apply List.countP_mono_left
  intro entry _ counted
  simp only [decide_eq_true_eq] at counted ⊢
  omega

theorem countAtLeast_debug (journal : Journal) : journal.countAtLeast .debug = journal.size :=
  List.countP_eq_length.mpr fun entry _ => decide_eq_true (Nat.zero_le entry.level.rank)

/-- A journal of any size, also one that was asked for without any room, announces every entry once and
in order, and shows as many of the newest ones as it has room for. -/
theorem journal_shows_newest (component : String) (requested : Nat) (entries : List Entry) :
    let journal := (ofCapacity component requested).recordAll entries
    let kept := min entries.length (max requested 1)
    journal.capacity = max requested 1 ∧
      journal.trace = (entries.map fun entry =>
        { level := entry.level
          message := entry.message
          fields := [("component", component), ("t", toString entry.time),
            ("fields", " ".intercalate
              (entry.fields.map fun (key, value) => key ++ "=" ++ value))] }) ∧
      journal.entries = entries.rtake kept ∧
      (∀ count, journal.recent count = entries.rtake (min count kept)) ∧
      journal.last? = entries.getLast? := by
  intro journal kept
  have window : journal.window = (Window.ofCapacity requested).pushAll entries :=
    window_recordAll _ entries
  refine ⟨?_, ?_, ?_, fun count => ?_, ?_⟩
  · rw [capacity, window, Window.capacity_pushAll]
    rfl
  · exact trace_recordAll _ entries
  · rw [Journal.entries, window, Window.items_pushAll_eq_rtake, Window.rtake_min_length]
  · rw [recent, window, Window.recent_pushAll, ← Window.rtake_rtake, ← Window.rtake_rtake,
      Window.rtake_min_length]
  · rw [last?, window, Window.last?_pushAll]

end Journal

end NvMemory
