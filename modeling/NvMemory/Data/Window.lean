/-!
A window over a growing sequence that keeps only the newest items.

The list `items` is the semantic model, oldest item first. Pushing onto a full
window drops the oldest item, so a window that started empty always shows the
end of everything pushed onto it.
-/

namespace NvMemory

structure Window (α : Type) where
  capacity : Nat
  items : List α
deriving Repr, DecidableEq

namespace Window

variable {α : Type}

/-- An empty window. A window has room for at least one item. -/
def ofCapacity (requested : Nat) : Window α :=
  { capacity := max requested 1, items := [] }

def size (window : Window α) : Nat :=
  window.items.length

def push (window : Window α) (item : α) : Window α :=
  if window.size = window.capacity then
    { window with items := window.items.drop 1 ++ [item] }
  else
    { window with items := window.items ++ [item] }

def pushAll (window : Window α) (items : List α) : Window α :=
  items.foldl push window

/-- The newest `count` items, oldest first. -/
def recent (window : Window α) (count : Nat) : List α :=
  window.items.drop (window.size - count)

def last? (window : Window α) : Option α :=
  window.items.getLast?

structure WellFormed (window : Window α) : Prop where
  capacity_pos : 0 < window.capacity
  size_le : window.size ≤ window.capacity

theorem wellFormed_ofCapacity (requested : Nat) :
    (ofCapacity requested : Window α).WellFormed :=
  ⟨by simp only [ofCapacity]; omega, by simp [ofCapacity, size]⟩

@[simp] theorem capacity_push (window : Window α) (item : α) :
    (window.push item).capacity = window.capacity := by
  unfold push; split <;> rfl

theorem WellFormed.push {window : Window α} (wellFormed : window.WellFormed) (item : α) :
    (window.push item).WellFormed := by
  obtain ⟨positive, bounded⟩ := wellFormed
  refine ⟨by simpa using positive, ?_⟩
  unfold Window.push
  split <;> simp_all only [size, List.length_append, List.length_drop, List.length_cons,
    List.length_nil] <;> omega

/-- Whether or not the window was full, a push shows the end of the sequence. -/
theorem WellFormed.items_push {window : Window α} (wellFormed : window.WellFormed) (item : α) :
    (window.push item).items =
      (window.items ++ [item]).drop (window.size + 1 - window.capacity) := by
  obtain ⟨positive, bounded⟩ := wellFormed
  unfold Window.push
  split
  · rename_i full
    have one : window.size + 1 - window.capacity = 1 := by omega
    have nonempty : 1 ≤ window.items.length := by
      simp only [size] at full; omega
    simp only [one, List.drop_append_of_le_length nonempty]
  · rename_i roomy
    have zero : window.size + 1 - window.capacity = 0 := by omega
    simp only [zero, List.drop_zero]

theorem pushAll_append (window : Window α) (first second : List α) :
    window.pushAll (first ++ second) = (window.pushAll first).pushAll second :=
  List.foldl_append

theorem WellFormed.items_pushAll {window : Window α} (wellFormed : window.WellFormed)
    (items : List α) :
    (window.pushAll items).items =
      (window.items ++ items).drop (window.size + items.length - window.capacity) := by
  induction items generalizing window with
  | nil =>
      rw [List.append_nil, List.length_nil, Nat.add_zero, Nat.sub_eq_zero_of_le wellFormed.size_le]
      rfl
  | cons item rest ih =>
      have pushed := wellFormed.items_push item
      have bounded := wellFormed.size_le
      have size : (window.push item).size = min (window.size + 1) window.capacity := by
        rw [size, pushed, List.length_drop, List.length_append, List.length_singleton, ← size]
        omega
      have kept : window.size + 1 - window.capacity ≤ (window.items ++ [item]).length := by
        rw [List.length_append]
        exact Nat.sub_le _ _
      -- what this push drops and what the others drop afterwards
      have dropped : window.size + 1 - window.capacity +
          (min (window.size + 1) window.capacity + rest.length - window.capacity) =
            window.size + (rest.length + 1) - window.capacity := by
        omega
      calc ((window.push item).pushAll rest).items
          = ((window.push item).items ++ rest).drop
              ((window.push item).size + rest.length - window.capacity) := by
            rw [ih (wellFormed.push item), capacity_push]
        _ = (window.items ++ item :: rest).drop
              (window.size + (rest.length + 1) - window.capacity) := by
            rw [size, pushed, ← List.drop_append_of_le_length kept, List.drop_drop, dropped,
              List.append_assoc, List.singleton_append]

/-- A window that started empty shows the end of everything that was pushed onto it. -/
theorem items_pushAll_ofCapacity (requested : Nat) (items : List α) :
    ((ofCapacity requested).pushAll items).items =
      items.drop (items.length - max requested 1) := by
  rw [(wellFormed_ofCapacity requested).items_pushAll]
  simp [ofCapacity, size]

end Window

end NvMemory
