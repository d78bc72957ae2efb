/-!
Finite maps keyed by 32-bit words, listed in ascending order of key.

Two views describe a map: `entries` fixes the order in which it is listed, and
`get?` says what each key holds. Every operation has one equation through `get?`.
-/

namespace NvMemory

structure WordMap (β : Type) where
  entries : List (UInt32 × β)
  ascending : entries.Pairwise fun first second => first.1 < second.1
deriving Repr, DecidableEq

namespace WordMap

variable {β : Type}

/-- The value that an ascending list holds under `key`. -/
def find (key : UInt32) : List (UInt32 × β) → Option β
  | [] => none
  | (stored, value) :: rest => if stored = key then some value else find key rest

/-- Puts `value` in order, replacing what the list holds under `key`. -/
def place (key : UInt32) (value : β) : List (UInt32 × β) → List (UInt32 × β)
  | [] => [(key, value)]
  | (stored, old) :: rest =>
      if key < stored then (key, value) :: (stored, old) :: rest
      else if stored = key then (key, value) :: rest
      else (stored, old) :: place key value rest

theorem mem_place {key : UInt32} {value : β} {entry : UInt32 × β}
    {entries : List (UInt32 × β)} (member : entry ∈ place key value entries) :
    entry = (key, value) ∨ entry ∈ entries := by
  induction entries with
  | nil => simpa [place] using member
  | cons head rest ih =>
      unfold place at member
      split at member
      · simpa using member
      · split at member
        · rcases List.mem_cons.mp member with equal | found
          · exact .inl equal
          · exact .inr (List.mem_cons_of_mem _ found)
        · rcases List.mem_cons.mp member with equal | found
          · exact .inr (equal ▸ List.mem_cons_self)
          · exact (ih found).imp_right (List.mem_cons_of_mem _)

theorem place_ascending {entries : List (UInt32 × β)} (key : UInt32) (value : β)
    (ascending : entries.Pairwise fun first second => first.1 < second.1) :
    (place key value entries).Pairwise fun first second => first.1 < second.1 := by
  induction entries with
  | nil => simp [place]
  | cons head rest ih =>
      obtain ⟨below, restAscending⟩ := List.pairwise_cons.mp ascending
      unfold place
      split
      · rename_i before
        refine List.pairwise_cons.mpr ⟨fun entry member => ?_, ascending⟩
        rcases List.mem_cons.mp member with rfl | found
        · exact before
        · exact UInt32.lt_trans before (below entry found)
      · split
        · rename_i same
          exact List.pairwise_cons.mpr
            ⟨fun entry member => same ▸ below entry member, restAscending⟩
        · rename_i notBefore different
          refine List.pairwise_cons.mpr ⟨fun entry member => ?_, ih restAscending⟩
          rcases mem_place member with rfl | found
          · exact UInt32.lt_of_le_of_ne (UInt32.not_lt.mp notBefore) different
          · exact below entry found

theorem find_place_same (key : UInt32) (value : β) (entries : List (UInt32 × β)) :
    find key (place key value entries) = some value := by
  induction entries with
  | nil => simp [place, find]
  | cons head rest ih =>
      unfold place
      split
      · simp [find]
      · split
        · simp [find]
        · rename_i different
          simp [find, different, ih]

theorem find_place_other {key other : UInt32} (different : key ≠ other) (value : β)
    (entries : List (UInt32 × β)) : find other (place key value entries) = find other entries := by
  induction entries with
  | nil => simp [place, find, different]
  | cons head rest ih =>
      unfold place
      split
      · simp [find, different]
      · split
        · rename_i same
          simp [find, same, different]
        · simp [find, ih]

def empty : WordMap β := ⟨[], List.Pairwise.nil⟩

instance : Inhabited (WordMap β) := ⟨empty⟩

def get? (map : WordMap β) (key : UInt32) : Option β :=
  find key map.entries

def contains (map : WordMap β) (key : UInt32) : Bool :=
  (map.get? key).isSome

def insert (map : WordMap β) (key : UInt32) (value : β) : WordMap β :=
  ⟨place key value map.entries, place_ascending key value map.ascending⟩

def ofList (entries : List (UInt32 × β)) : WordMap β :=
  entries.foldl (fun map entry => map.insert entry.1 entry.2) empty

def values (map : WordMap β) : List β :=
  map.entries.map (·.2)

def size (map : WordMap β) : Nat :=
  map.entries.length

def isEmpty (map : WordMap β) : Bool :=
  map.entries.isEmpty

def first? (map : WordMap β) : Option (UInt32 × β) :=
  map.entries.head?

def last? (map : WordMap β) : Option (UInt32 × β) :=
  map.entries.getLast?

/-- Drops the entry with the least key. -/
def dropFirst (map : WordMap β) : WordMap β :=
  ⟨map.entries.drop 1, map.ascending.sublist (List.drop_sublist 1 map.entries)⟩

/-- The entry with the greatest key among those whose value satisfies `accepts`. -/
def findLast? (map : WordMap β) (accepts : β → Bool) : Option (UInt32 × β) :=
  map.entries.reverse.find? fun entry => accepts entry.2

/-- The map that holds `value key` under each key from zero up to `count`, `count` excluded. -/
def tabulate (count : UInt32) (value : UInt32 → β) : WordMap β where
  entries := (List.range count.toNat).map fun key => (UInt32.ofNat key, value (UInt32.ofNat key))
  ascending := by
    refine List.pairwise_map.mpr
      (List.pairwise_lt_range.imp_of_mem fun {first second} _ member before => ?_)
    have bounded : second < 2 ^ 32 := Nat.lt_trans (List.mem_range.mp member) count.toNat_lt
    simp only [UInt32.lt_iff_toNat_lt, UInt32.toNat_ofNat']
    rw [Nat.mod_eq_of_lt bounded, Nat.mod_eq_of_lt (Nat.lt_trans before bounded)]
    exact before

@[simp] theorem get?_insert_same (map : WordMap β) (key : UInt32) (value : β) :
    (map.insert key value).get? key = some value :=
  find_place_same key value map.entries

theorem get?_insert_other {key other : UInt32} (map : WordMap β) (different : key ≠ other)
    (value : β) : (map.insert key value).get? other = map.get? other :=
  find_place_other different value map.entries

theorem get?_insert (map : WordMap β) (key other : UInt32) (value : β) :
    (map.insert key value).get? other = if key = other then some value else map.get? other := by
  split
  · rename_i same
    exact same ▸ map.get?_insert_same key value
  · rename_i different
    exact map.get?_insert_other different value

end WordMap

end NvMemory
