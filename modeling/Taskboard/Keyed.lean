import Taskboard.Text.Basic

/-!
# Keyed entries

Lists of key and value in which no key occurs twice. A new key goes to the end; a value stored again
under a known key keeps the place of the key. The order of first insertion is therefore observable.
-/

namespace Taskboard

namespace Entries

/-- The value under a key. -/
def find? {α : Type} (key : Text) : List (Text × α) → Option α
  | [] => none
  | (k, v) :: rest => if k = key then some v else find? key rest

/-- Stores a value under a key: in place when the key is known, at the end otherwise. -/
def put {α : Type} (key : Text) (value : α) : List (Text × α) → List (Text × α)
  | [] => [(key, value)]
  | (k, v) :: rest => if k = key then (k, value) :: rest else (k, v) :: put key value rest

/-- Takes away the value under a key. -/
def erase {α : Type} (key : Text) (entries : List (Text × α)) : List (Text × α) :=
  entries.filter fun entry => entry.1 ≠ key

theorem keys_put {α : Type} (key : Text) (value : α) (entries : List (Text × α)) :
    (put key value entries).map Prod.fst =
      if key ∈ entries.map Prod.fst then entries.map Prod.fst
      else entries.map Prod.fst ++ [key] := by
  induction entries with
  | nil => simp [put]
  | cons entry rest ih =>
    obtain ⟨k, v⟩ := entry
    by_cases hk : k = key
    · simp [put, hk]
    · have hk' : ¬ key = k := fun e => hk e.symm
      simp only [put, hk, if_false, List.map_cons, ih, List.mem_cons, hk', false_or]
      split <;> simp

theorem put_of_notMem {α : Type} {key : Text} (value : α) {entries : List (Text × α)}
    (h : key ∉ entries.map Prod.fst) : put key value entries = entries ++ [(key, value)] := by
  induction entries with
  | nil => rfl
  | cons entry rest ih =>
    obtain ⟨k, v⟩ := entry
    simp only [List.map_cons, List.mem_cons, not_or] at h
    rw [put, if_neg fun e => h.1 e.symm, ih h.2, List.cons_append]

theorem find?_put {α : Type} (key : Text) (value : α) (entries : List (Text × α))
    (other : Text) :
    find? other (put key value entries) = if other = key then some value else find? other entries := by
  induction entries with
  | nil =>
    by_cases h : other = key
    · simp [put, find?, h]
    · have h' : ¬ key = other := fun e => h e.symm
      simp [put, find?, h, h']
  | cons entry rest ih =>
    obtain ⟨k, v⟩ := entry
    by_cases hk : k = key
    · subst hk
      by_cases h : other = k
      · simp [put, find?, h]
      · have h' : ¬ k = other := fun e => h e.symm
        simp [put, find?, h, h']
    · by_cases h : k = other
      · subst h
        simp [put, find?, hk]
      · simp [put, find?, hk, h, ih]

theorem put_eq_self {α : Type} {key : Text} {value : α} {entries : List (Text × α)}
    (h : find? key entries = some value) : put key value entries = entries := by
  induction entries with
  | nil => cases h
  | cons entry rest ih =>
    obtain ⟨k, v⟩ := entry
    by_cases hk : k = key
    · rw [find?, if_pos hk] at h
      cases h
      rw [put, if_pos hk]
    · rw [find?, if_neg hk] at h
      rw [put, if_neg hk, ih h]

theorem put_of_mem {α : Type} {key : Text} (value : α) {entries : List (Text × α)}
    (distinct : (entries.map Prod.fst).Nodup) (mem : key ∈ entries.map Prod.fst) :
    put key value entries =
      entries.map fun entry => if entry.1 = key then (entry.1, value) else entry := by
  induction entries with
  | nil => cases mem
  | cons entry rest ih =>
    obtain ⟨k, v⟩ := entry
    simp only [List.map_cons, List.nodup_cons, List.mem_cons] at distinct mem
    by_cases hk : k = key
    · subst hk
      have others : rest.map (fun entry => if entry.1 = k then (entry.1, value) else entry) =
          rest.map id := by
        refine List.map_congr_left fun entry mem => if_neg fun e => distinct.1 ?_
        exact e ▸ List.mem_map_of_mem mem
      simp [put, others]
    · have hk' : ¬ key = k := fun e => hk e.symm
      simp [put, hk, ih distinct.2 (mem.resolve_left hk')]

theorem put_put {α : Type} (key : Text) (first second : α) (entries : List (Text × α)) :
    put key second (put key first entries) = put key second entries := by
  induction entries with
  | nil => simp [put]
  | cons entry rest ih =>
    obtain ⟨k, v⟩ := entry
    by_cases hk : k = key
    · simp [put, hk]
    · simp [put, hk, ih]

theorem find?_isSome_iff {α : Type} (key : Text) (entries : List (Text × α)) :
    (find? key entries).isSome ↔ key ∈ entries.map Prod.fst := by
  induction entries with
  | nil => simp [find?]
  | cons entry rest ih =>
    obtain ⟨k, v⟩ := entry
    by_cases hk : k = key
    · simp [find?, hk]
    · have hk' : ¬ key = k := fun e => hk e.symm
      simp [find?, hk, hk', ih]

theorem find?_eq_some_iff {α : Type} {key : Text} {value : α} {entries : List (Text × α)}
    (distinct : (entries.map Prod.fst).Nodup) :
    find? key entries = some value ↔ (key, value) ∈ entries := by
  induction entries with
  | nil => simp [find?]
  | cons entry rest ih =>
    obtain ⟨k, v⟩ := entry
    rw [List.map_cons, List.nodup_cons] at distinct
    rw [find?, List.mem_cons]
    by_cases hk : k = key
    · subst hk
      have new : (k, value) ∉ rest := by
        intro mem
        have again : k ∈ rest.map Prod.fst := List.mem_map_of_mem mem
        exact distinct.1 again
      simp [new, eq_comm]
    · have hk' : ¬ key = k := fun e => hk e.symm
      simp [hk, hk', ih distinct.2]

/-- Entries are known by their keys, in order, and by what stands under each key. -/
theorem eq_of_find? {α : Type} {first second : List (Text × α)}
    (keys : first.map Prod.fst = second.map Prod.fst) (distinct : (first.map Prod.fst).Nodup)
    (same : ∀ key, find? key first = find? key second) : first = second := by
  induction first generalizing second with
  | nil => exact (List.map_eq_nil_iff.mp keys.symm).symm
  | cons entry rest ih =>
    obtain ⟨k, v⟩ := entry
    cases second with
    | nil => cases keys
    | cons entry' rest' =>
      obtain ⟨k', v'⟩ := entry'
      simp only [List.map_cons, List.cons.injEq] at keys
      obtain ⟨rfl, keys⟩ := keys
      rw [List.map_cons, List.nodup_cons] at distinct
      have value : v = v' := by simpa [find?] using same k
      have others (key : Text) : find? key rest = find? key rest' := by
        by_cases hk : k = key
        · subst hk
          have absent : find? k rest = none :=
            Option.not_isSome_iff_eq_none.mp fun h => distinct.1 ((find?_isSome_iff k rest).mp h)
          have absent' : find? k rest' = none :=
            Option.not_isSome_iff_eq_none.mp fun h => distinct.1 (keys ▸ (find?_isSome_iff k rest').mp h)
          rw [absent, absent']
        · simpa [find?, hk] using same key
      rw [value, ih keys distinct.2 others]

end Entries

/-- Entries with pairwise different keys, in the order in which the keys were first stored. -/
structure Keyed (α : Type) where
  /-- Keys with their values. -/
  entries : List (Text × α)
  /-- No key occurs twice. -/
  distinct : (entries.map Prod.fst).Nodup

namespace Keyed

variable {α : Type}

@[ext]
theorem ext {a b : Keyed α} (h : a.entries = b.entries) : a = b := by
  cases a; cases b; cases h; rfl

instance [DecidableEq α] : DecidableEq (Keyed α) := fun a b =>
  if h : a.entries = b.entries then isTrue (ext h) else isFalse fun e => h (e ▸ rfl)

/-- No entries. -/
def empty : Keyed α := ⟨[], List.nodup_nil⟩

instance : Inhabited (Keyed α) := ⟨empty⟩

/-- The value under a key. -/
def find? (table : Keyed α) (key : Text) : Option α := Entries.find? key table.entries

/-- Stores a value under a key. -/
def put (table : Keyed α) (key : Text) (value : α) : Keyed α where
  entries := Entries.put key value table.entries
  distinct := by
    rw [Entries.keys_put]
    split
    · exact table.distinct
    · next h =>
      rw [List.nodup_append]
      refine ⟨table.distinct, by simp, ?_⟩
      intro a ha b hb e
      exact h (by rw [← List.mem_singleton.mp hb, ← e]; exact ha)

/-- Takes away the value under a key. -/
def erase (table : Keyed α) (key : Text) : Keyed α where
  entries := Entries.erase key table.entries
  distinct := table.distinct.sublist (List.Sublist.map Prod.fst List.filter_sublist)

/-- The keys, in order. -/
def keys (table : Keyed α) : List Text := table.entries.map Prod.fst

/-- The values, in the order of their keys. -/
def values (table : Keyed α) : List α := table.entries.map Prod.snd

/-- Number of entries. -/
def size (table : Keyed α) : Nat := table.entries.length

/-- Stores entries one after another. -/
def ofList (entries : List (Text × α)) : Keyed α :=
  entries.foldl (fun table entry => table.put entry.1 entry.2) empty

theorem find?_put (table : Keyed α) (key : Text) (value : α) (other : Text) :
    (table.put key value).find? other = if other = key then some value else table.find? other :=
  Entries.find?_put key value table.entries other

theorem keys_put (table : Keyed α) (key : Text) (value : α) :
    (table.put key value).keys = if key ∈ table.keys then table.keys else table.keys ++ [key] :=
  Entries.keys_put key value table.entries

theorem ext_find? {a b : Keyed α} (keys : a.keys = b.keys) (same : ∀ key, a.find? key = b.find? key) :
    a = b :=
  ext (Entries.eq_of_find? keys a.distinct same)

theorem find?_isSome_iff (table : Keyed α) (key : Text) :
    (table.find? key).isSome ↔ key ∈ table.keys :=
  Entries.find?_isSome_iff key table.entries

theorem find?_eq_some_iff {table : Keyed α} {key : Text} {value : α} :
    table.find? key = some value ↔ (key, value) ∈ table.entries :=
  Entries.find?_eq_some_iff table.distinct

end Keyed

end Taskboard
