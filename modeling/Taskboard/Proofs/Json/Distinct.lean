import Taskboard.Json.Reader

/-!
# What a document can be

Objects of a document have no name twice: a member that comes again replaces the value of the first one.
Every value that the reader yields is therefore distinct in all of its objects, and in such a value a member is
found exactly if it stands there.
-/

namespace Taskboard

namespace Entries

variable {α : Type}

/-- Storing a value brings no entry but the stored one. -/
theorem mem_of_mem_put {key : Text} {value : α} {entries : List (Text × α)} {entry : Text × α}
    (mem : entry ∈ put key value entries) : entry = (key, value) ∨ entry ∈ entries := by
  induction entries with
  | nil => exact .inl (List.mem_singleton.mp mem)
  | cons first rest ih =>
    obtain ⟨k, v⟩ := first
    rw [put] at mem
    split at mem
    · next known =>
      subst known
      exact (List.mem_cons.mp mem).imp_right (List.mem_cons_of_mem _)
    · rcases List.mem_cons.mp mem with e | mem
      · exact .inr (e ▸ List.mem_cons_self)
      · exact (ih mem).imp_right (List.mem_cons_of_mem _)

/-- Storing a value repeats no key. -/
theorem nodup_put {key : Text} (value : α) {entries : List (Text × α)}
    (distinct : (entries.map Prod.fst).Nodup) : ((put key value entries).map Prod.fst).Nodup :=
  (Keyed.put ⟨entries, distinct⟩ key value).distinct

end Entries

namespace Json

/-- No object of the value, at any depth, has a name twice. -/
inductive Distinct : Json → Prop where
  | null : Distinct .null
  | bool (value : Bool) : Distinct (.bool value)
  | int (value : Int) : Distinct (.int value)
  | float (value : Binary64) : Distinct (.float value)
  | string (value : Text) : Distinct (.string value)
  | list {items : List Json} (each : ∀ item ∈ items, Distinct item) : Distinct (.list items)
  | object {members : List (Text × Json)} (names : (members.map Prod.fst).Nodup)
      (each : ∀ member ∈ members, Distinct member.2) : Distinct (.object members)

/-- A reader that yields only distinct values. -/
def YieldsDistinct (read : List CodePoint → Except Stop (Json × List CodePoint)) : Prop :=
  ∀ text value rest, read text = .ok (value, rest) → value.Distinct

/-- A number is distinct. -/
theorem yieldsDistinct_readNumber : YieldsDistinct readNumber := by
  intro text value rest h
  unfold readNumber at h
  simp only at h
  split at h
  · cases h
  · split at h
    · split at h
      · cases h
      · cases h
        exact .int _
    · cases h
      exact .float _

/-- A word or a number is distinct. -/
theorem yieldsDistinct_readScalar : YieldsDistinct readScalar := by
  intro text value rest h
  unfold readScalar at h
  split at h
  · next found some =>
    cases h
    obtain ⟨word, mem, matched⟩ := List.exists_of_findSome?_eq_some some
    obtain ⟨_, -, e⟩ := Option.map_eq_some_iff.mp matched
    obtain ⟨rfl, -⟩ := Prod.mk.inj e
    simp only [wordValues, List.mem_cons, List.not_mem_nil, or_false] at mem
    rcases mem with rfl | rfl | rfl | rfl | rfl | rfl
    · exact .null
    · exact .bool true
    · exact .bool false
    · exact .float _
    · exact .float _
    · exact .float _
  · exact yieldsDistinct_readNumber _ _ _ h

/-- A list of distinct items is distinct; induction on the items still to be read. -/
theorem distinct_of_readItems {readItem : List CodePoint → Except Stop (Json × List CodePoint)}
    (items : YieldsDistinct readItem) {fuel : Nat} {done : List Json} {text rest : List CodePoint} {value : Json}
    (distinct : ∀ item ∈ done, item.Distinct) (h : readItems readItem fuel done text = .ok (value, rest)) :
    value.Distinct := by
  induction fuel generalizing done text with
  | zero => cases h
  | succ fuel ih =>
    rw [readItems] at h
    split at h
    · cases h
    · next item after read =>
      have more : ∀ other ∈ item :: done, other.Distinct :=
        List.forall_mem_cons.mpr ⟨items _ _ _ read, distinct⟩
      split at h
      · cases h
        exact .list fun other mem => more other (List.mem_reverse.mp mem)
      · exact ih more h
      · cases h

/-- An object of distinct members is distinct; induction on the members still to be read. -/
theorem distinct_of_readMembers {readItem : List CodePoint → Except Stop (Json × List CodePoint)}
    (items : YieldsDistinct readItem) {fuel : Nat} {done : List (Text × Json)} {text rest : List CodePoint}
    {value : Json} (names : (done.map Prod.fst).Nodup) (distinct : ∀ member ∈ done, member.2.Distinct)
    (h : readMembers readItem fuel done text = .ok (value, rest)) : value.Distinct := by
  induction fuel generalizing done text with
  | zero => cases h
  | succ fuel ih =>
    unfold readMembers at h
    split at h
    · cases h
    split at h
    · cases h
    split at h
    · cases h
    next name _ _ =>
    split at h
    · split at h
      · cases h
      next item _ read =>
      have once : ((Entries.put name item done).map Prod.fst).Nodup := Entries.nodup_put item names
      have more : ∀ member ∈ Entries.put name item done, member.2.Distinct := by
        intro member mem
        rcases Entries.mem_of_mem_put mem with rfl | mem
        · exact items _ _ _ read
        · exact distinct member mem
      simp only at h
      split at h
      · exact ih once more h
      · split at h
        · cases h
          exact .object once more
        · cases h
      · cases h
    · cases h

/-- Whatever is read as a value is distinct; induction on the containers there is room for. -/
theorem yieldsDistinct_readValue (bound room : Nat) : YieldsDistinct (readValue bound room) := by
  induction room using Nat.strongRecOn with
  | ind room ih =>
    intro text value rest h
    unfold readValue at h
    split at h
    · cases h
    split at h
    · split at h
      · cases h
      · cases h
        exact .string _
    split at h
    · split at h
      · cases h
      · next smaller =>
        have items := ih smaller (Nat.lt_succ_self smaller)
        split at h
        · cases h
          exact .list (by simp)
        · exact distinct_of_readItems items (by simp) h
    split at h
    · split at h
      · cases h
      · next smaller =>
        have items := ih smaller (Nat.lt_succ_self smaller)
        split at h
        · cases h
        split at h
        · cases h
          exact .object (by simp) (by simp)
        · exact distinct_of_readMembers items (by simp) (by simp) h
    exact yieldsDistinct_readScalar _ _ _ h

/-- Every document is distinct. -/
theorem distinct_of_read {room : Nat} {text : List CodePoint} {value : Json}
    (h : read room text = .ok value) : value.Distinct := by
  unfold read readDocument at h
  split at h
  · next read =>
    cases h
    split at read
    · cases read
    split at read
    · cases read
    · next value' rest' found =>
      split at read
      · cases read
        exact yieldsDistinct_readValue _ _ _ _ _ found
      · cases read
  · cases h

end Json

end Taskboard
