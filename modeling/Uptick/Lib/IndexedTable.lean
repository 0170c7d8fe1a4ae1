import Uptick.Lib.KVStore

/-!
# Tables with two indexes

Records that are stored under an id and found by either of two keys. Each index maps a key to the id of the record
that has it.
-/

open Text

structure IndexedTable (α : Type) where
  records : KVStore α
  left : KVStore GoString
  right : KVStore GoString

/-- The id and the two keys of a record. -/
structure RecordKeys (α : Type) where
  id : α → GoString
  left : α → GoString
  right : α → GoString

namespace IndexedTable

variable {α : Type} {key : RecordKeys α} {T : IndexedTable α} {x : α}

def insert (key : RecordKeys α) (T : IndexedTable α) (x : α) : IndexedTable α :=
  ⟨T.records.set (key.id x) x, T.left.set (key.left x) (key.id x), T.right.set (key.right x) (key.id x)⟩

def remove (key : RecordKeys α) (T : IndexedTable α) (x : α) : IndexedTable α :=
  ⟨T.records.delete (key.id x), T.left.delete (key.left x), T.right.delete (key.right x)⟩

/-- Every record is under its own id and both indexes lead to it, and an entry of an index leads to a record that has
the key. -/
structure OneToOne (key : RecordKeys α) (T : IndexedTable α) : Prop where
  id : ∀ i x, T.records.get? i = some x → i = key.id x
  left : ∀ i x, T.records.get? i = some x → T.left.get? (key.left x) = some i
  right : ∀ i x, T.records.get? i = some x → T.right.get? (key.right x) = some i
  leftOf : ∀ k i, T.left.get? k = some i → ∃ x, T.records.get? i = some x ∧ key.left x = k
  rightOf : ∀ k i, T.right.get? k = some i → ∃ x, T.records.get? i = some x ∧ key.right x = k

namespace OneToOne

lemma empty : OneToOne key ⟨.empty, .empty, .empty⟩ where
  id := by simp
  left := by simp
  right := by simp
  leftOf := by simp
  rightOf := by simp

lemma left_unique (h : OneToOne key T) {i j : GoString} {x y : α} (hx : T.records.get? i = some x)
    (hy : T.records.get? j = some y) (heq : key.left x = key.left y) : i = j := by
  have hi := h.left i x hx
  rw [heq, h.left j y hy] at hi
  exact (Option.some.inj hi).symm

lemma right_unique (h : OneToOne key T) {i j : GoString} {x y : α} (hx : T.records.get? i = some x)
    (hy : T.records.get? j = some y) (heq : key.right x = key.right y) : i = j := by
  have hi := h.right i x hx
  rw [heq, h.right j y hy] at hi
  exact (Option.some.inj hi).symm

lemma index_insert {index : KVStore GoString} {get : α → GoString} (hid : key.id x ≠ []) (hne : get x ≠ [])
    (hnew : T.records.get? (key.id x) = none) (hfree : index.get? (get x) = none)
    (hto : ∀ i y, T.records.get? i = some y → index.get? (get y) = some i)
    (hof : ∀ k i, index.get? k = some i → ∃ y, T.records.get? i = some y ∧ get y = k) :
    (∀ i y, (T.records.set (key.id x) x).get? i = some y → (index.set (get x) (key.id x)).get? (get y) = some i) ∧
      ∀ k i, (index.set (get x) (key.id x)).get? k = some i →
        ∃ y, (T.records.set (key.id x) x).get? i = some y ∧ get y = k := by
  refine ⟨fun i y hget => ?_, fun k i hget => ?_⟩
  · rcases KVStore.get?_set_eq_some hget with ⟨rfl, rfl⟩ | ⟨-, hold⟩
    · rw [KVStore.get?_set _ hne, if_pos rfl]
    · have hy := hto i y hold
      have hkey : get y ≠ get x := by
        intro heq
        rw [heq, hfree] at hy
        cases hy
      rw [KVStore.get?_set_of_ne _ _ hkey]
      exact hy
  · rcases KVStore.get?_set_eq_some hget with ⟨rfl, rfl⟩ | ⟨-, hold⟩
    · exact ⟨x, by rw [KVStore.get?_set _ hid, if_pos rfl], rfl⟩
    · obtain ⟨y, hy, rfl⟩ := hof k i hold
      have hi : i ≠ key.id x := by
        intro heq
        rw [heq, hnew] at hy
        cases hy
      exact ⟨y, by rw [KVStore.get?_set_of_ne _ _ hi, hy], rfl⟩

theorem insert (h : OneToOne key T) (hid : key.id x ≠ []) (hl : key.left x ≠ []) (hr : key.right x ≠ [])
    (hnew : T.records.get? (key.id x) = none) (hleft : T.left.get? (key.left x) = none)
    (hright : T.right.get? (key.right x) = none) : OneToOne key (T.insert key x) where
  id := by
    intro i y hget
    rcases KVStore.get?_set_eq_some hget with ⟨rfl, rfl⟩ | ⟨-, hold⟩
    · rfl
    · exact h.id i y hold
  left := (index_insert hid hl hnew hleft h.left h.leftOf).1
  right := (index_insert hid hr hnew hright h.right h.rightOf).1
  leftOf := (index_insert hid hl hnew hleft h.left h.leftOf).2
  rightOf := (index_insert hid hr hnew hright h.right h.rightOf).2

lemma index_remove {index : KVStore GoString} {get : α → GoString} (hx : T.records.get? (key.id x) = some x)
    (hto : ∀ i y, T.records.get? i = some y → index.get? (get y) = some i)
    (hof : ∀ k i, index.get? k = some i → ∃ y, T.records.get? i = some y ∧ get y = k) :
    (∀ i y, (T.records.delete (key.id x)).get? i = some y → (index.delete (get x)).get? (get y) = some i) ∧
      ∀ k i, (index.delete (get x)).get? k = some i →
        ∃ y, (T.records.delete (key.id x)).get? i = some y ∧ get y = k := by
  refine ⟨fun i y hget => ?_, fun k i hget => ?_⟩
  · obtain ⟨hne, hold⟩ := KVStore.get?_delete_eq_some hget
    have hy := hto i y hold
    have hkey : get y ≠ get x := by
      intro heq
      rw [heq, hto _ x hx] at hy
      exact hne (Option.some.inj hy).symm
    rw [KVStore.get?_delete, if_neg hkey]
    exact hy
  · obtain ⟨hne, hold⟩ := KVStore.get?_delete_eq_some hget
    obtain ⟨y, hy, rfl⟩ := hof k i hold
    have hi : i ≠ key.id x := by
      intro heq
      rw [heq, hx] at hy
      cases hy
      exact hne rfl
    exact ⟨y, by rw [KVStore.get?_delete, if_neg hi, hy], rfl⟩

theorem remove (h : OneToOne key T) (hx : T.records.get? (key.id x) = some x) : OneToOne key (T.remove key x) where
  id := fun i y hget => h.id i y (KVStore.get?_delete_eq_some hget).2
  left := (index_remove hx h.left h.leftOf).1
  right := (index_remove hx h.right h.rightOf).1
  leftOf := (index_remove hx h.left h.leftOf).2
  rightOf := (index_remove hx h.right h.rightOf).2

end OneToOne

end IndexedTable
