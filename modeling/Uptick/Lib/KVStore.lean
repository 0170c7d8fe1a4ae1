import Mathlib.Data.List.Lex
import Mathlib.Data.List.Sort
import Uptick.Lib.Outcome
import Uptick.Lib.Text

/-!
# Ordered key-value stores

A store maps nonempty byte keys to values and is iterated in ascending key order. The entries are a
strictly sorted list, so two stores with the same lookups are equal.
-/

open Text

instance linearOrderUInt8 : LinearOrder UInt8 where
  le_refl := UInt8.le_refl
  le_trans := fun _ _ _ => UInt8.le_trans
  le_antisymm := fun _ _ => UInt8.le_antisymm
  le_total := UInt8.le_total
  lt_iff_le_not_ge := by
    intro a b
    simp only [UInt8.lt_iff_toNat_lt, UInt8.le_iff_toNat_le]
    omega
  toDecidableLE := inferInstance

/-- A store of values under nonempty byte keys. -/
structure KVStore (V : Type) where
  entries : List (GoString × V)
  sorted : (entries.map Prod.fst).Pairwise (· < ·)
  keys_ne_nil : ∀ k ∈ entries.map Prod.fst, k ≠ []

namespace KVStore

variable {V : Type}

def lookup : List (GoString × V) → GoString → Option V
  | [], _ => none
  | (k', v) :: rest, k => if k' = k then some v else lookup rest k

def insert : List (GoString × V) → GoString → V → List (GoString × V)
  | [], k, v => [(k, v)]
  | (k', v') :: rest, k, v =>
    if k < k' then (k, v) :: (k', v') :: rest
    else if k' = k then (k, v) :: rest
    else (k', v') :: insert rest k v

def erase (entries : List (GoString × V)) (k : GoString) : List (GoString × V) :=
  entries.filter fun e => e.1 ≠ k

lemma keys_insert {entries : List (GoString × V)} {k k' : GoString} {v : V} :
    k' ∈ (insert entries k v).map Prod.fst ↔ k' = k ∨ k' ∈ entries.map Prod.fst := by
  induction entries with
  | nil => simp [insert]
  | cons e rest ih =>
    obtain ⟨k₀, v₀⟩ := e
    unfold insert
    split
    · simp
    · split
      · rename_i heq
        subst heq
        simp
      · simp only [List.map_cons, List.mem_cons, ih]
        tauto

lemma sorted_insert {entries : List (GoString × V)} (k : GoString) (v : V)
    (h : (entries.map Prod.fst).Pairwise (· < ·)) :
    ((insert entries k v).map Prod.fst).Pairwise (· < ·) := by
  induction entries with
  | nil => simp [insert]
  | cons e rest ih =>
    obtain ⟨k₀, v₀⟩ := e
    simp only [List.map_cons, List.pairwise_cons] at h
    unfold insert
    split
    · rename_i hlt
      simp only [List.map_cons, List.pairwise_cons, List.mem_cons]
      refine ⟨?_, h⟩
      rintro k' (rfl | hk')
      · exact hlt
      · exact lt_trans hlt (h.1 k' hk')
    · split
      · rename_i heq
        subst heq
        simpa using h
      · rename_i hnlt hne
        simp only [List.map_cons, List.pairwise_cons]
        refine ⟨fun k' hk' => ?_, ih h.2⟩
        rcases keys_insert.mp hk' with rfl | hk'
        · exact lt_of_le_of_ne (not_lt.mp hnlt) hne
        · exact h.1 k' hk'

lemma lookup_eq_none {entries : List (GoString × V)} {k : GoString}
    (h : k ∉ entries.map Prod.fst) : lookup entries k = none := by
  induction entries with
  | nil => rfl
  | cons e rest ih =>
    simp only [List.map_cons, List.mem_cons, not_or] at h
    simp [lookup, Ne.symm h.1, ih h.2]

lemma lookup_insert (entries : List (GoString × V)) (k k' : GoString) (v : V)
    (h : (entries.map Prod.fst).Pairwise (· < ·)) :
    lookup (insert entries k v) k' = if k' = k then some v else lookup entries k' := by
  induction entries with
  | nil => simp [insert, lookup, eq_comm]
  | cons e rest ih =>
    obtain ⟨k₀, v₀⟩ := e
    simp only [List.map_cons, List.pairwise_cons] at h
    unfold insert
    split
    · simp [lookup, eq_comm]
    · split
      · rename_i heq
        subst heq
        by_cases hk : k' = k₀ <;> simp [lookup, hk, eq_comm]
      · rename_i hne
        simp only [lookup, ih h.2]
        by_cases hk : k' = k
        · subst hk
          simp [hne]
        · simp [hk]

lemma lookup_erase (entries : List (GoString × V)) (k k' : GoString) :
    lookup (erase entries k) k' = if k' = k then none else lookup entries k' := by
  induction entries with
  | nil => simp [erase, lookup]
  | cons e rest ih =>
    obtain ⟨k₀, v₀⟩ := e
    by_cases hk : k₀ = k
    · subst hk
      simp only [erase, ne_eq, not_true, decide_false, Bool.false_eq_true, not_false_eq_true,
        List.filter_cons_of_neg] at ih ⊢
      rw [ih]
      by_cases hk' : k' = k₀ <;> simp [lookup, hk', eq_comm]
    · have hcons : erase ((k₀, v₀) :: rest) k = (k₀, v₀) :: erase rest k := by
        simp [erase, hk]
      rw [hcons]
      simp only [lookup, ih]
      by_cases hk' : k' = k
      · subst hk'
        simp [hk]
      · simp [hk']

lemma mem_keys_of_lookup {entries : List (GoString × V)} {k : GoString} {v : V}
    (h : lookup entries k = some v) : k ∈ entries.map Prod.fst := by
  by_contra hk
  rw [lookup_eq_none hk] at h
  cases h

lemma eq_of_lookup_eq {l₁ l₂ : List (GoString × V)}
    (h₁ : (l₁.map Prod.fst).Pairwise (· < ·)) (h₂ : (l₂.map Prod.fst).Pairwise (· < ·))
    (h : ∀ k, lookup l₁ k = lookup l₂ k) : l₁ = l₂ := by
  induction l₁ generalizing l₂ with
  | nil =>
    cases l₂ with
    | nil => rfl
    | cons e _ => simpa [lookup] using h e.1
  | cons e₁ r₁ ih =>
    obtain ⟨k₁, v₁⟩ := e₁
    cases l₂ with
    | nil => simpa [lookup] using h k₁
    | cons e₂ r₂ =>
      obtain ⟨k₂, v₂⟩ := e₂
      simp only [List.map_cons, List.pairwise_cons] at h₁ h₂
      -- Each head is the least key of both lists.
      have hle : ∀ {k k' : GoString} {v : V} {r : List (GoString × V)},
          (∀ x ∈ r.map Prod.fst, k < x) → lookup ((k, v) :: r) k' ≠ none → k ≤ k' := by
        intro k k' v r hr hk'
        by_cases heq : k = k'
        · exact heq.le
        · simp only [lookup, if_neg heq] at hk'
          obtain ⟨w, hw⟩ := Option.ne_none_iff_exists'.mp hk'
          exact (hr k' (mem_keys_of_lookup hw)).le
      have hk : k₁ = k₂ := by
        apply le_antisymm
        · exact hle h₁.1 (by rw [h k₂]; simp [lookup])
        · exact hle h₂.1 (by rw [← h k₁]; simp [lookup])
      subst hk
      have hv : v₁ = v₂ := by simpa [lookup] using h k₁
      subst hv
      congr 1
      refine ih h₁.2 h₂.2 fun k => ?_
      by_cases hk : k = k₁
      · subst hk
        rw [lookup_eq_none fun hmem => lt_irrefl _ (h₁.1 k hmem),
          lookup_eq_none fun hmem => lt_irrefl _ (h₂.1 k hmem)]
      · simpa [lookup, Ne.symm hk] using h k

def empty : KVStore V := ⟨[], by simp, by simp⟩

def get? (s : KVStore V) (k : GoString) : Option V := lookup s.entries k

def has (s : KVStore V) (k : GoString) : Bool := (s.get? k).isSome

def keys (s : KVStore V) : List GoString := s.entries.map Prod.fst

/-- Writing under the empty key is refused: the write is dropped. -/
def set (s : KVStore V) (k : GoString) (v : V) : KVStore V :=
  if hk : k = [] then s
  else
    { entries := insert s.entries k v
      sorted := sorted_insert k v s.sorted
      keys_ne_nil := by
        intro k' hk'
        rcases keys_insert.mp hk' with rfl | hk'
        · exact hk
        · exact s.keys_ne_nil k' hk' }

def delete (s : KVStore V) (k : GoString) : KVStore V where
  entries := erase s.entries k
  sorted := s.sorted.sublist (List.filter_sublist.map Prod.fst)
  keys_ne_nil := fun k' hk' => s.keys_ne_nil k' ((List.filter_sublist.map Prod.fst).subset hk')

/-- `Get` of a store of byte values: absent and empty read alike. -/
def get (s : KVStore GoString) (k : GoString) : GoString := (s.get? k).getD []

@[simp] lemma get?_empty (k : GoString) : (empty : KVStore V).get? k = none := rfl

@[simp] lemma get?_nil (s : KVStore V) : s.get? [] = none :=
  lookup_eq_none fun h => s.keys_ne_nil [] h rfl

lemma get?_set (s : KVStore V) {k : GoString} (hk : k ≠ []) (v : V) (k' : GoString) :
    (s.set k v).get? k' = if k' = k then some v else s.get? k' := by
  simp only [set, dif_neg hk, get?]
  exact lookup_insert s.entries k k' v s.sorted

lemma get?_set_eq_some {s : KVStore V} {k k' : GoString} {v u : V} (h : (s.set k v).get? k' = some u) :
    k' = k ∧ u = v ∨ k' ≠ k ∧ s.get? k' = some u := by
  by_cases hk : k = []
  · rw [set, dif_pos hk] at h
    refine .inr ⟨?_, h⟩
    rintro rfl
    rw [hk, get?_nil] at h
    cases h
  · rw [get?_set s hk] at h
    split at h
    · next hkk =>
      cases h
      exact .inl ⟨hkk, rfl⟩
    · next hkk => exact .inr ⟨hkk, h⟩

lemma get?_set_of_ne (s : KVStore V) {k k' : GoString} (v : V) (hne : k' ≠ k) :
    (s.set k v).get? k' = s.get? k' := by
  by_cases hk : k = []
  · rw [set, dif_pos hk]
  · rw [get?_set s hk, if_neg hne]

@[simp] lemma get?_delete (s : KVStore V) (k k' : GoString) :
    (s.delete k).get? k' = if k' = k then none else s.get? k' :=
  lookup_erase s.entries k k'

@[ext] lemma ext {s t : KVStore V} (h : ∀ k, s.get? k = t.get? k) : s = t := by
  have hentries : s.entries = t.entries := eq_of_lookup_eq s.sorted t.sorted h
  cases s
  cases t
  simpa using hentries

lemma lookup_ne_none_of_mem {entries : List (GoString × V)} {k : GoString}
    (h : k ∈ entries.map Prod.fst) : lookup entries k ≠ none := by
  induction entries with
  | nil => simp at h
  | cons e rest ih =>
    unfold lookup
    split
    · simp
    · rename_i hne
      rcases List.mem_cons.mp h with heq | hmem
      · exact absurd heq.symm hne
      · exact ih hmem

lemma mem_keys {s : KVStore V} {k : GoString} : k ∈ s.keys ↔ ∃ v, s.get? k = some v := by
  constructor
  · intro hk
    exact Option.ne_none_iff_exists'.mp (lookup_ne_none_of_mem hk)
  · rintro ⟨v, hv⟩
    exact mem_keys_of_lookup hv

lemma mem_entries {s : KVStore V} {k : GoString} {v : V} : (k, v) ∈ s.entries ↔ s.get? k = some v := by
  have hlookup : ∀ {l : List (GoString × V)}, (l.map Prod.fst).Pairwise (· < ·) →
      ((k, v) ∈ l ↔ lookup l k = some v) := by
    intro l hl
    induction l with
    | nil => simp [lookup]
    | cons e rest ih =>
      obtain ⟨k₀, v₀⟩ := e
      simp only [List.map_cons, List.pairwise_cons] at hl
      by_cases hk : k₀ = k
      · subst hk
        have hout : (k₀, v) ∉ rest := fun hmem =>
          lt_irrefl _ (hl.1 k₀ (List.mem_map_of_mem (f := Prod.fst) hmem))
        simp [lookup, hout, eq_comm]
      · simp [lookup, hk, Ne.symm hk, ih hl.2]
  exact hlookup s.sorted

lemma nodup_keys (s : KVStore V) : s.keys.Nodup := s.sorted.imp fun h => ne_of_lt h

lemma get?_delete_eq_some {s : KVStore V} {k k' : GoString} {u : V} (h : (s.delete k).get? k' = some u) :
    k' ≠ k ∧ s.get? k' = some u := by
  rw [get?_delete] at h
  split at h
  · cases h
  · next hne => exact ⟨hne, h⟩

lemma get_eq_nil {s : KVStore GoString} {k : GoString} (h : s.get? k = none) : s.get k = [] := by
  simp [get, h]

lemma get_of_get? {s : KVStore GoString} {k v : GoString} (h : s.get? k = some v) : s.get k = v := by
  simp [get, h]

lemma get?_of_get {s : KVStore GoString} {k v : GoString} (h : s.get k = v) (hv : v ≠ []) : s.get? k = some v := by
  subst h
  cases hget : s.get? k with
  | none => exact absurd (get_eq_nil hget) hv
  | some v => rw [get_of_get? hget]

/-- The entries whose key starts with a text, in iteration order. -/
def withPrefix (s : KVStore V) (pre : GoString) : List (GoString × V) := s.entries.filter fun e => hasPrefix e.1 pre

lemma mem_withPrefix {s : KVStore V} {pre k : GoString} {v : V} :
    (k, v) ∈ s.withPrefix pre ↔ s.get? k = some v ∧ hasPrefix k pre = true := by
  simp [withPrefix, mem_entries]

lemma nodup_withPrefix (s : KVStore V) (pre : GoString) : ((s.withPrefix pre).map Prod.fst).Nodup :=
  s.nodup_keys.sublist (List.filter_sublist.map Prod.fst)

/-- The part of a store whose keys pass a test. -/
def filterKeys (s : KVStore V) (p : GoString → Bool) : KVStore V where
  entries := s.entries.filter fun e => p e.1
  sorted := s.sorted.sublist (List.filter_sublist.map Prod.fst)
  keys_ne_nil := fun k' hk' => s.keys_ne_nil k' ((List.filter_sublist.map Prod.fst).subset hk')

lemma get?_filterKeys (s : KVStore V) (p : GoString → Bool) (k : GoString) :
    (s.filterKeys p).get? k = if p k then s.get? k else none := by
  apply Option.ext
  intro v
  rw [← mem_entries]
  by_cases hp : p k = true
  · simp [filterKeys, hp, mem_entries]
  · simp [filterKeys, hp]

/-- A part of the keys that reads differently only where some of them are gone. -/
lemma withPrefix_eq_filter {s t : KVStore V} {pre : GoString} {gone : GoString → Bool}
    (h : ∀ k, hasPrefix k pre = true → t.get? k = if gone k then none else s.get? k) :
    t.withPrefix pre = (s.withPrefix pre).filter fun e => !gone e.1 := by
  have hstores : t.filterKeys (hasPrefix · pre) = (s.filterKeys (hasPrefix · pre)).filterKeys (fun k => !gone k) := by
    apply ext
    intro k
    rw [get?_filterKeys, get?_filterKeys, get?_filterKeys]
    by_cases hpre : hasPrefix k pre = true
    · rw [if_pos hpre, if_pos hpre, h k hpre]
      cases gone k <;> simp
    · rw [if_neg hpre, if_neg hpre, ite_self]
  exact congrArg entries hstores

lemma withPrefix_append (s : KVStore V) (pre rest : GoString) :
    s.withPrefix (pre ++ rest) = (s.withPrefix pre).filter fun e => hasPrefix e.1 (pre ++ rest) := by
  unfold withPrefix
  rw [List.filter_filter]
  apply List.filter_congr
  intro e _
  by_cases h : hasPrefix e.1 (pre ++ rest) = true
  · have hshort : hasPrefix e.1 pre = true := by
      obtain ⟨t, ht⟩ := hasPrefix_iff.mp h
      rw [ht, List.append_assoc]
      exact hasPrefix_append _ _
    rw [h, hshort, Bool.and_self]
  · rw [Bool.not_eq_true] at h
    rw [h, Bool.false_and]

/-- Reading the records under one part of the keys: every record once, when each value there can be read and names its
key. -/
theorem mapM_withPrefix {ε β : Type} {s : KVStore V} {pre : GoString} {f : V → Except ε β} {key : β → GoString}
    {P : β → Prop}
    (hread : ∀ k v, s.get? k = some v → hasPrefix k pre = true → ∃ y, f v = .ok y ∧ key y = k ∧ P y)
    (hstored : ∀ y, P y → hasPrefix (key y) pre = true ∧ ∃ v, s.get? (key y) = some v ∧ f v = .ok y) :
    ∃ ys, (s.withPrefix pre).mapM (fun e => f e.2) = .ok ys ∧ (ys.map key).Nodup ∧ ∀ y, y ∈ ys ↔ P y := by
  have hentry : ∀ e ∈ s.withPrefix pre, ∃ y, f e.2 = .ok y ∧ key y = e.1 ∧ P y := by
    intro e he
    obtain ⟨hget, hpre⟩ := mem_withPrefix.mp he
    exact hread e.1 e.2 hget hpre
  obtain ⟨ys, hys⟩ := Outcome.exists_mapM_eq_ok fun e he => (hentry e he).imp fun _ h => h.1
  have hall := Outcome.mapM_eq_ok.mp hys
  have hpair : List.Forall₂ (fun e y => f e.2 = .ok y ∧ key y = e.1 ∧ P y) (s.withPrefix pre) ys := by
    refine (List.forall₂_and_left _ _).mpr ⟨hentry, hall⟩ |>.imp ?_
    rintro e y ⟨⟨y', hy', hkey, hP⟩, hy⟩
    rw [hy] at hy'
    cases hy'
    exact ⟨hy, hkey, hP⟩
  refine ⟨ys, hys, ?_, fun y => ⟨fun hy => ?_, fun hP => ?_⟩⟩
  · have hkeys : ys.map key = (s.withPrefix pre).map Prod.fst := by
      rw [← List.forall₂_eq_eq_eq, List.forall₂_map_left_iff, List.forall₂_map_right_iff]
      exact hpair.flip.imp fun _ _ h => h.2.1
    rw [hkeys]
    exact s.nodup_withPrefix pre
  · obtain ⟨e, -, -, -, hP⟩ := Outcome.exists_of_mem_right hpair hy
    exact hP
  · obtain ⟨hpre, v, hget, hv⟩ := hstored y hP
    have hmem : (key y, v) ∈ s.withPrefix pre := mem_withPrefix.mpr ⟨hget, hpre⟩
    obtain ⟨y', hy', hv', -, -⟩ := Outcome.exists_of_mem_left hpair hmem
    rw [hv, Except.ok.injEq] at hv'
    rw [hv']
    exact hy'

def deleteAll (s : KVStore V) (ks : List GoString) : KVStore V := ks.foldl delete s

lemma get?_deleteAll (s : KVStore V) (ks : List GoString) (k : GoString) :
    (s.deleteAll ks).get? k = if k ∈ ks then none else s.get? k := by
  induction ks generalizing s with
  | nil => simp [deleteAll]
  | cons x xs ih =>
    have hcons : s.deleteAll (x :: xs) = (s.delete x).deleteAll xs := rfl
    rw [hcons, ih, get?_delete]
    by_cases hx : k = x
    · simp [hx]
    · simp [hx]

lemma get?_deleteAll_eq_some {s : KVStore V} {ks : List GoString} {k : GoString} {v : V} :
    (s.deleteAll ks).get? k = some v ↔ k ∉ ks ∧ s.get? k = some v := by
  rw [get?_deleteAll]
  split_ifs with hk <;> simp [hk]

def setAll (s : KVStore V) (l : List (GoString × V)) : KVStore V := l.foldl (fun s e => s.set e.1 e.2) s

lemma get?_setAll {l : List (GoString × V)} (hnd : (l.map Prod.fst).Nodup) (hne : ∀ e ∈ l, e.1 ≠ [])
    (s : KVStore V) (k : GoString) (v : V) :
    (s.setAll l).get? k = some v ↔ (k, v) ∈ l ∨ k ∉ l.map Prod.fst ∧ s.get? k = some v := by
  induction l generalizing s with
  | nil => simp [setAll]
  | cons e l ih =>
    obtain ⟨k₀, v₀⟩ := e
    simp only [List.map_cons, List.nodup_cons] at hnd
    have hcons : s.setAll ((k₀, v₀) :: l) = (s.set k₀ v₀).setAll l := rfl
    rw [hcons, ih hnd.2 (fun e he => hne e (List.mem_cons_of_mem _ he)),
      get?_set s (hne (k₀, v₀) List.mem_cons_self)]
    by_cases hk : k = k₀
    · subst hk
      have hout : (k, v) ∉ l := fun h => hnd.1 (List.mem_map_of_mem (f := Prod.fst) h)
      simp [hnd.1, hout, eq_comm]
    · simp [hk]

lemma get?_empty_setAll {α : Type*} {l : List α} {key : α → GoString} {val : α → V}
    (hnd : l.Pairwise fun x y => key x ≠ key y) (hne : ∀ x ∈ l, key x ≠ []) (k : GoString) (v : V) :
    ((empty : KVStore V).setAll (l.map fun x => (key x, val x))).get? k = some v ↔
      ∃ x ∈ l, key x = k ∧ val x = v := by
  have hkeys : ((l.map fun x => (key x, val x)).map Prod.fst).Nodup := by
    rw [List.map_map]
    exact List.pairwise_map.mpr hnd
  rw [get?_setAll hkeys (by simpa using hne)]
  simp

/-! ### Two stores that are inverse to each other -/

/-- The entries of one store are those of the other, read backwards. -/
def Inverse (s t : KVStore GoString) : Prop := ∀ k v, s.get? k = some v ↔ t.get? v = some k

namespace Inverse

variable {s t : KVStore GoString} {k v : GoString}

lemma symm (h : Inverse s t) : Inverse t s := fun k v => (h v k).symm

/-- No entry has an empty value, since the other store has no empty key. -/
lemma get?_eq_none (h : Inverse s t) (hget : s.get k = []) : s.get? k = none := by
  cases hk : s.get? k with
  | none => rfl
  | some v =>
    rw [get_of_get? hk] at hget
    have hrev := (h k v).mp hk
    rw [hget, get?_nil] at hrev
    cases hrev

lemma set (h : Inverse s t) (hk : k ≠ []) (hv : v ≠ []) (hs : s.get? k = none) (ht : t.get? v = none) :
    Inverse (s.set k v) (t.set v k) := by
  intro k' v'
  rw [get?_set s hk, get?_set t hv]
  by_cases hkk : k' = k
  · by_cases hvv : v' = v
    · simp [hkk, hvv]
    · have hno : t.get? v' ≠ some k := fun hget => by
        rw [← h, hs] at hget
        cases hget
      simp [hkk, hvv, hno, Ne.symm hvv]
  · by_cases hvv : v' = v
    · have hno : s.get? k' ≠ some v := fun hget => by
        rw [h, ht] at hget
        cases hget
      simp [hkk, hvv, hno, Ne.symm hkk]
    · simp [hkk, hvv, h k' v']

lemma delete (h : Inverse s t) (hget : s.get? k = some v) : Inverse (s.delete k) (t.delete v) := by
  intro k' v'
  rw [get?_delete, get?_delete]
  by_cases hkk : k' = k
  · have hno : v' ≠ v → t.get? v' ≠ some k := by
      intro hvv hback
      rw [← h, hget] at hback
      exact hvv (Option.some.inj hback).symm
    by_cases hvv : v' = v
    · simp [hkk, hvv]
    · simp [hkk, hvv, hno hvv]
  · by_cases hvv : v' = v
    · have hno : s.get? k' ≠ some v := fun hback => by
        rw [h, (h k v).mp hget] at hback
        exact hkk (Option.some.inj hback).symm
      simp [hkk, hvv, hno]
    · simp [hkk, hvv, h k' v']

end Inverse

end KVStore
