import Uptick.Lib.KVStore
import Uptick.Lib.Utf8

/-!
# JSON values

The values of JSON over any type of numbers. The members of an object are listed by ascending key, as a Go map is
printed, so that two objects with the same members are equal.
-/

open Text

inductive Json (N : Type)
  | null
  | bool (b : Bool)
  | num (n : N)
  | str (s : GoString)
  | arr (xs : List (Json N))
  | obj (ms : List (GoString × Json N))

namespace Json

variable {N M K : Type}

/-- Induction over the elements of an array and the members of an object. -/
@[elab_as_elim, induction_eliminator]
theorem induct {motive : Json N → Prop} (null : motive .null) (bool : ∀ b, motive (.bool b))
    (num : ∀ n, motive (.num n)) (str : ∀ s, motive (.str s))
    (arr : ∀ xs, (∀ x ∈ xs, motive x) → motive (.arr xs))
    (obj : ∀ ms, (∀ m ∈ ms, motive m.2) → motive (.obj ms)) (v : Json N) : motive v :=
  @Json.rec N motive (fun xs => ∀ x ∈ xs, motive x) (fun ms => ∀ m ∈ ms, motive m.2) (fun m => motive m.2)
    null bool num str arr obj
    (fun _ h => absurd h List.not_mem_nil)
    (fun _ _ hx hxs y hy => (List.mem_cons.mp hy).elim (fun h => h ▸ hx) (hxs y))
    (fun _ h => absurd h List.not_mem_nil)
    (fun _ _ hm hms y hy => (List.mem_cons.mp hy).elim (fun h => h ▸ hm) (hms y))
    (fun _ _ h => h) v

mutual

/-- The value with another value in the place of each number. -/
def bind (f : N → Json M) : Json N → Json M
  | .null => .null
  | .bool b => .bool b
  | .num n => f n
  | .str s => .str s
  | .arr xs => .arr (bindElements f xs)
  | .obj ms => .obj (bindMembers f ms)

def bindElements (f : N → Json M) : List (Json N) → List (Json M)
  | [] => []
  | x :: xs => x.bind f :: bindElements f xs

def bindMembers (f : N → Json M) : List (GoString × Json N) → List (GoString × Json M)
  | [] => []
  | (k, v) :: ms => (k, v.bind f) :: bindMembers f ms

end

def map (f : N → M) (v : Json N) : Json M := v.bind fun n => .num (f n)

lemma bindElements_eq_map (f : N → Json M) (xs : List (Json N)) : bindElements f xs = xs.map (bind f) := by
  induction xs with
  | nil => rfl
  | cons x xs ih => rw [bindElements, ih, List.map_cons]

lemma bindMembers_eq_map (f : N → Json M) (ms : List (GoString × Json N)) :
    bindMembers f ms = ms.map fun m => (m.1, m.2.bind f) := by
  induction ms with
  | nil => rfl
  | cons m ms ih =>
    obtain ⟨k, v⟩ := m
    rw [bindMembers, ih, List.map_cons]

@[simp] lemma bind_null (f : N → Json M) : bind f .null = .null := rfl

@[simp] lemma bind_bool (f : N → Json M) (b : Bool) : bind f (.bool b) = .bool b := rfl

@[simp] lemma bind_num (f : N → Json M) (n : N) : bind f (.num n) = f n := rfl

@[simp] lemma bind_str (f : N → Json M) (s : GoString) : bind f (.str s) = .str s := rfl

@[simp] lemma bind_arr (f : N → Json M) (xs : List (Json N)) : bind f (.arr xs) = .arr (xs.map (bind f)) := by
  rw [bind, bindElements_eq_map]

@[simp] lemma bind_obj (f : N → Json M) (ms : List (GoString × Json N)) :
    bind f (.obj ms) = .obj (ms.map fun m => (m.1, m.2.bind f)) := by
  rw [bind, bindMembers_eq_map]

lemma bind_bind (g : M → Json K) (f : N → Json M) (v : Json N) : (v.bind f).bind g = v.bind fun n => (f n).bind g := by
  induction v with
  | null => rfl
  | bool b => rfl
  | num n => rfl
  | str s => rfl
  | arr xs ih =>
    simp only [bind_arr, List.map_map]
    congr 1
    exact List.map_congr_left fun x hx => ih x hx
  | obj ms ih =>
    simp only [bind_obj, List.map_map]
    congr 1
    exact List.map_congr_left fun m hm => Prod.ext rfl (ih m hm)

/-- Every number of a value has a property. -/
inductive All (P : N → Prop) : Json N → Prop
  | null : All P .null
  | bool (b : Bool) : All P (.bool b)
  | num {n : N} (h : P n) : All P (.num n)
  | str (s : GoString) : All P (.str s)
  | arr {xs : List (Json N)} (h : ∀ x ∈ xs, All P x) : All P (.arr xs)
  | obj {ms : List (GoString × Json N)} (h : ∀ m ∈ ms, All P m.2) : All P (.obj ms)

lemma bind_eq_bind {f g : N → Json M} {v : Json N} : v.bind f = v.bind g ↔ v.All fun n => f n = g n := by
  constructor
  · intro h
    induction v with
    | null => exact .null
    | bool b => exact .bool b
    | num n => exact .num h
    | str s => exact .str s
    | arr xs ih =>
      rw [bind_arr, bind_arr, arr.injEq, List.map_inj_left] at h
      exact .arr fun x hx => ih x hx (h x hx)
    | obj ms ih =>
      rw [bind_obj, bind_obj, obj.injEq, List.map_inj_left] at h
      exact .obj fun m hm => ih m hm (Prod.ext_iff.mp (h m hm)).2
  · intro h
    induction h with
    | null => rfl
    | bool b => rfl
    | num h => exact h
    | str s => rfl
    | arr _ ih =>
      rw [bind_arr, bind_arr, List.map_congr_left ih]
    | @obj ms _ ih =>
      have hms : ms.map (fun m => (m.1, m.2.bind f)) = ms.map (fun m => (m.1, m.2.bind g)) :=
        List.map_congr_left fun m hm => Prod.ext rfl (ih m hm)
      rw [bind_obj, bind_obj, hms]

lemma all_map {f : N → M} {P : M → Prop} (h : ∀ n, P (f n)) (v : Json N) : (v.map f).All P := by
  unfold map
  induction v with
  | null => exact .null
  | bool b => exact .bool b
  | num n => exact .num (h n)
  | str s => exact .str s
  | arr xs ih =>
    rw [bind_arr]
    exact .arr (List.forall_mem_map.mpr ih)
  | obj ms ih =>
    rw [bind_obj]
    exact .obj (List.forall_mem_map.mpr ih)

lemma All.iff {P Q : N → Prop} (h : ∀ n, P n ↔ Q n) {v : Json N} : v.All P ↔ v.All Q := by
  have hPQ : P = Q := funext fun n => propext (h n)
  rw [hPQ]

lemma bind_num_self (v : Json N) : v.bind Json.num = v := by
  induction v with
  | null => rfl
  | bool b => rfl
  | num n => rfl
  | str s => rfl
  | arr xs ih =>
    rw [bind_arr, List.map_congr_left ih, List.map_id']
  | obj ms ih =>
    have hms : ms.map (fun m => (m.1, m.2.bind Json.num)) = ms.map id :=
      List.map_congr_left fun m hm => Prod.ext rfl (ih m hm)
    rw [bind_obj, hms, List.map_id]

/-- The value nests at most that deep, its texts are UTF-8, its members are in order and its numbers have a
property. -/
inductive Fits (P : N → Prop) : Nat → Json N → Prop
  | null (d : Nat) : Fits P d .null
  | bool (d : Nat) (b : Bool) : Fits P d (.bool b)
  | num (d : Nat) {n : N} (h : P n) : Fits P d (.num n)
  | str (d : Nat) {s : GoString} (h : Utf8.Valid s) : Fits P d (.str s)
  | arr {d : Nat} {xs : List (Json N)} (h : ∀ x ∈ xs, Fits P d x) : Fits P (d + 1) (.arr xs)
  | obj {d : Nat} {ms : List (GoString × Json N)} (hsorted : (ms.map Prod.fst).Pairwise (· < ·))
      (hkeys : ∀ m ∈ ms, Utf8.Valid m.1) (h : ∀ m ∈ ms, Fits P d m.2) : Fits P (d + 1) (.obj ms)

lemma Fits.bind {P : N → Prop} {Q : M → Prop} {f : N → Json M} (hf : ∀ n d, P n → Fits Q d (f n)) {d : Nat} {v : Json N}
    (h : Fits P d v) : Fits Q d (v.bind f) := by
  induction h with
  | null d => exact .null d
  | bool d b => exact .bool d b
  | num d h => exact hf _ d h
  | str d h => exact .str d h
  | arr _ ih =>
    rw [bind_arr]
    exact Fits.arr (List.forall_mem_map.mpr ih)
  | @obj d ms hsorted hkeys _ ih =>
    rw [bind_obj]
    apply Fits.obj
    · simpa [List.map_map, Function.comp_def] using hsorted
    · exact List.forall_mem_map.mpr hkeys
    · exact List.forall_mem_map.mpr ih

end Json
