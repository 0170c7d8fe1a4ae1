import Uptick.Collection.Builder

/-!
# What the builders read and write

The maps that the builders decode, fill and encode, and what is left of the data of a record once the fields of the
module are taken out again.
-/

namespace Uptick.Collection

open Text Outcome Decimal

/-- The members are in order, their keys are UTF-8, and the values nest less deep than a text may. -/
structure MembersFit (ms : Members) : Prop where
  sorted : (ms.map Prod.fst).Pairwise (· < ·)
  keys : ∀ m ∈ ms, Utf8.Valid m.1
  values : ∀ m ∈ ms, m.2.Fits (fun _ => True) 9999

namespace MembersFit

variable {ms : Members}

lemma fits (h : MembersFit ms) : (Json.obj ms).Fits (fun _ => True) Json.maxNestingDepth :=
  .obj h.sorted h.keys h.values

lemma of_fits (h : (Json.obj ms).Fits (fun _ => True) Json.maxNestingDepth) : MembersFit ms := by
  generalize hd : Json.maxNestingDepth = d at h
  cases h with
  | @obj d _ hsorted hkeys hvalues =>
    obtain rfl : d = 9999 := (Nat.succ.inj hd).symm
    exact ⟨hsorted, hkeys, hvalues⟩

lemma nil : MembersFit [] :=
  ⟨.nil, fun _ hm => absurd hm List.not_mem_nil, fun _ hm => absurd hm List.not_mem_nil⟩

lemma insert (h : MembersFit ms) {k : GoString} {v : Json Double} (hk : Utf8.Valid k)
    (hv : v.Fits (fun _ => True) 9999) : MembersFit (KVStore.insert ms k v) :=
  ⟨KVStore.sorted_insert k v h.sorted, Json.forall_mem_insert h.keys hk, Json.forall_mem_insert h.values hv⟩

lemma filter (h : MembersFit ms) (p : GoString × Json Double → Bool) : MembersFit (ms.filter p) :=
  ⟨h.sorted.sublist (List.filter_sublist.map Prod.fst), fun m hm => h.keys m (List.mem_filter.mp hm).1,
    fun m hm => h.values m (List.mem_filter.mp hm).1⟩

lemma erase (h : MembersFit ms) (k : GoString) : MembersFit (KVStore.erase ms k) := h.filter _

end MembersFit

lemma mem_of_lookup {V : Type} {ms : List (GoString × V)} {k : GoString} {v : V} (h : KVStore.lookup ms k = some v) :
    (k, v) ∈ ms := by
  induction ms with
  | nil => cases h
  | cons m ms ih =>
    obtain ⟨k', v'⟩ := m
    unfold KVStore.lookup at h
    split at h
    · rename_i hk
      rw [hk, Option.some.inj h]
      exact List.mem_cons_self
    · exact List.mem_cons_of_mem _ (ih h)

lemma fits_mediaField {v : Json Double} (hv : v.Fits (fun _ => True) 9998) :
    (mediaField v).Fits (fun _ => True) 9999 := by
  have hkey : Utf8.Valid keyMediaFieldValue := Utf8.validString_eq_true.mp (by decide)
  apply Json.Fits.obj
  · simp
  · simpa using hkey
  · simpa using hv

lemma MembersFit.mediaValue {ms : Members} (h : MembersFit ms) {key : GoString} {v : Json Double}
    (hv : mediaValue ms key = some v) : v.Fits (fun _ => True) 9998 := by
  unfold Collection.mediaValue at hv
  split at hv
  · rename_i vMap hlookup
    have hobj := h.values _ (mem_of_lookup hlookup)
    dsimp only at hobj
    generalize hd : 9999 = d at hobj
    cases hobj with
    | @obj d _ _ _ hvalues =>
      obtain rfl : d = 9998 := by omega
      exact hvalues _ (mem_of_lookup hv)
  · cases hv

lemma MembersFit.takeString {ms : Members} (h : MembersFit ms) (key : GoString) {default : GoString}
    (hdefault : Utf8.Valid default) :
    Utf8.Valid (takeString ms key default).1 ∧ MembersFit (takeString ms key default).2 := by
  unfold Collection.takeString
  split
  · rename_i s hs
    have hfits := h.mediaValue hs
    cases hfits with
    | str _ hvalid => exact ⟨hvalid, h.erase key⟩
  · exact ⟨hdefault, h⟩

lemma MembersFit.takeBool {ms : Members} (h : MembersFit ms) (key : GoString) (default : Bool) :
    MembersFit (takeBool ms key default).2 := by
  unfold Collection.takeBool
  split
  · exact h.erase key
  · exact h

lemma membersFit_decoded {s : GoString} {ms : List (GoString × Json Literal)} (h : Json.parse s = some (.obj ms)) :
    MembersFit (Json.bindMembers Json.ofLiteral ms) := by
  apply MembersFit.of_fits
  exact Json.fits_decoded (Json.fits_of_parse h)

lemma membersFit_unmarshalMap (s : GoString) : MembersFit ((Json.unmarshalMap s).1.getD []) := by
  unfold Json.unmarshalMap
  split
  · exact .nil
  · rename_i ms hparse
    exact membersFit_decoded hparse
  · exact .nil

lemma membersFit_readData (data : GoString) : MembersFit (readData data).1 := by
  unfold readData
  split
  · exact .nil
  · exact membersFit_unmarshalMap data

def insertAll (ms fields : Members) : Members := fields.foldl (fun ms f => KVStore.insert ms f.1 f.2) ms

def withoutKeys {V : Type} (ms : List (GoString × V)) (keys : List GoString) : List (GoString × V) :=
  ms.filter fun m => m.1 ∉ keys

lemma withoutKeys_nil {V : Type} (ms : List (GoString × V)) : withoutKeys ms [] = ms := by
  simp [withoutKeys]

lemma withoutKeys_congr {V : Type} {keys keys' : List GoString} (h : ∀ k, k ∈ keys ↔ k ∈ keys')
    (ms : List (GoString × V)) : withoutKeys ms keys = withoutKeys ms keys' := by
  simp only [withoutKeys, h]

lemma erase_withoutKeys {V : Type} (ms : List (GoString × V)) (keys : List GoString) (k : GoString) :
    KVStore.erase (withoutKeys ms keys) k = withoutKeys ms (k :: keys) := by
  rw [KVStore.erase, withoutKeys, withoutKeys, List.filter_filter]
  congr 1
  funext m
  simp

lemma lookup_withoutKeys {V : Type} (ms : List (GoString × V)) {keys : List GoString} {k : GoString} (hk : k ∉ keys) :
    KVStore.lookup (withoutKeys ms keys) k = KVStore.lookup ms k := by
  induction ms with
  | nil => rfl
  | cons m ms ih =>
    obtain ⟨k', v'⟩ := m
    by_cases hmem : k' ∈ keys
    · have hne : k' ≠ k := by
        rintro rfl
        exact hk hmem
      have hdrop : withoutKeys ((k', v') :: ms) keys = withoutKeys ms keys := by simp [withoutKeys, hmem]
      rw [hdrop, ih, KVStore.lookup, if_neg hne]
    · have hkeep : withoutKeys ((k', v') :: ms) keys = (k', v') :: withoutKeys ms keys := by simp [withoutKeys, hmem]
      rw [hkeep, KVStore.lookup, KVStore.lookup, ih]

lemma withoutKeys_insert {V : Type} (ms : List (GoString × V)) {keys : List GoString} {k : GoString} (hk : k ∈ keys)
    (v : V) : withoutKeys (KVStore.insert ms k v) keys = withoutKeys ms keys := by
  induction ms with
  | nil => simp [KVStore.insert, withoutKeys, hk]
  | cons m ms ih =>
    obtain ⟨k', v'⟩ := m
    unfold KVStore.insert
    split_ifs with hlt heq
    · simp [withoutKeys, hk]
    · simp [withoutKeys, hk, heq]
    · unfold withoutKeys at ih ⊢
      rw [List.filter_cons, List.filter_cons, ih]

/-- Once its fields are taken out, nothing of what the module wrote is left. -/
lemma withoutKeys_insertAll (ms fields : Members) {keys : List GoString} (h : ∀ f ∈ fields, f.1 ∈ keys) :
    withoutKeys (insertAll ms fields) keys = withoutKeys ms keys := by
  induction fields generalizing ms with
  | nil => rfl
  | cons f fields ih =>
    rw [insertAll, List.foldl_cons]
    exact (ih _ fun f hf => h f (List.mem_cons_of_mem _ hf)).trans (withoutKeys_insert ms (h f List.mem_cons_self) f.2)

lemma MembersFit.insertAll {ms fields : Members} (h : MembersFit ms)
    (hfields : ∀ f ∈ fields, Utf8.Valid f.1 ∧ f.2.Fits (fun _ => True) 9999) : MembersFit (insertAll ms fields) := by
  induction fields generalizing ms with
  | nil => exact h
  | cons f fields ih =>
    have hf := hfields f List.mem_cons_self
    exact ih (h.insert hf.1 hf.2) fun f hf => hfields f (List.mem_cons_of_mem _ hf)

lemma lookup_insertAll_of_notMem {ms fields : Members} (hms : (ms.map Prod.fst).Pairwise (· < ·)) {k : GoString}
    (hk : k ∉ fields.map Prod.fst) : KVStore.lookup (insertAll ms fields) k = KVStore.lookup ms k := by
  induction fields generalizing ms with
  | nil => rfl
  | cons f fields ih =>
    rw [List.map_cons, List.mem_cons, not_or] at hk
    have hrest := ih (KVStore.sorted_insert f.1 f.2 hms) hk.2
    rw [KVStore.lookup_insert _ _ _ _ hms, if_neg hk.1] at hrest
    exact hrest

/-- A field of the module holds what the module wrote, whatever the data of the user holds there. -/
lemma lookup_insertAll {ms fields : Members} (hms : (ms.map Prod.fst).Pairwise (· < ·))
    (hnodup : (fields.map Prod.fst).Nodup) {k : GoString} {v : Json Double} (h : (k, v) ∈ fields) :
    KVStore.lookup (insertAll ms fields) k = some v := by
  induction fields generalizing ms with
  | nil => cases h
  | cons f fields ih =>
    rw [List.map_cons, List.nodup_cons] at hnodup
    have hsorted := KVStore.sorted_insert f.1 f.2 hms
    rcases List.mem_cons.mp h with rfl | h
    · have hlookup := lookup_insertAll_of_notMem hsorted hnodup.1
      rw [KVStore.lookup_insert _ _ _ _ hms, if_pos rfl] at hlookup
      exact hlookup
    · exact ih hsorted hnodup.2 h

lemma mediaValue_insertAll {ms fields : Members} (hms : (ms.map Prod.fst).Pairwise (· < ·))
    (hnodup : (fields.map Prod.fst).Nodup) {k : GoString} {v : Json Double} (h : (k, mediaField v) ∈ fields) :
    mediaValue (insertAll ms fields) k = some v := by
  rw [mediaValue, lookup_insertAll hms hnodup h]
  rfl

section Take

variable {ms : Members} {keys : List GoString} {key : GoString}

lemma mediaValue_withoutKeys (ms : Members) (hkey : key ∉ keys) :
    mediaValue (withoutKeys ms keys) key = mediaValue ms key := by
  rw [mediaValue, mediaValue, lookup_withoutKeys ms hkey]

lemma takeString_withoutKeys (hkey : key ∉ keys) {s : GoString} (h : mediaValue ms key = some (.str s))
    (default : GoString) : takeString (withoutKeys ms keys) key default = (s, withoutKeys ms (key :: keys)) := by
  rw [takeString, mediaValue_withoutKeys ms hkey, h]
  dsimp only
  rw [erase_withoutKeys]

lemma takeBool_withoutKeys (hkey : key ∉ keys) {b : Bool} (h : mediaValue ms key = some (.bool b)) (default : Bool) :
    takeBool (withoutKeys ms keys) key default = (b, withoutKeys ms (key :: keys)) := by
  rw [takeBool, mediaValue_withoutKeys ms hkey, h]
  dsimp only
  rw [erase_withoutKeys]

end Take

/-- Equal as JSON values where the first text is JSON, and equal byte for byte otherwise. -/
def SameData (data data' : GoString) : Prop :=
  match Json.value data with
  | some v => Json.value data' = some v
  | none => data = data'

/-- The data is empty, or it is a nonempty JSON object without the keys of the module, whose numbers are kept by
doubles and whose text is not too long once it is printed again. -/
def DataRestorable (keys : List GoString) (maxLen : Nat) (data : GoString) : Prop :=
  data = [] ∨ ∃ ms, Json.parse data = some (.obj ms) ∧ ms ≠ [] ∧ (∀ k ∈ keys, k ∉ ms.map Prod.fst) ∧
    (Json.obj ms).All Json.Exact ∧ (Json.marshal (Json.decoded (.obj ms))).length ≤ maxLen

lemma sameData_nil_right {data : GoString} : SameData data [] ↔ data = [] := by
  have hnil : Json.value [] = none := rfl
  unfold SameData
  constructor
  · intro h
    split at h
    · rw [hnil] at h
      cases h
    · exact h
  · rintro rfl
    rw [hnil]

lemma readData_obj {data : GoString} {ms : List (GoString × Json Literal)} (h : Json.parse data = some (.obj ms)) :
    (readData data).1 = Json.bindMembers Json.ofLiteral ms := by
  have hne : data.length ≠ 0 := by
    intro hlen
    rw [List.length_eq_zero_iff.mp hlen] at h
    cases h
  rw [readData, if_neg hne, Json.unmarshalMap, h]
  rfl

lemma readData_of_not_obj {data : GoString} (h : ∀ ms, Json.parse data ≠ some (.obj ms)) : (readData data).1 = [] := by
  unfold readData
  split
  · rfl
  · unfold Json.unmarshalMap
    split
    · rfl
    · rename_i ms hparse
      exact absurd hparse (h ms)
    · rfl

lemma keys_bindMembers (f : Literal → Json Double) (ms : List (GoString × Json Literal)) :
    (Json.bindMembers f ms).map Prod.fst = ms.map Prod.fst := by
  rw [Json.bindMembers_eq_map, List.map_map]
  rfl

lemma withoutKeys_of_disjoint {V : Type} {ms : List (GoString × V)} {keys : List GoString}
    (h : ∀ k ∈ keys, k ∉ ms.map Prod.fst) : withoutKeys ms keys = ms := by
  apply List.filter_eq_self.mpr
  intro m hm
  rw [decide_eq_true_eq]
  intro hk
  exact h _ hk (List.mem_map_of_mem hm)

/-- The keys of an object can be read off its text. -/
lemma keys_eq_of_value_eq {data : GoString} {ms : List (GoString × Json Literal)} (h : Json.parse data = some (.obj ms))
    {rest : Members} (hrest : MembersFit rest) (hvalue : Json.value (Json.marshal (.obj rest)) = Json.value data) :
    rest.map Prod.fst = ms.map Prod.fst := by
  rw [Json.value, Json.value, h, Json.parse_marshal hrest.fits, Option.map_some, Option.map_some, Option.some.injEq,
    Json.map, Json.map, Json.map, Json.bind_obj, Json.bind_obj, Json.bind_obj, Json.obj.injEq] at hvalue
  have hkeys := congrArg (List.map Prod.fst) hvalue
  simpa [List.map_map, Function.comp_def] using hkeys

lemma withoutKeys_readData {keys : List GoString} {data : GoString} {ms : List (GoString × Json Literal)}
    (hparse : Json.parse data = some (.obj ms)) (hdisjoint : ∀ k ∈ keys, k ∉ ms.map Prod.fst) :
    withoutKeys (readData data).1 keys = Json.bindMembers Json.ofLiteral ms := by
  rw [readData_obj hparse]
  apply withoutKeys_of_disjoint
  rwa [keys_bindMembers]

lemma writeData_readData {keys : List GoString} {data : GoString} {ms : List (GoString × Json Literal)}
    (hparse : Json.parse data = some (.obj ms)) (hne : ms ≠ []) (hdisjoint : ∀ k ∈ keys, k ∉ ms.map Prod.fst) :
    writeData (withoutKeys (readData data).1 keys) = Json.marshal (Json.decoded (.obj ms)) := by
  have hne' : Json.bindMembers Json.ofLiteral ms ≠ [] := by
    rw [Json.bindMembers_eq_map]
    simpa using hne
  rw [withoutKeys_readData hparse hdisjoint, writeData, if_neg hne']
  rfl

lemma sameData_writeData_obj {keys : List GoString} {data : GoString} {ms : List (GoString × Json Literal)}
    (hparse : Json.parse data = some (.obj ms)) :
    SameData data (writeData (withoutKeys (readData data).1 keys)) ↔
      ms ≠ [] ∧ (∀ k ∈ keys, k ∉ ms.map Prod.fst) ∧ (Json.obj ms).All Json.Exact := by
  have hvalue : Json.value data = some ((Json.obj ms).map Literal.value) := by
    rw [Json.value, hparse, Option.map_some]
  have hsame : ∀ data', SameData data data' ↔ Json.value data' = Json.value data := by
    intro data'
    rw [SameData, hvalue]
  rw [hsame]
  constructor
  · intro h
    unfold writeData at h
    split at h
    · rw [hvalue] at h
      cases h
    · rename_i hne
      have hrest := keys_eq_of_value_eq hparse ((membersFit_readData data).filter _) h
      have hdisjoint : ∀ k ∈ keys, k ∉ ms.map Prod.fst := by
        intro k hk hmem
        rw [← hrest, List.mem_map] at hmem
        obtain ⟨m, hm, rfl⟩ := hmem
        exact of_decide_eq_true (List.mem_filter.mp hm).2 hk
      rw [withoutKeys_readData hparse hdisjoint] at h hne
      refine ⟨?_, hdisjoint, (Json.value_marshal_decoded hparse).mp h⟩
      rintro rfl
      exact hne rfl
  · rintro ⟨hne, hdisjoint, hexact⟩
    rw [writeData_readData hparse hne hdisjoint]
    exact (Json.value_marshal_decoded hparse).mpr hexact

/-- What is left of the data is the data itself, within the bound, exactly when it is restorable. -/
theorem sameData_writeData_iff {keys : List GoString} {maxLen : Nat} {data : GoString} :
    (SameData data (writeData (withoutKeys (readData data).1 keys)) ∧
      (writeData (withoutKeys (readData data).1 keys)).length ≤ maxLen) ↔ DataRestorable keys maxLen data := by
  by_cases hobj : ∃ ms, Json.parse data = some (.obj ms)
  · obtain ⟨ms, hparse⟩ := hobj
    have hne : data ≠ [] := by
      rintro rfl
      cases hparse
    rw [sameData_writeData_obj hparse]
    constructor
    · rintro ⟨⟨hms, hdisjoint, hexact⟩, hbound⟩
      rw [writeData_readData hparse hms hdisjoint] at hbound
      exact Or.inr ⟨ms, hparse, hms, hdisjoint, hexact, hbound⟩
    · rintro (hnil | ⟨ms', hparse', hms, hdisjoint, hexact, hbound⟩)
      · exact absurd hnil hne
      · obtain rfl : ms = ms' := by
          rw [hparse] at hparse'
          exact Json.obj.inj (Option.some.inj hparse')
        rw [writeData_readData hparse hms hdisjoint]
        exact ⟨⟨hms, hdisjoint, hexact⟩, hbound⟩
  · have hread : (readData data).1 = [] := readData_of_not_obj fun ms h => hobj ⟨ms, h⟩
    have hwrite : writeData (withoutKeys (readData data).1 keys) = [] := by
      rw [hread]
      rfl
    rw [hwrite, sameData_nil_right]
    constructor
    · rintro ⟨hnil, -⟩
      exact Or.inl hnil
    · rintro (hnil | ⟨ms, hparse, -⟩)
      · exact ⟨hnil, Nat.zero_le _⟩
      · exact absurd ⟨ms, hparse⟩ hobj

end Uptick.Collection
