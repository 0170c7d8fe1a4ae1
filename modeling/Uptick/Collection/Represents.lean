import Uptick.Collection.NftStore

/-!
# Stores that hold a ledger

A store represents a ledger and the supply counters of its classes when it holds their records and nothing else. The
two writes of x/nft keep this, and its queries then read the ledger back.
-/

namespace Uptick.Collection.NftStore

open Text Outcome

/-- The records of a ledger with its supply counters. -/
def table (R : Records) (L : NftLedger) (supply : GoString → Nat) : Key → Option GoString
  | .class_ c => (L.getClass c).map (R.marshalClass c)
  | .nft c n => (L.held c n).map fun h => R.marshalNFT c n h.nft
  | .byOwner o c n => (L.held c n).bind fun h => if h.owner = o then some placeholder else none
  | .owner c n => (L.held c n).map (·.owner)
  | .supply c => if supply c = 0 then none else some (BigEndian.encode 8 (supply c))

/-- The store holds the ledger, whose tokens all have keys of their own. -/
structure Represents (R : Records) (B : ByteStore) (L : NftLedger) (supply : GoString → Nat) : Prop where
  holds : layout.Holds B (table R L supply)
  classID : ∀ c n h, L.held c n = some h → 0 ∉ c
  account : ∀ c n h, L.held c n = some h → h.owner.length ≤ 255
  bound : ∀ c, supply c < 2 ^ 64

variable {R : Records} {B : ByteStore} {L : NftLedger} {supply : GoString → Nat} {c n : GoString}

lemma represents_empty (R : Records) : Represents R KVStore.empty NftLedger.empty fun _ => 0 where
  holds := by
    apply layout.holds_empty.congr
    intro a _
    cases a <;> rfl
  classID := by
    intro c n h hh
    cases hh
  account := by
    intro c n h hh
    cases hh
  bound := by simp

namespace Represents

lemma hasClass_eq (h : Represents R B L supply) (c : GoString) : hasClass B c = L.hasClass c := by
  have hget : B.get? (classStoreKey c) = (L.getClass c).map (R.marshalClass c) := h.holds.get? (a := .class_ c) trivial
  simp [hasClass, KVStore.has, hget, NftLedger.hasClass]

lemma hasNFT_eq (h : Represents R B L supply) (hc : 0 ∉ c) : hasNFT B c n = L.hasNFT c n := by
  have hget : B.get? (nftStoreKey c ++ n) = (L.held c n).map fun h => R.marshalNFT c n h.nft :=
    h.holds.get? (a := .nft c n) hc
  simp [hasNFT, KVStore.has, hget, NftLedger.hasNFT]

lemma getClass_eq (h : Represents R B L supply) (c : GoString) : getClass R B c = .ok ((L.getClass c).map (c, ·)) := by
  have hget : B.get? (classStoreKey c) = (L.getClass c).map (R.marshalClass c) := h.holds.get? (a := .class_ c) trivial
  unfold getClass
  rw [hget]
  cases hcl : L.getClass c with
  | none => rfl
  | some cl => simp [R.unmarshalClass_marshalClass, Except.map]

lemma getOwner_eq (h : Represents R B L supply) (hc : 0 ∉ c) : getOwner B c n = L.getOwner c n := by
  have hget : B.get? (ownerStoreKey c n) = (L.held c n).map (·.owner) := h.holds.get? (a := .owner c n) hc
  simp [getOwner, KVStore.get, hget, NftLedger.getOwner]

lemma getTotalSupply_eq (h : Represents R B L supply) (c : GoString) : getTotalSupply B c = supply c := by
  have hget : B.get? (classTotalSupply c) = if supply c = 0 then none else some (BigEndian.encode 8 (supply c)) :=
    h.holds.get? (a := .supply c) trivial
  unfold getTotalSupply KVStore.get
  rw [hget]
  split
  · next hzero => simp [hzero]
  · have hbound := h.bound c
    exact BigEndian.decode_encode_of_lt (by simpa using hbound)

lemma getClasses_spec (h : Represents R B L supply) : ∃ ys, getClasses R B = .ok ys ∧ (ys.map Prod.fst).Nodup ∧
    ∀ y, y ∈ ys ↔ L.getClass y.1 = some y.2 := by
  have hread : ∀ k v, B.get? k = some v → hasPrefix k [0x01] = true →
      ∃ y, R.unmarshalClass v = .ok y ∧ classStoreKey y.1 = k ∧ L.getClass y.1 = some y.2 := by
    intro k v hget hpre
    obtain ⟨a, -, hk, hv⟩ := (h.holds k v).mp hget
    have hkind : a.kind = 0x01 := by
      obtain ⟨rest, hrest⟩ := hasPrefix_iff.mp hpre
      apply Option.some.inj
      rw [← a.head?_bytes, show a.bytes = k from hk, hrest]
      rfl
    cases a <;> try (simp [Key.kind] at hkind; done)
    case class_ c =>
      obtain ⟨cl, hcl, rfl⟩ := Option.map_eq_some_iff.mp hv
      exact ⟨(c, cl), R.unmarshalClass_marshalClass c cl, hk, hcl⟩
  have hstored : ∀ y : GoString × Class, L.getClass y.1 = some y.2 → hasPrefix (classStoreKey y.1) [0x01] = true ∧
      ∃ v, B.get? (classStoreKey y.1) = some v ∧ R.unmarshalClass v = .ok y := by
    intro y hy
    refine ⟨hasPrefix_append [0x01] y.1, R.marshalClass y.1 y.2, ?_, R.unmarshalClass_marshalClass y.1 y.2⟩
    exact (h.holds _ _).mpr ⟨.class_ y.1, trivial, rfl, by simp [table, hy]⟩
  obtain ⟨ys, hys, hnodup, hmem⟩ := KVStore.mapM_withPrefix hread hstored
  refine ⟨ys, hys, ?_, hmem⟩
  rw [show (fun y : GoString × Class => classStoreKey y.1) = classStoreKey ∘ Prod.fst from rfl,
    ← List.map_map] at hnodup
  exact hnodup.of_map

lemma getNFTsOfClass_spec (h : Represents R B L supply) (hc : 0 ∉ c) : ∃ ys, getNFTsOfClass R B c = .ok ys ∧
    (ys.map fun y => y.2.1).Nodup ∧ ∀ y, y ∈ ys ↔ y.1 = c ∧ L.getNFT c y.2.1 = some y.2.2 := by
  have hread : ∀ k v, B.get? k = some v → hasPrefix k (nftStoreKey c) = true →
      ∃ y, R.unmarshalNFT v = .ok y ∧ nftStoreKey c ++ y.2.1 = k ∧ y.1 = c ∧ L.getNFT c y.2.1 = some y.2.2 := by
    intro k v hget hpre
    obtain ⟨a, ha, hk, hv⟩ := (h.holds k v).mp hget
    obtain ⟨rest, hrest⟩ := hasPrefix_iff.mp hpre
    -- The record lies under a key of the token `rest`, so it is that token's.
    obtain rfl : a = .nft c rest := layout.bytes_inj ha hc (hk.trans hrest)
    obtain ⟨held, hheld, rfl⟩ := Option.map_eq_some_iff.mp hv
    exact ⟨(c, rest, held.nft), R.unmarshalNFT_marshalNFT _ _ _, hk, rfl, by simp [NftLedger.getNFT, hheld]⟩
  have hstored : ∀ y : GoString × GoString × NFT, y.1 = c ∧ L.getNFT c y.2.1 = some y.2.2 →
      hasPrefix (nftStoreKey c ++ y.2.1) (nftStoreKey c) = true ∧
        ∃ v, B.get? (nftStoreKey c ++ y.2.1) = some v ∧ R.unmarshalNFT v = .ok y := by
    rintro ⟨c', n, t⟩ ⟨rfl, ht⟩
    refine ⟨hasPrefix_append _ _, R.marshalNFT c' n t, ?_, R.unmarshalNFT_marshalNFT _ _ _⟩
    obtain ⟨held, hheld, rfl⟩ := Option.map_eq_some_iff.mp ht
    exact (h.holds _ _).mpr ⟨.nft c' n, hc, rfl, by simp [table, hheld]⟩
  obtain ⟨ys, hys, hnodup, hmem⟩ := KVStore.mapM_withPrefix hread hstored
  refine ⟨ys, hys, ?_, hmem⟩
  rw [show (fun y : GoString × GoString × NFT => nftStoreKey c ++ y.2.1) =
    (nftStoreKey c ++ ·) ∘ fun y => y.2.1 from rfl,
    ← List.map_map] at hnodup
  exact hnodup.of_map

theorem putClass (h : Represents R B L supply) (c : GoString) (cl : Class) :
    Represents R (B.set (classStoreKey c) (R.marshalClass c cl)) (L.putClass c cl) supply where
  holds := by
    apply (h.holds.set (a := .class_ c) trivial (R.marshalClass c cl)).congr
    intro a _
    cases a with
    | class_ c' =>
      by_cases hcc : c' = c
      · simp [table, NftLedger.putClass, hcc]
      · simp [table, NftLedger.putClass, hcc, Function.update]
    | nft => rfl
    | byOwner => rfl
    | owner => rfl
    | supply => rfl
  classID := h.classID
  account := h.account
  bound := h.bound

theorem putToken (h : Represents R B L supply) {c n : GoString} {t : NFT} {o : AccAddress} (hnew : L.held c n = none)
    (hc : 0 ∉ c) (ho : o.length ≤ 255) (hbound : supply c + 1 < 2 ^ 64) :
    Represents R ((NftStore.putToken R B c n t o).set (classTotalSupply c) (BigEndian.encode 8 (supply c + 1)))
      (L.put c n (some ⟨t, o⟩)) (Function.update supply c (supply c + 1)) where
  holds := by
    have h₁ := h.holds.set (a := .nft c n) hc (R.marshalNFT c n t)
    have h₂ := h₁.set (a := .owner c n) hc o
    have h₃ := h₂.set (a := .byOwner o c n) ⟨ho, hc⟩ placeholder
    have h₄ := h₃.set (a := .supply c) trivial (BigEndian.encode 8 (supply c + 1))
    apply h₄.congr
    intro a _
    cases a with
    | class_ c' => rfl
    | nft c' n' =>
      by_cases hne : c' = c ∧ n' = n
      · simp [table, NftLedger.put, hne, Function.update]
      · simp [table, NftLedger.put, hne, Function.update]
    | byOwner o' c' n' =>
      by_cases hne : c' = c ∧ n' = n
      · obtain ⟨rfl, rfl⟩ := hne
        by_cases hoo : o' = o
        · simp [table, NftLedger.put, hoo, Function.update]
        · simp [table, NftLedger.put, hnew, hoo, Ne.symm hoo, Function.update]
      · simp [table, NftLedger.put, hne, Function.update]
    | owner c' n' =>
      by_cases hne : c' = c ∧ n' = n
      · simp [table, NftLedger.put, hne, Function.update]
      · simp [table, NftLedger.put, hne, Function.update]
    | supply c' =>
      by_cases hcc : c' = c
      · simp [table, hcc, Function.update]
      · simp [table, hcc, Function.update]
  classID := by
    intro c' n' k hk
    by_cases he : (c', n') = (c, n)
    · cases he
      exact hc
    · rw [NftLedger.held_put_of_ne _ _ he] at hk
      exact h.classID c' n' k hk
  account := by
    intro c' n' k hk
    by_cases he : (c', n') = (c, n)
    · cases he
      rw [NftLedger.held_put_self] at hk
      cases hk
      exact ho
    · rw [NftLedger.held_put_of_ne _ _ he] at hk
      exact h.account c' n' k hk
  bound := by
    intro c'
    by_cases hcc : c' = c
    · rw [hcc, Function.update_self]
      exact hbound
    · rw [Function.update_of_ne hcc]
      exact h.bound c'

variable {K : Keeper}

theorem saveClass {B : ByteStore} (h : Represents K.toRecords B L supply) {c : GoString} (cl : Class)
    (hnew : L.getClass c = none) (hlen : c.length < K.maxKeyLength) :
    ∃ B', K.saveClass B c cl = .ok B' ∧ Represents K.toRecords B' (L.putClass c cl) supply := by
  have hno : hasClass B c = false := by
    rw [h.hasClass_eq, NftLedger.hasClass, hnew]
    rfl
  have hkey : validKey K.toRecords (Key.class_ c).bytes = true := validKey_bytes.mpr hlen
  exact ⟨_, K.saveClass_eq_ok.mpr ⟨hno, set_eq_ok.mpr ⟨hkey, rfl⟩⟩, h.putClass c cl⟩

theorem mint {B : ByteStore} (h : Represents K.toRecords B L supply) {c n : GoString} (t : NFT) {o : AccAddress}
    (hclass : L.hasClass c = true) (hnew : L.held c n = none) (hc : 0 ∉ c) (hfit : KeysFit K.toRecords c n o)
    (hbound : supply c + 1 < 2 ^ 64) :
    ∃ B', K.mint B c n t o = .ok B' ∧
      Represents K.toRecords B' (L.put c n (some ⟨t, o⟩)) (Function.update supply c (supply c + 1)) := by
  have hno : hasNFT B c n = false := by
    rw [h.hasNFT_eq hc, NftLedger.hasNFT, hnew]
    rfl
  have hkey : validKey K.toRecords (Key.supply c).bytes = true := by
    have hlen := hfit.length
    rw [validKey_bytes]
    simp only [Key.bytes, classTotalSupply, List.length_cons]
    omega
  refine ⟨_, K.mint_eq_ok.mpr ⟨by rw [h.hasClass_eq, hclass], hno, _, setToken_eq_ok.mpr ⟨hfit, rfl⟩,
    set_eq_ok.mpr ⟨hkey, rfl⟩⟩, ?_⟩
  rw [getTotalSupply_putToken, h.getTotalSupply_eq]
  exact h.putToken hnew hc hfit.account hbound

end Represents

end Uptick.Collection.NftStore
