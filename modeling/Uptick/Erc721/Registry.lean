import Uptick.Erc721.Prepare

/-!
# The registry of pairs

A contract leads to a pair of that very contract. The maps of the store do not say so by themselves; it is
what registration writes.
-/

namespace Uptick.Erc721

open Text Evm Outcome Collection

variable {X : Extern} {st : Store}

/-- The pair that a contract leads to is a pair of that contract. -/
def RegistryConsistent (X : Extern) (st : Store) : Prop :=
  ∀ c pair, getPairByEVM X st c = .ok pair → pair.getERC721Contract = hexToAddress c

lemma getERC721Contract_newTokenPair (a : Address) (K : GoString) :
    (newTokenPair X a K).getERC721Contract = a := by
  rw [newTokenPair, TokenPair.getERC721Contract, toLower_hex, hexToAddress_lowerHex]

lemma mapKey_ne_nil (a : Address) : toLower (a.hex X.keccak256) ≠ [] := by
  rw [toLower_hex]
  simp [Address.lowerHex, str_0x]

lemma getPairByEVM_putPair {c K : GoString} {a : Address} {pair : TokenPair}
    (hfree : isERC721Registered X st a = false) (hc : hexToAddress c = a)
    (h : getPairByEVM X (putPair X st a K) c = .ok pair) : pair = newTokenPair X a K := by
  obtain ⟨hid, hget⟩ := getPairByEVM_eq_ok.mp h
  rw [hc] at hid hget
  have hmap : getERC721Map X (putPair X st a K) a = (newTokenPair X a K).getID X := by
    have hval : (putPair X st a K).tokenPairByERC721.get (toLower (a.hex X.keccak256)) =
        (newTokenPair X a K).getID X := by
      apply KVStore.get_of_get?
      simp only [putPair, setERC721Map, KVStore.get?_set _ (mapKey_ne_nil a), if_true]
    unfold getERC721Map
    simp only [hval]
    split
    · -- an empty id falls back to the raw key, which is not there
      next hnil =>
      rw [hnil]
      apply KVStore.get_eq_nil
      simp only [isERC721Registered, Bool.or_eq_false_iff, KVStore.has, Option.isSome_eq_false_iff,
        Option.isNone_iff_eq_none] at hfree
      simp only [putPair, setERC721Map, KVStore.get?_set _ (mapKey_ne_nil a)]
      split
      · next heq =>
        -- the raw key has twenty bytes, the text forty-two
        exfalso
        have hlen := congrArg List.length heq
        rw [a.length_bytes, toLower_hex] at hlen
        simp [Address.lowerHex, str_0x, a.length_digits] at hlen
      · exact hfree.2
    · rfl
  rw [hmap] at hid hget
  simp only [putPair, setERC721Map, setClassMap, setTokenPair, KVStore.get?_set _ hid, if_true,
    Option.some.injEq] at hget
  exact hget.symm

variable {C : Chain} {w w₁ : World C}

lemma hexToAddress_canonical {c : GoString} (hc : isHexAddress c = true) :
    hexToAddress (canonicalContractAddress c) = hexToAddress c ∧
      isHexAddress (canonicalContractAddress c) = true := by
  cases hx : has0xPrefix c with
  | true =>
    rw [canonicalContractAddress_of_0x hc hx]
    simp
  | false =>
    rw [canonicalContractAddress_of_plain hc hx]
    exact ⟨hexToAddress_digits _, isHexAddress_digits _⟩

lemma contract_of_registered {msg : MsgConvertERC721} {K : GoString} {pair : TokenPair}
    (hreg : RegistryConsistent C.toExtern w.erc721) (h : ensureRegisteredERC721 w msg = .ok (w₁, K))
    (hpair : getPairByEVM C.toExtern w₁.erc721 msg.evmContractAddress = .ok pair) :
    pair.getERC721Contract = hexToAddress msg.evmContractAddress := by
  obtain ⟨rfl, -⟩ | reg := ensureRegisteredERC721_cases h
  · exact hreg _ _ hpair
  · obtain ⟨fields, nft, -, rfl⟩ := reg.saved
    rw [getPairByEVM_putPair reg.contract_free rfl hpair]
    exact getERC721Contract_newTokenPair _ _

structure SameRegistry (st st' : Store) : Prop where
  tokenPair : st'.tokenPair = st.tokenPair
  byERC721 : st'.tokenPairByERC721 = st.tokenPairByERC721
  byClass : st'.tokenPairByClass = st.tokenPairByClass

namespace SameRegistry

lemma refl (st : Store) : SameRegistry st st := ⟨rfl, rfl, rfl⟩

lemma symm {st' : Store} (h : SameRegistry st st') : SameRegistry st' st :=
  ⟨h.tokenPair.symm, h.byERC721.symm, h.byClass.symm⟩

lemma trans {st' st'' : Store} (h : SameRegistry st st') (h' : SameRegistry st' st'') : SameRegistry st st'' :=
  ⟨h'.tokenPair.trans h.tokenPair, h'.byERC721.trans h.byERC721, h'.byClass.trans h.byClass⟩

lemma foldl {α : Type} {f : Store → α → Store} (hf : ∀ st x, SameRegistry st (f st x)) (xs : List α)
    (st : Store) : SameRegistry st (xs.foldl f st) := by
  induction xs generalizing st with
  | nil => exact refl st
  | cons x xs ih => exact (hf st x).trans (ih (f st x))

end SameRegistry

lemma sameRegistry_deletePairPerTokenState (st : Store) (pair : TokenPair) :
    SameRegistry st (deletePairPerTokenState st pair) := by
  have hfwd : ∀ st uid, SameRegistry st (deleteScannedTokenUID st uid) := by
    intro st uid
    unfold deleteScannedTokenUID
    dsimp only
    split <;> exact ⟨rfl, rfl, rfl⟩
  have hrev : ∀ st uid, SameRegistry st (deleteScannedNFTUID st uid) := by
    intro st uid
    unfold deleteScannedNFTUID
    dsimp only
    split <;> exact ⟨rfl, rfl, rfl⟩
  exact ((SameRegistry.foldl hfwd _ st).trans (SameRegistry.foldl hrev _ _)).trans ⟨rfl, rfl, rfl⟩

lemma sameRegistry_bindPairs {C : Chain} {st st' : Store} {c K : GoString} {ids : List (GoString × GoString)}
    (h : bindPairs (C := C) st c K ids = .ok st') : SameRegistry st st' := by
  refine @forEach_invariant _ _ _ _ (fun s => SameRegistry st s) _ (fun s x s' _ hs hstep => ?_) _ _
    (SameRegistry.refl st) h
  obtain ⟨v, legacy, -, rfl⟩ := bindPair_eq_ok.mp hstep
  exact hs.trans ⟨rfl, rfl, rfl⟩

lemma sameRegistry_settleIndex {C : Chain} {st st' : Store} {pair : TokenPair} {msg : MsgConvertERC721}
    (h : settleIndex (C := C) st pair msg = .ok st') : SameRegistry st st' := by
  unfold settleIndex at h
  dsimp only at h
  split at h
  · cases h
    refine SameRegistry.foldl (fun st x => ?_) _ st
    unfold deleteVoucherBindingKeys
    rw [deleteNFTPairByTokenID_eq]
    exact ⟨rfl, rfl, rfl⟩
  · exact sameRegistry_bindPairs h

def TokenPair.text (tp : TokenPair) : GoString := tp.erc721Address ++ str "|" ++ tp.classId

def PairsIn (D : Set GoString) (st : Store) : Prop :=
  ∀ id pair, st.tokenPair.get? id = some pair → pair.text ∈ D

/-- Every pair is stored under its own id, with an address in lower case, and both maps lead to it; an id in
one of the maps is the id of a pair of that contract or class. -/
structure RegistryInv (X : Extern) (D : Set GoString) (st : Store) : Prop where
  pair : ∀ id pair, st.tokenPair.get? id = some pair → id = pair.getID X ∧ pair.text ∈ D ∧
    (∃ a : Address, pair.erc721Address = a.lowerHex) ∧ comma ∉ pair.classId ∧ isIBCDenom pair.classId = false
  mapped : ∀ id pair, st.tokenPair.get? id = some pair →
    st.tokenPairByERC721.get? pair.erc721Address = some id ∧ st.tokenPairByClass.get? pair.classId = some id
  byERC721 : ∀ key id, st.tokenPairByERC721.get? key = some id → ∃ a : Address, key = a.lowerHex ∧
    (id ≠ [] → ∃ K, id = TokenPair.getID X ⟨key, K⟩ ∧ TokenPair.text ⟨key, K⟩ ∈ D)
  byClass : ∀ K id, st.tokenPairByClass.get? K = some id → id ≠ [] → ∃ a : Address,
    id = TokenPair.getID X ⟨a.lowerHex, K⟩ ∧ TokenPair.text ⟨a.lowerHex, K⟩ ∈ D

lemma lowerHex_append_inj {a a' : Address} {s s' : GoString} (h : a.lowerHex ++ s = a'.lowerHex ++ s') :
    a = a' ∧ s = s' := by
  obtain ⟨haddr, hrest⟩ := List.append_inj h (by simp [Address.lowerHex, Address.length_digits])
  exact ⟨lowerHex_injective haddr, hrest⟩

lemma text_inj {p q : TokenPair} {a a' : Address} (hp : p.erc721Address = a.lowerHex)
    (hq : q.erc721Address = a'.lowerHex) (h : p.text = q.text) : p = q := by
  unfold TokenPair.text at h
  rw [hp, hq, List.append_assoc, List.append_assoc] at h
  obtain ⟨rfl, hclass⟩ := lowerHex_append_inj h
  have hK : p.classId = q.classId := List.append_cancel_left hclass
  obtain ⟨addr, K⟩ := p
  obtain ⟨addr', K'⟩ := q
  obtain rfl : addr = a.lowerHex := hp
  obtain rfl : addr' = a.lowerHex := hq
  obtain rfl : K = K' := hK
  rfl

namespace RegistryInv

variable {D : Set GoString}

lemma of_empty (hpair : st.tokenPair = .empty) (hmap : st.tokenPairByERC721 = .empty)
    (hclass : st.tokenPairByClass = .empty) : RegistryInv X D st where
  pair := by
    intro id pair h
    rw [hpair] at h
    cases h
  mapped := by
    intro id pair h
    rw [hpair] at h
    cases h
  byERC721 := by
    intro key id h
    rw [hmap] at h
    cases h
  byClass := by
    intro K id h
    rw [hclass] at h
    cases h

lemma congr {st' : Store} (h : RegistryInv X D st) (hs : SameRegistry st st') : RegistryInv X D st' where
  pair := by
    rw [hs.tokenPair]
    exact h.pair
  mapped := by
    rw [hs.tokenPair, hs.byERC721, hs.byClass]
    exact h.mapped
  byERC721 := by
    rw [hs.byERC721]
    exact h.byERC721
  byClass := by
    rw [hs.byClass]
    exact h.byClass

lemma getERC721Map_eq (h : RegistryInv X D st) (a : Address) :
    getERC721Map X st a = st.tokenPairByERC721.get a.lowerHex := by
  unfold getERC721Map
  rw [toLower_hex]
  dsimp only
  split
  · next hnil =>
    rw [hnil]
    apply KVStore.get_eq_nil
    cases hget : st.tokenPairByERC721.get? a.bytes with
    | none => rfl
    | some id =>
      obtain ⟨a', hkey, -⟩ := h.byERC721 _ _ hget
      have hlen := congrArg List.length hkey
      rw [a.length_bytes] at hlen
      simp [Address.lowerHex, str_0x, Address.length_digits] at hlen
  · rfl

theorem consistent (h : RegistryInv X D st) (hinj : Set.InjOn X.tmhash D) : RegistryConsistent X st := by
  intro c pair hpair
  obtain ⟨hid, hget⟩ := getPairByEVM_eq_ok.mp hpair
  rw [h.getERC721Map_eq] at hid hget
  obtain ⟨hpid, hpD, ⟨a, ha⟩, -, -⟩ := h.pair _ _ hget
  obtain ⟨-, -, hrest⟩ := h.byERC721 _ _ (KVStore.get?_of_get rfl hid)
  obtain ⟨K, hK, hKD⟩ := hrest hid
  have htext : TokenPair.text ⟨(hexToAddress c).lowerHex, K⟩ = pair.text := hinj hKD hpD (hK.symm.trans hpid)
  rw [← text_inj rfl ha htext, TokenPair.getERC721Contract, hexToAddress_lowerHex]

theorem classId_eq (h : RegistryInv X D st) (hinj : Set.InjOn X.tmhash D) {K : GoString} {pair : TokenPair}
    (hpair : getPairByClass st K = .ok pair) : pair.classId = K := by
  obtain ⟨hid, hget⟩ := pairById_eq_ok.mp hpair
  obtain ⟨hpid, hpD, ⟨a, ha⟩, -, -⟩ := h.pair _ _ hget
  unfold getClassMap at hid hpid
  obtain ⟨a', hK, hKD⟩ := h.byClass K _ (KVStore.get?_of_get rfl hid) hid
  have htext : TokenPair.text ⟨a'.lowerHex, K⟩ = pair.text := hinj hKD hpD (hK.symm.trans hpid)
  rw [← text_inj rfl ha htext]

lemma putPair (h : RegistryInv X D st) {a : Address} {K : GoString}
    (hcontract : isERC721Registered X st a = false) (hclass : isClassRegistered st K = false) (hK : comma ∉ K)
    (hibc : isIBCDenom K = false) (hne : K ≠ []) (hD : PairsIn D (Erc721.putPair X st a K)) :
    RegistryInv X D (Erc721.putPair X st a K) := by
  have hpair : newTokenPair X a K = ⟨a.lowerHex, K⟩ := by rw [newTokenPair, toLower_hex]
  have hput : Erc721.putPair X st a K =
      { st with
        tokenPair := st.tokenPair.set (TokenPair.getID X ⟨a.lowerHex, K⟩) ⟨a.lowerHex, K⟩
        tokenPairByClass := st.tokenPairByClass.set K (TokenPair.getID X ⟨a.lowerHex, K⟩)
        tokenPairByERC721 := st.tokenPairByERC721.set a.lowerHex (TokenPair.getID X ⟨a.lowerHex, K⟩) } := by
    simp only [Erc721.putPair, setTokenPair, setClassMap, setERC721Map, hpair, toLower_hex]
  have hkey : a.lowerHex ≠ [] := ne_nil_of_isHexAddress (isHexAddress_lowerHex a)
  have hfree : st.tokenPairByERC721.get? a.lowerHex = none := by
    simp only [isERC721Registered, toLower_hex, Bool.or_eq_false_iff, KVStore.has, Option.isSome_eq_false_iff,
      Option.isNone_iff_eq_none] at hcontract
    exact hcontract.1
  have hfree' : st.tokenPairByClass.get? K = none := by
    simpa [isClassRegistered, KVStore.has] using hclass
  rw [hput] at hD ⊢
  -- the new pair has its text in the set as soon as it has an id
  have hnew : TokenPair.getID X ⟨a.lowerHex, K⟩ ≠ [] → TokenPair.text ⟨a.lowerHex, K⟩ ∈ D := by
    intro hid
    apply hD (TokenPair.getID X ⟨a.lowerHex, K⟩)
    rw [KVStore.get?_set _ hid, if_pos rfl]
  refine ⟨fun id pair hget => ?_, fun id pair hget => ?_, fun key id hget => ?_, fun K' id hget hid => ?_⟩
  · rcases KVStore.get?_set_eq_some hget with ⟨rfl, rfl⟩ | ⟨-, hold⟩
    · refine ⟨rfl, hnew fun hid => ?_, ⟨a, rfl⟩, hK, hibc⟩
      rw [hid, KVStore.get?_nil] at hget
      cases hget
    · exact h.pair id pair hold
  · rcases KVStore.get?_set_eq_some hget with ⟨rfl, rfl⟩ | ⟨-, hold⟩
    · exact ⟨by rw [KVStore.get?_set _ hkey, if_pos rfl], by rw [KVStore.get?_set _ hne, if_pos rfl]⟩
    · obtain ⟨hmap, hmap'⟩ := h.mapped id pair hold
      refine ⟨?_, ?_⟩
      · rw [KVStore.get?_set_of_ne _ _ ?_]
        · exact hmap
        · intro heq
          rw [heq, hfree] at hmap
          cases hmap
      · rw [KVStore.get?_set_of_ne _ _ ?_]
        · exact hmap'
        · intro heq
          rw [heq, hfree'] at hmap'
          cases hmap'
  · rcases KVStore.get?_set_eq_some hget with ⟨rfl, rfl⟩ | ⟨-, hold⟩
    · exact ⟨a, rfl, fun hid => ⟨K, rfl, hnew hid⟩⟩
    · exact h.byERC721 key id hold
  · rcases KVStore.get?_set_eq_some hget with ⟨rfl, rfl⟩ | ⟨-, hold⟩
    · exact ⟨a, rfl, hnew hid⟩
    · exact h.byClass K' id hold hid

lemma purge (h : RegistryInv X D st) {pair : TokenPair} {id : GoString}
    (hpair : st.tokenPair.get? id = some pair) : RegistryInv X D (purgeTokenPair X st pair) := by
  obtain ⟨hid, hpD, ⟨a, ha⟩, -, -⟩ := h.pair id pair hpair
  have hcontract : pair.getERC721Contract = a := by
    rw [TokenPair.getERC721Contract, ha, hexToAddress_lowerHex]
  have hpurge : RegistryInv X D
      { st with
        tokenPair := st.tokenPair.delete (pair.getID X)
        tokenPairByERC721 := st.tokenPairByERC721.delete pair.erc721Address
        tokenPairByClass := st.tokenPairByClass.delete pair.classId } := by
    refine ⟨fun id' q hget => ?_, fun id' q hget => ?_, fun key id' hget => ?_, fun K id' hget => ?_⟩
    · exact h.pair id' q (KVStore.get?_delete_eq_some hget).2
    · obtain ⟨hne, hold⟩ := KVStore.get?_delete_eq_some hget
      obtain ⟨hmap, hmap'⟩ := h.mapped id' q hold
      obtain ⟨hpmap, hpmap'⟩ := h.mapped id pair hpair
      -- a map entry of another pair has another key
      refine ⟨?_, ?_⟩
      · rw [KVStore.get?_delete, if_neg ?_]
        · exact hmap
        · intro heq
          rw [heq, hpmap, Option.some.injEq] at hmap
          exact hne (hmap.symm.trans hid)
      · rw [KVStore.get?_delete, if_neg ?_]
        · exact hmap'
        · intro heq
          rw [heq, hpmap', Option.some.injEq] at hmap'
          exact hne (hmap'.symm.trans hid)
    · exact h.byERC721 key id' (KVStore.get?_delete_eq_some hget).2
    · exact h.byClass K id' (KVStore.get?_delete_eq_some hget).2
  have hsame := sameRegistry_deletePairPerTokenState st pair
  refine hpurge.congr ⟨?_, ?_, ?_⟩
  · simp only [purgeTokenPair, deleteTokenPair, deleteERC721Map, deleteClassMap, hsame.tokenPair]
  · simp only [purgeTokenPair, deleteTokenPair, deleteERC721Map, deleteClassMap, hsame.byERC721, toLower_hex,
      hcontract, ha]
  · simp only [purgeTokenPair, deleteTokenPair, deleteERC721Map, deleteClassMap, hsame.byClass]

end RegistryInv

end Uptick.Erc721
