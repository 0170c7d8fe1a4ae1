import Uptick.Erc721.IndexInvariant
import Uptick.Erc721.Msg

/-!
# Equal spellings and the index

Two spellings of one token that pass the message checks drive the index alike exactly when both or
neither of the contract texts carry the `0x` mark: lowering a contract text keeps the mark as it is,
so the two forms have different canonical keys.
-/

namespace Uptick.Erc721

open Text Numeral Evm Outcome

section

variable {X : Extern} {c c' t t' : GoString}

lemma exists_parse_of_valid (h : validateEVMTokenID t = .ok ()) :
    ∃ v, parseEVMTokenIDValue t true = .ok (v, false) := by
  obtain ⟨v, hv⟩ := validateEVMTokenID_eq_ok.mp h
  exact ⟨v, parse_true_of_parse_false hv⟩

lemma contractAddressKeyVariants_congr (hc : isHexAddress c = true) (hc' : isHexAddress c' = true)
    (ha : hexToAddress c = hexToAddress c') (hx : has0xPrefix c = has0xPrefix c') :
    contractAddressKeyVariants X c = contractAddressKeyVariants X c' := by
  cases hmark : has0xPrefix c with
  | true =>
    rw [contractAddressKeyVariants_of_0x hc hmark, contractAddressKeyVariants_of_0x hc' (hx ▸ hmark), ha]
  | false =>
    rw [contractAddressKeyVariants_of_plain hc hmark,
      contractAddressKeyVariants_of_plain hc' (hx ▸ hmark), ha]

lemma canonicalContractAddress_congr (hc : isHexAddress c = true) (hc' : isHexAddress c' = true)
    (ha : hexToAddress c = hexToAddress c') (hx : has0xPrefix c = has0xPrefix c') :
    canonicalContractAddress c = canonicalContractAddress c' := by
  cases hmark : has0xPrefix c with
  | true => rw [canonicalContractAddress_of_0x hc hmark, canonicalContractAddress_of_0x hc' (hx ▸ hmark), ha]
  | false =>
    rw [canonicalContractAddress_of_plain hc hmark, canonicalContractAddress_of_plain hc' (hx ▸ hmark), ha]

lemma setNFTPairs_store_congr {v : Nat} (hp : parseEVMTokenIDValue t true = .ok (v, false))
    (hp' : parseEVMTokenIDValue t' true = .ok (v, false)) (hkeys : variantUIDs X c t = variantUIDs X c' t')
    (hcanon : canonicalContractAddress c = canonicalContractAddress c') (st : Store)
    (classID nftID : GoString) :
    (setNFTPairs X st c t classID nftID).2 = (setNFTPairs X st c' t' classID nftID).2 := by
  have hiff : Accepts X st c t classID nftID v false ↔ Accepts X st c' t' classID nftID v false := by
    constructor
    · rintro ⟨-, hagree, hgate, hrev⟩
      exact ⟨hp', hkeys ▸ hagree, hkeys ▸ hgate, hcanon ▸ hrev⟩
    · rintro ⟨-, hagree, hgate, hrev⟩
      exact ⟨hp, hkeys ▸ hagree, hkeys ▸ hgate, hcanon ▸ hrev⟩
  by_cases hacc : Accepts X st c t classID nftID v false
  · have hrun := setNFTPairs_eq_ok.mpr ⟨v, false, hacc, rfl⟩
    have hrun' := setNFTPairs_eq_ok.mpr ⟨v, false, hiff.mp hacc, rfl⟩
    rw [hrun, hrun']
    simp only [rebind, staleKeys, hkeys, hcanon]
  · have hrefused : ∀ {d s : GoString}, parseEVMTokenIDValue s true = .ok (v, false) →
        ¬ Accepts X st d s classID nftID v false → (setNFTPairs X st d s classID nftID).2 = st := by
      intro d s hs hnot
      cases hrun : setNFTPairs X st d s classID nftID with
      | mk outcome st' =>
        cases outcome with
        | error e => exact setNFTPairs_error hrun
        | ok u =>
          obtain ⟨w, legacy, hacc', -⟩ := setNFTPairs_eq_ok.mp hrun
          obtain ⟨rfl, rfl⟩ := Prod.mk.inj (Except.ok.inj (hs.symm.trans hacc'.parse))
          exact absurd hacc' hnot
    rw [hrefused hp hacc, hrefused hp' fun h => hacc (hiff.mpr h)]

/-- A binding under the unmarked spelling of a contract. -/
def unmarkedStore (v : Nat) (a : Address) : Store :=
  { Store.empty with byTokenUID := KVStore.empty.set (createTokenUID a.digits (text 10 v)) [1] }

lemma resolve_unmarkedStore_of_0x {v : Nat} (hp : parseEVMTokenIDValue t true = .ok (v, false))
    (hc : isHexAddress c = true) (hx : has0xPrefix c = true) :
    (resolveNFTUIDPair X (unmarkedStore v (hexToAddress c)) c t).1 = [] := by
  rw [resolveNFTUIDPair_eq_nil_iff]
  intro uid huid
  rw [mem_variantUIDs_iff_spells hc hx hp] at huid
  obtain ⟨s, d, rfl, -, hd⟩ := huid
  apply KVStore.get_eq_nil
  have hne : createTokenUID d s ≠ createTokenUID (hexToAddress c).digits (text 10 v) := by
    intro heq
    obtain ⟨-, rfl⟩ := uid_inj (comma_notMem_of_spelling hd)
      (comma_notMem_of_isHexAddress (isHexAddress_digits _)) heq
    have hmark : has0xPrefix (hexToAddress c).digits = true := by
      rcases hd with hd | hd
      · rw [hd]
        exact has0xPrefix_append_0x _
      · rw [hd]
        exact has0xPrefix_hex _ _
    rw [has0xPrefix_of_digits fun _ => isHexDigit_of_mem_digits] at hmark
    cases hmark
  rw [unmarkedStore, KVStore.get?_set _ (createTokenUID_ne_nil _ _), if_neg hne]
  rfl

lemma resolve_unmarkedStore_of_plain {v : Nat} (hp : parseEVMTokenIDValue t true = .ok (v, false))
    (hc : isHexAddress c = true) (hx : has0xPrefix c = false) :
    (resolveNFTUIDPair X (unmarkedStore v (hexToAddress c)) c t).1 ≠ [] := by
  rw [ne_eq, resolveNFTUIDPair_eq_nil_iff]
  intro hall
  have hmem : createTokenUID (hexToAddress c).digits (text 10 v) ∈ variantUIDs X c t := by
    have hcanon := canonicalUID_mem X c hp
    rwa [canonicalContractAddress_of_plain hc hx] at hcanon
  have hnil := hall _ hmem
  rw [KVStore.get_of_get? (v := [1])] at hnil
  · cases hnil
  · rw [unmarkedStore, KVStore.get?_set _ (createTokenUID_ne_nil _ _), if_pos rfl]

/-- For two spellings of one token, each from a message that passes its checks: reading, writing and
deleting agree on every index exactly when both or neither contract texts carry the `0x` mark. -/
theorem index_agrees_iff_same_mark (m m' : MsgConvertERC721) (hm : m.validateBasic X = .ok ())
    (hm' : m'.validateBasic X = .ok ()) (ht : t ∈ m.evmTokenIds) (ht' : t' ∈ m'.evmTokenIds)
    (hc : equalContractAddress m.evmContractAddress m'.evmContractAddress = true)
    (he : equalEVMTokenID t t' = true) :
    (∀ st : Store,
      (resolveNFTUIDPair X st m.evmContractAddress t).1 =
        (resolveNFTUIDPair X st m'.evmContractAddress t').1 ∧
      (∀ classID nftID, (setNFTPairs X st m.evmContractAddress t classID nftID).2 =
        (setNFTPairs X st m'.evmContractAddress t' classID nftID).2) ∧
      deleteNFTPairByTokenID X st m.evmContractAddress t =
        deleteNFTPairByTokenID X st m'.evmContractAddress t') ↔
    has0xPrefix m.evmContractAddress = has0xPrefix m'.evmContractAddress := by
  have hval := MsgConvertERC721.validateBasic_eq_ok.mp hm
  have hval' := MsgConvertERC721.validateBasic_eq_ok.mp hm'
  obtain ⟨v, hp⟩ := exists_parse_of_valid (hval.evmTokenIds t ht)
  obtain ⟨w, hp'⟩ := exists_parse_of_valid (hval'.evmTokenIds t' ht')
  obtain rfl := (equalEVMTokenID_of_parse hp hp').mp he
  have ha := (equalContractAddress_of_hex hval.contract hval'.contract).mp hc
  constructor
  · intro hall
    have hread := (hall (unmarkedStore v (hexToAddress m.evmContractAddress))).1
    cases hx : has0xPrefix m.evmContractAddress <;> cases hx' : has0xPrefix m'.evmContractAddress
    · rfl
    · rw [ha, resolve_unmarkedStore_of_0x hp' hval'.contract hx', ← ha] at hread
      exact absurd hread (resolve_unmarkedStore_of_plain hp hval.contract hx)
    · rw [resolve_unmarkedStore_of_0x hp hval.contract hx, ha] at hread
      exact absurd hread.symm (resolve_unmarkedStore_of_plain hp' hval'.contract hx')
    · rfl
  · intro hx st
    have hkeys : keyVariants X m.evmContractAddress t = keyVariants X m'.evmContractAddress t' := by
      rw [keyVariants, keyVariants, evmTokenIDKeyVariants_of_parse hp, evmTokenIDKeyVariants_of_parse hp',
        contractAddressKeyVariants_congr hval.contract hval'.contract ha hx]
    refine ⟨?_, fun classID nftID => ?_, ?_⟩
    · rw [resolveNFTUIDPair, resolveNFTUIDPair, hkeys]
    · exact setNFTPairs_store_congr hp hp' (by rw [variantUIDs, variantUIDs, hkeys])
        (canonicalContractAddress_congr hval.contract hval'.contract ha hx) st classID nftID
    · rw [deleteNFTPairByTokenID, deleteNFTPairByTokenID, hkeys]

end

/-- A message that names token 5 of the sample contract by this text. -/
def spellingMsg (contract tokenID : GoString) : MsgConvertERC721 where
  evmContractAddress := contract
  evmTokenIds := [tokenID]
  cosmosReceiver := Sample.accString Sample.alice
  cosmosSender := Sample.accString Sample.alice
  classId := str "uptick-4444444444444444444444444444444444444444"
  cosmosTokenIds := []

def unmarkedContract : GoString := str "4444444444444444444444444444444444444444"

/-- Two spellings with the mark, and a sign and a leading zero in one token id. -/
theorem index_agrees_same_mark_sample :
    (resolveNFTUIDPair Sample.X legacyStore Sample.contract (str "5")).1 =
      (resolveNFTUIDPair Sample.X legacyStore (str "0X4444444444444444444444444444444444444444")
        (str "+05")).1 :=
  ((index_agrees_iff_same_mark (spellingMsg Sample.contract (str "5"))
    (spellingMsg (str "0X4444444444444444444444444444444444444444") (str "+05"))
    (by decide +kernel) (by decide +kernel) (List.mem_singleton.mpr rfl) (List.mem_singleton.mpr rfl)
    (by decide +kernel) (by decide +kernel)).mpr (by decide +kernel) legacyStore).1

/-- Both messages pass, and the spellings are equal by value, but a binding written with the unmarked
contract text is not found with the marked one. -/
theorem index_disagrees_across_marks :
    (spellingMsg Sample.contract (str "5")).validateBasic Sample.X = .ok () ∧
    (spellingMsg unmarkedContract (str "5")).validateBasic Sample.X = .ok () ∧
    equalContractAddress Sample.contract unmarkedContract = true ∧
    equalEVMTokenID (str "5") (str "5") = true ∧
    (resolveNFTUIDPair Sample.X
      (setNFTPairs Sample.X Store.empty unmarkedContract (str "5") (str "kitty") (str "cat1")).2
      unmarkedContract (str "5")).1 = str "cat1,kitty" ∧
    (resolveNFTUIDPair Sample.X
      (setNFTPairs Sample.X Store.empty unmarkedContract (str "5") (str "kitty") (str "cat1")).2
      Sample.contract (str "5")).1 = [] := by
  decide +kernel

end Uptick.Erc721
