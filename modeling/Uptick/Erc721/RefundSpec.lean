import Uptick.Erc721.HandlerSpec

/-!
# What a transfer and a refund of x/erc721 did

A transfer is a conversion to the module account, the transfer of nft-transfer from there, and the refund
records. A round of `RefundPacketToken` skips its token, or it clears the records of the token and burns the native
half. In the second case the ERC721 half went back to the recorded receiver, unless the module account did
not hold it.
-/

namespace Uptick.Erc721

open Text Evm Outcome Collection

section Store

variable (X : Extern) (st : Store) (K n t c : GoString)

lemma byNFTUID_clearRefund : (clearRefund X st K n t c).byNFTUID = st.byNFTUID.delete (createNFTUID K n) := by
  unfold clearRefund
  dsimp only
  rw [deleteNFTPairByTokenID_eq]
  split <;> rfl

lemma byTokenUID_clearRefund :
    (clearRefund X st K n t c).byTokenUID = st.byTokenUID.deleteAll (variantUIDs X c t) := by
  unfold clearRefund
  dsimp only
  rw [deleteNFTPairByTokenID_eq]
  split <;> rfl

lemma evmAddress_clearRefund (k : GoString) : (clearRefund X st K n t c).evmAddress.get? k =
    if k = toLower c ++ n ∨ k = toLower c ++ t then none else st.evmAddress.get? k := by
  unfold clearRefund
  dsimp only
  rw [deleteNFTPairByTokenID_eq]
  by_cases ht : t = n
  · subst ht
    simp [deleteNFTPairByNFTID, deleteNFTUIDPairByNFTUID, deleteEvmAddressByContractTokenId, toLower_toLower]
  · simp only [ne_eq, ht, not_false_eq_true, if_true, deleteNFTPairByNFTID, deleteNFTUIDPairByNFTUID,
      deleteEvmAddressByContractTokenId, toLower_toLower, KVStore.get?_delete]
    by_cases h₁ : k = toLower c ++ n <;> by_cases h₂ : k = toLower c ++ t <;> simp [h₁, h₂]

lemma setEvmRefundReceiver_eq (ns ts : List GoString) (a : GoString) : setEvmRefundReceiver st c ns ts a =
    { st with
      evmAddress := ((ns ++ ts).filter (· ≠ [])).foldl (fun kv id => kv.set (toLower c ++ id) a) st.evmAddress } := by
  unfold setEvmRefundReceiver
  generalize (ns ++ ts).filter (· ≠ []) = ids
  induction ids generalizing st with
  | nil => rfl
  | cons id ids ih =>
    rw [List.foldl_cons, ih, List.foldl_cons, setEvmAddressByContractTokenId, toLower_toLower]

end Store

variable {C : Chain}

def MsgTransferERC721.convertMsg (X : Extern) (msg : MsgTransferERC721) : MsgConvertERC721 :=
  ⟨msg.evmContractAddress, msg.evmTokenIds, X.accString accModuleAddress, msg.cosmosSender, msg.classId,
    msg.cosmosTokenIds⟩

def MsgTransferERC721.ibcMsg (X : Extern) (msg : MsgTransferERC721) (res : MsgConvertERC721Response) :
    Ibc.MsgTransfer :=
  ⟨msg.sourcePort, msg.sourceChannel, res.classId, res.cosmosTokenIds, X.accString accModuleAddress,
    msg.cosmosReceiver, msg.timeoutRevisionNumber, msg.timeoutRevisionHeight, msg.timeoutTimestamp,
    msg.memo ++ transferERC721Memo⟩

/-- The store with the refund records of a transfer; a voucher class gets none. -/
def recordRefunds (X : Extern) (st : Store) (res : MsgConvertERC721Response) (sender : AccAddress) : Store :=
  if hasPrefix res.classId (str "ibc/") then st
  else setEvmRefundReceiver st res.evmContractAddress res.cosmosTokenIds res.evmTokenIds
    ((evmAddress sender).hex X.keccak256)

lemma recordRefunds_eq (X : Extern) (st : Store) (res : MsgConvertERC721Response) (sender : AccAddress) :
    ∃ kv, recordRefunds X st res sender = { st with evmAddress := kv } := by
  unfold recordRefunds
  split
  · exact ⟨_, rfl⟩
  · exact ⟨_, setEvmRefundReceiver_eq _ _ _ _ _⟩

lemma MsgTransferERC721.classId_and_nonempty {X : Extern} {msg : MsgTransferERC721}
    (h : msg.validateBasic X = .ok ()) : isBlank msg.classId = false ∧ msg.evmTokenIds ≠ [] := by
  unfold MsgTransferERC721.validateBasic validateClassId at h
  obtain ⟨-, h⟩ := check_bind_eq_ok.mp h
  obtain ⟨hclass, h⟩ := check_bind_eq_ok.mp h
  obtain ⟨-, h⟩ := check_bind_eq_ok.mp h
  obtain ⟨-, h⟩ := check_bind_eq_ok.mp h
  obtain ⟨hne, -⟩ := require_bind_eq_ok.mp h
  exact ⟨require_eq_ok.mp hclass, hne⟩

structure TransferSteps (w : World C) (msg : MsgTransferERC721) (w' : World C) (p : Ibc.Packet) (w₁ : World C)
    (res : MsgConvertERC721Response) (L : NftLedger) (sender : AccAddress) : Prop where
  converted : convertERC721 w (msg.convertMsg C.toExtern) = .ok (w₁, res)
  sent : C.ics.transfer w₁.isConvertedNFT w₁.nft (msg.ibcMsg C.toExtern res) = .ok (L, p)
  sender_eq : C.decodeAcc msg.cosmosSender = .ok sender
  world : w' = { w₁ with nft := L, erc721 := recordRefunds C.toExtern w₁.erc721 res sender }

theorem transferERC721_steps {w w' : World C} {msg : MsgTransferERC721} {p : Ibc.Packet}
    (h : transferERC721 w msg = .ok (w', p)) : ∃ w₁ res L sender, TransferSteps w msg w' p w₁ res L sender := by
  unfold transferERC721 at h
  obtain ⟨⟨w₁, res⟩, hconv, h⟩ := bind_eq_ok.mp h
  obtain ⟨⟨L, p'⟩, hsent, h⟩ := bind_eq_ok.mp h
  obtain ⟨sender, hsender, h⟩ := bind_eq_ok.mp h
  simp only [Except.ok.injEq, Prod.mk.injEq] at h
  obtain ⟨rfl, rfl⟩ := h
  exact ⟨w₁, res, L, sender, mapError_eq_ok.mp hconv, mapError_eq_ok.mp hsent, decodeSender_eq_ok.mp hsender, rfl⟩

/-- The binding that a round finds in the reverse index, and the owner of its token. -/
structure RefundFound (w : World C) (K n t c : GoString) (v : Nat) (o : Address) : Prop where
  bound : getNFTFromUID (getTokenUIDPairByNFTUID w.erc721 (createNFTUID K n)) = (t, c)
  tokenId : t ≠ []
  contract : c ≠ []
  parse : parseEVMTokenID t = .ok v
  hasNFT : w.nft.hasNFT K n = true
  owner : C.evm.owner w.evm (hexToAddress c) v = some o

def cleared (w : World C) (evm : C.evm.State) (K n t c : GoString) : World C :=
  { w with evm := evm, erc721 := clearRefund C.toExtern w.erc721 K n t c }

inductive Refunds (K : GoString) (w : World C) (n : GoString) : World C → Prop
  | skipped : Refunds K w n w
  | returned {t c : GoString} {v : Nat} {evm : C.evm.State} (found : RefundFound w K n t c v moduleAddress)
      (receiver : getEvmRefundReceiver w.erc721 c n t ≠ [])
      (sent : C.evm.safeTransferFrom w.evm moduleAddress (hexToAddress c) moduleAddress
        (hexToAddress (getEvmRefundReceiver w.erc721 c n t)) v = .ok evm) :
      Refunds K w n (burnRefunded (cleared w evm K n t c) K n)
  | dropped {t c : GoString} {v : Nat} {o : Address} (found : RefundFound w K n t c v o) (away : o ≠ moduleAddress) :
      Refunds K w n (burnRefunded (cleared w w.evm K n t c) K n)

theorem refundToken_refunds (K : GoString) (w : World C) (n : GoString) : Refunds K w n (refundToken K w n) := by
  unfold refundToken
  dsimp only
  obtain ⟨t, c, hcut⟩ : ∃ t c, getNFTFromUID (getTokenUIDPairByNFTUID w.erc721 (createNFTUID K n)) = (t, c) :=
    ⟨_, _, rfl⟩
  simp only [hcut]
  split
  · exact .skipped
  next hne =>
  push Not at hne
  cases hparse : parseEVMTokenID t with
  | error e => exact .skipped
  | ok v =>
    dsimp only
    split
    · exact .skipped
    next hnft =>
    cases howner : C.evm.ownerOf w.evm (hexToAddress c) v with
    | error e => exact .skipped
    | ok o =>
      have hfound : RefundFound w K n t c v o :=
        ⟨hcut, hne.2.1, hne.2.2, hparse, by simpa using hnft, C.evm.owner_eq_some.mpr howner⟩
      dsimp only
      by_cases hmod : o = moduleAddress
      · subst hmod
        rw [if_pos rfl]
        unfold returnERC721
        dsimp only
        by_cases hrec : getEvmRefundReceiver w.erc721 c n t = []
        · rw [if_pos hrec]
          exact .skipped
        · rw [if_neg hrec]
          cases hsent : C.evm.safeTransferFrom w.evm moduleAddress (hexToAddress c) moduleAddress
            (hexToAddress (getEvmRefundReceiver w.erc721 c n t)) v with
          | error e => exact .skipped
          | ok evm => exact .returned hfound hrec hsent
      · rw [if_neg hmod]
        exact .dropped hfound hmod

/-- The native half is burned when the module account holds it and no index names it any more. -/
lemma burnRefunded_eq (w : World C) (K n : GoString) : burnRefunded w K n =
    if w.nft.getOwner K n = accModuleAddress ∧ w.isConvertedNFT K n = false ∧ w.nft.hasClass K = true
    then { w with nft := w.nft.put K n none } else w := by
  unfold burnRefunded
  by_cases howner : w.nft.getOwner K n = accModuleAddress
  · rw [if_neg (by simp [howner])]
    obtain ⟨token, hheld⟩ := NftLedger.exists_held_of_getOwner accModuleAddress_ne_nil howner
    have hnft : w.nft.hasNFT K n = true := by simp [NftLedger.hasNFT, hheld]
    have hburn : ∀ L, burnNFT C.toExtern C.nk w.isConvertedNFT w.nft ⟨n, K, C.accString accModuleAddress⟩ = .ok L ↔
        (w.isConvertedNFT K n = false ∧ w.nft.hasClass K = true) ∧ L = w.nft.put K n none := by
      intro L
      rw [burnNFT_eq_ok]
      constructor
      · rintro ⟨_, -, -, -, hconv, hclass, hL⟩
        exact ⟨⟨hconv, hclass⟩, hL⟩
      · rintro ⟨⟨hconv, hclass⟩, hL⟩
        exact ⟨accModuleAddress, decodeAcc_module _, hnft, howner.symm, hconv, hclass, hL⟩
    by_cases hgood : w.isConvertedNFT K n = false ∧ w.nft.hasClass K = true
    · rw [(hburn _).mpr ⟨hgood, rfl⟩, if_pos ⟨howner, hgood⟩]
    · rw [if_neg fun h => hgood h.2]
      cases hrun : burnNFT C.toExtern C.nk w.isConvertedNFT w.nft ⟨n, K, C.accString accModuleAddress⟩ with
      | ok L => exact absurd ((hburn L).mp hrun).1 hgood
      | error e => rfl
  · rw [if_pos howner, if_neg fun h => howner h.1]

lemma refundPacketToken_invariant {I : World C → Prop} {K : GoString} {ns : List GoString}
    (hstep : ∀ w n w', n ∈ ns → I w → Refunds K w n w' → I w') {w : World C} (hw : I w) :
    I (refundPacketToken w K ns) := by
  apply List.foldlRecOn ns (refundToken K) hw
  intro w' hw' n hn
  exact hstep w' n _ hn hw' (refundToken_refunds K w' n)

end Uptick.Erc721
