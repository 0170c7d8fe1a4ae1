import Uptick.Cw721.HandlerSpec

/-!
# What a transfer and a refund of x/cw721 did

A transfer and the rounds of `RefundPacketToken` as for x/erc721. Here a round does not ask whether the native half
exists.
-/

namespace Uptick.Cw721

open Text Outcome Collection

variable {C : Chain}

def MsgTransferCW721.convertMsg (X : Extern) (msg : MsgTransferCW721) (c : GoString) : MsgConvertCW721 :=
  ⟨c, msg.cwTokenIds, X.accString accModuleAddress, msg.cwSender, msg.classId, msg.cosmosTokenIds⟩

def MsgTransferCW721.ibcMsg (X : Extern) (msg : MsgTransferCW721) (res : MsgConvertCW721Response) :
    Ibc.MsgTransfer :=
  ⟨msg.sourcePort, msg.sourceChannel, res.classId, res.nftIds, X.accString accModuleAddress,
    msg.cosmosReceiver, msg.timeoutRevisionNumber, msg.timeoutRevisionHeight, msg.timeoutTimestamp,
    msg.memo ++ transferCW721Memo⟩

def recordRefunds (st : Store) (c : GoString) (ts : List GoString) (sender : GoString) : Store :=
  ts.foldl (fun st t => setCwAddressByContractTokenId st c t sender) st

lemma recordRefunds_eq (st : Store) (c : GoString) (ts : List GoString) (sender : GoString) :
    recordRefunds st c ts sender =
      { st with cwAddress := ts.foldl (fun kv t => kv.set (c ++ t) sender) st.cwAddress } := by
  unfold recordRefunds
  induction ts generalizing st with
  | nil => rfl
  | cons t ts ih => rw [List.foldl_cons, ih, List.foldl_cons, setCwAddressByContractTokenId]

lemma MsgTransferCW721.valid_convertMsg {X : Extern} {msg : MsgTransferCW721} (h : msg.validateBasic X = .ok ())
    (c : GoString) : (msg.convertMsg X c).Valid X := by
  unfold MsgTransferCW721.validateBasic at h
  obtain ⟨hsender, h⟩ := check_bind_eq_ok.mp h
  obtain ⟨-, h⟩ := check_bind_eq_ok.mp h
  obtain ⟨-, h⟩ := check_bind_eq_ok.mp h
  obtain ⟨hclass, h⟩ := check_bind_eq_ok.mp h
  obtain ⟨hne, -⟩ := require_bind_eq_ok.mp h
  exact ⟨validateBech32_ok hsender, ⟨_, decodeAcc_module X⟩, require_eq_ok.mp hclass,
    fun h => hne (List.length_eq_zero_iff.mpr h)⟩

structure TransferSteps (w : World C) (msg : MsgTransferCW721) (w' : World C) (p : Ibc.Packet) (w₁ : World C)
    (c : GoString) (res : MsgConvertCW721Response) (L : NftLedger) : Prop where
  contract : normalizeCW721Address C.toExtern msg.cwContractAddress = .ok c
  converted : convertCW721 w (msg.convertMsg C.toExtern c) = .ok (w₁, res)
  sent : C.ics.transfer w₁.isConvertedNFT w₁.nft (msg.ibcMsg C.toExtern res) = .ok (L, p)
  world : w' = { w₁ with nft := L, cw721 := recordRefunds w₁.cw721 c msg.cwTokenIds msg.cwSender }

theorem transferCW721_steps {w w' : World C} {msg : MsgTransferCW721} {p : Ibc.Packet}
    (h : transferCW721 w msg = .ok (w', p)) : ∃ w₁ c res L, TransferSteps w msg w' p w₁ c res L := by
  unfold transferCW721 at h
  obtain ⟨c, hc, h⟩ := bind_eq_ok.mp h
  obtain ⟨⟨w₁, res⟩, hconv, h⟩ := bind_eq_ok.mp h
  obtain ⟨⟨L, p'⟩, hsent, h⟩ := bind_eq_ok.mp h
  simp only [Except.ok.injEq, Prod.mk.injEq] at h
  obtain ⟨rfl, rfl⟩ := h
  exact ⟨w₁, c, res, L, hc, mapError_eq_ok.mp hconv, mapError_eq_ok.mp hsent, rfl⟩

/-- The binding that a round finds in the reverse index, and the owner of its token. -/
structure RefundFound (w : World C) (K n t c : GoString) (contract : AccAddress) (o : GoString) : Prop where
  bound : getNFTFromUID (getTokenUIDPairByNFTUID w.cw721 (createNFTUID K n)) = (t, c)
  tokenId : t ≠ []
  contract_ne : c ≠ []
  contract_eq : C.decodeAcc c = .ok contract
  owner : C.wasm.owner w.wasm contract t = some o

def cleared (w : World C) (wasm : C.wasm.State) (K n t c : GoString) : World C :=
  { w with wasm := wasm, cw721 := clearRefund w.cw721 K n t c }

inductive Refunds (K : GoString) (w : World C) (n : GoString) : World C → Prop
  | skipped : Refunds K w n w
  | returned {t c o : GoString} {contract : AccAddress} {wasm : C.wasm.State}
      (found : RefundFound w K n t c contract o) (held : moduleOwnsCW721 C.toExtern (trimSpace o) = true)
      (receiver : getCwAddressByContractTokenId w.cw721 c t ≠ [])
      (sent : C.wasm.transferNft w.wasm accModuleAddress contract t (getCwAddressByContractTokenId w.cw721 c t) =
        .ok wasm) :
      Refunds K w n (burnRefunded (cleared w wasm K n t c) K n)
  | dropped {t c o : GoString} {contract : AccAddress} (found : RefundFound w K n t c contract o)
      (away : moduleOwnsCW721 C.toExtern (trimSpace o) = false) :
      Refunds K w n (burnRefunded (cleared w w.wasm K n t c) K n)

theorem refundToken_refunds (K : GoString) (w : World C) (n : GoString) : Refunds K w n (refundToken K w n) := by
  unfold refundToken
  dsimp only
  obtain ⟨t, c, hcut⟩ : ∃ t c, getNFTFromUID (getTokenUIDPairByNFTUID w.cw721 (createNFTUID K n)) = (t, c) :=
    ⟨_, _, rfl⟩
  simp only [hcut]
  split
  · exact .skipped
  next hne =>
  push Not at hne
  cases hquery : queryCW721AllNftInfo w c t with
  | error e => exact .skipped
  | ok info =>
    obtain ⟨contract, hc, hinfo⟩ := bind_eq_ok.mp hquery
    have hfound : RefundFound w K n t c contract info.owner :=
      ⟨hcut, hne.2.1, hne.2.2, hc, C.wasm.owner_of_allNftInfo hinfo⟩
    dsimp only
    cases hmod : moduleOwnsCW721 C.toExtern (trimSpace info.owner) with
    | false => exact .dropped hfound hmod
    | true =>
      rw [if_pos rfl]
      unfold returnCW721
      dsimp only
      by_cases hrec : getCwAddressByContractTokenId w.cw721 c t = []
      · rw [if_pos hrec]
        exact .skipped
      · rw [if_neg hrec]
        cases hsent : transferCw721 w c t (getCwAddressByContractTokenId w.cw721 c t)
          (C.accString accModuleAddress) with
        | error e => exact .skipped
        | ok wasm =>
          obtain ⟨sender, hs, hsent⟩ := bind_eq_ok.mp hsent
          obtain ⟨contract', hc', hsent⟩ := bind_eq_ok.mp hsent
          obtain rfl : contract = contract' := Except.ok.inj (hc.symm.trans hc')
          rw [decodeAcc_module, Except.ok.injEq] at hs
          subst hs
          exact .returned hfound hmod hrec hsent

lemma burnRefunded_eq (w : World C) (K n : GoString) : burnRefunded w K n =
    if w.nft.getOwner K n = accModuleAddress ∧ w.isConvertedNFT K n = false ∧ w.nft.hasClass K = true
    then { w with nft := w.nft.put K n none } else w := by
  have hburn : ∀ L, burnNFT C.toExtern C.nk w.isConvertedNFT w.nft ⟨n, K, C.accString accModuleAddress⟩ = .ok L →
      (w.nft.getOwner K n = accModuleAddress ∧ w.isConvertedNFT K n = false ∧ w.nft.hasClass K = true) ∧
        L = w.nft.put K n none := by
    intro L hL
    obtain ⟨s, hs, -, hs', hconv, hclass, rfl⟩ := burnNFT_eq_ok.mp hL
    rw [decodeAcc_module, Except.ok.injEq] at hs
    exact ⟨⟨by rw [hs, hs'], hconv, hclass⟩, rfl⟩
  unfold burnRefunded
  by_cases hgood : w.nft.getOwner K n = accModuleAddress ∧ w.isConvertedNFT K n = false ∧ w.nft.hasClass K = true
  · obtain ⟨howner, hconv, hclass⟩ := hgood
    obtain ⟨token, hheld⟩ := NftLedger.exists_held_of_getOwner (by decide) howner
    have hnft : w.nft.hasNFT K n = true := by simp [NftLedger.hasNFT, hheld]
    have hmod : moduleOwnsCW721 C.toExtern (C.accString (w.nft.getOwner K n)) = true := by
      simp [moduleOwnsCW721, howner, equalFold]
    have hrun : burnNFT C.toExtern C.nk w.isConvertedNFT w.nft ⟨n, K, C.accString accModuleAddress⟩ =
        .ok (w.nft.put K n none) :=
      burnNFT_eq_ok.mpr ⟨accModuleAddress, decodeAcc_module _, hnft, howner.symm, hconv, hclass, rfl⟩
    rw [if_neg (by simp [hnft, hmod]), hrun, if_pos ⟨howner, hconv, hclass⟩]
  · rw [if_neg hgood]
    split
    · rfl
    · cases hrun : burnNFT C.toExtern C.nk w.isConvertedNFT w.nft ⟨n, K, C.accString accModuleAddress⟩ with
      | ok L => exact absurd (hburn L hrun).1 hgood
      | error e => rfl

lemma refundPacketToken_invariant {I : World C → Prop} {K : GoString} {ns : List GoString}
    (hstep : ∀ w n w', n ∈ ns → I w → Refunds K w n w' → I w') {w : World C} (hw : I w) :
    I (refundPacketToken w K ns) := by
  apply List.foldlRecOn ns (refundToken K) hw
  intro w' hw' n hn
  exact hstep w' n _ hn hw' (refundToken_refunds K w' n)

end Uptick.Cw721
