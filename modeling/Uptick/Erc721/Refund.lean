import Uptick.Erc721.Convert

/-!
# Transfers over IBC and their refunds

`TransferERC721` and `RefundPacketToken` of `keeper/msg_server.go`. A refund never fails: a token that
cannot be refunded is skipped. The events it emits are left out.
-/

namespace Uptick.Erc721

open Text Evm Outcome

variable {C : Chain}

/-- Converts the tokens to the module account and sends the NFTs from there. The packet is the one that
nft-transfer puts on the channel. -/
def transferERC721 (w : World C) (msg : MsgTransferERC721) : Except Error (World C × Ibc.Packet) := do
  let convertMsg : MsgConvertERC721 := ⟨msg.evmContractAddress, msg.evmTokenIds,
    C.accString accModuleAddress, msg.cosmosSender, msg.classId, msg.cosmosTokenIds⟩
  let (w, resMsg) ← mapError (·.wrapf "failed to ConvertERC721" []) (convertERC721 w convertMsg)
  let ibcMsg : Ibc.MsgTransfer := ⟨msg.sourcePort, msg.sourceChannel, resMsg.classId,
    resMsg.cosmosTokenIds, C.accString accModuleAddress, msg.cosmosReceiver, msg.timeoutRevisionNumber,
    msg.timeoutRevisionHeight, msg.timeoutTimestamp, msg.memo ++ transferERC721Memo⟩
  let (nft, packet) ← mapError (·.wrapf "failed to ibc Transfer" [])
    (C.ics.transfer w.isConvertedNFT w.nft ibcMsg)
  let w := { w with nft := nft }
  let senderAcc ← decodeSender C.toExtern msg.cosmosSender
  let sender := evmAddress senderAcc
  let erc721 :=
    if hasPrefix resMsg.classId (str "ibc/") then w.erc721
    else setEvmRefundReceiver w.erc721 resMsg.evmContractAddress resMsg.cosmosTokenIds resMsg.evmTokenIds
      (sender.hex C.keccak256)
  .ok ({ w with erc721 := erc721 }, packet)

/-- Removes the refund records and both index directions of a refunded token. -/
def clearRefund (X : Extern) (st : Store) (classID tokenId evmTokenId evmContractAddress : GoString) : Store :=
  let refundContract := toLower evmContractAddress
  let st := deleteEvmAddressByContractTokenId st refundContract tokenId
  let st := if evmTokenId ≠ tokenId then deleteEvmAddressByContractTokenId st refundContract evmTokenId else st
  let st := deleteNFTPairByNFTID st classID tokenId
  deleteNFTPairByTokenID X st evmContractAddress evmTokenId

/-- Burns the native half when the module account holds it; a burn that fails is skipped. -/
def burnRefunded (w : World C) (classID tokenId : GoString) : World C :=
  if w.nft.getOwner classID tokenId ≠ accModuleAddress then w
  else
    match Collection.burnNFT C.toExtern C.nk w.isConvertedNFT w.nft
        ⟨tokenId, classID, C.accString accModuleAddress⟩ with
    | .ok nft => { w with nft := nft }
    | .error _ => w

/-- Gives an escrowed ERC721 token back to the recorded receiver. `none` when the token is skipped: no
receiver is recorded, or the transfer fails. -/
def returnERC721 (w : World C) (contract : Address) (bigTokenId : Nat)
    (evmContractAddress tokenId evmTokenId : GoString) : Option (World C) :=
  let evmReceiver := getEvmRefundReceiver w.erc721 evmContractAddress tokenId evmTokenId
  if evmReceiver = [] then none
  else
    match C.evm.safeTransferFrom w.evm moduleAddress contract moduleAddress (hexToAddress evmReceiver) bigTokenId with
    | .ok evm => some { w with evm := evm }
    | .error _ => none

/-- One round of `RefundPacketToken`. -/
def refundToken (classID : GoString) (w : World C) (tokenId : GoString) : World C :=
  let pairUID := getTokenUIDPairByNFTUID w.erc721 (createNFTUID classID tokenId)
  let (evmTokenId, evmContractAddress) := getNFTFromUID pairUID
  if pairUID = [] ∨ evmTokenId = [] ∨ evmContractAddress = [] then w
  else
    match parseEVMTokenID evmTokenId with
    | .error _ => w
    | .ok bigTokenId =>
      let contract := hexToAddress evmContractAddress
      if w.nft.hasNFT classID tokenId = false then w
      else
        match C.evm.ownerOf w.evm contract bigTokenId with
        | .error _ => w
        | .ok owner =>
          -- a token the module no longer holds is not moved, but its records go all the same
          let returned :=
            if owner = moduleAddress then returnERC721 w contract bigTokenId evmContractAddress tokenId evmTokenId
            else some w
          match returned with
          | none => w
          | some w =>
            let w := { w with erc721 := clearRefund C.toExtern w.erc721 classID tokenId evmTokenId evmContractAddress }
            burnRefunded w classID tokenId

/-- `RefundPacketToken` for a packet whose class id is already the local one. -/
def refundPacketToken (w : World C) (classID : GoString) (tokenIds : List GoString) : World C :=
  tokenIds.foldl (refundToken classID) w

end Uptick.Erc721
