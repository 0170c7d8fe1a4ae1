import Uptick.Ibc.Hook

/-!
# The messages of the chain

The messages of x/collection and the conversion messages, each with its stateless check and its handler.
-/

namespace Uptick

open Text Collection

variable {C : Chain}

/-- The messages of x/collection. -/
inductive CollectionMsg
  | issueDenom (msg : MsgIssueDenom)
  | mintNFT (msg : MsgMintNFT)
  | editNFT (msg : MsgEditNFT)
  | transferNFT (msg : MsgTransferNFT)
  | burnNFT (msg : MsgBurnNFT)
  | transferDenom (msg : MsgTransferDenom)

namespace CollectionMsg

def validateBasic (X : Extern) : CollectionMsg → Except Error Unit
  | .issueDenom msg => msg.validateBasic X
  | .mintNFT msg => msg.validateBasic X
  | .editNFT msg => msg.validateBasic X
  | .transferNFT msg => msg.validateBasic X
  | .burnNFT msg => msg.validateBasic X
  | .transferDenom msg => msg.validateBasic X

def signer : CollectionMsg → GoString
  | .issueDenom msg => msg.sender
  | .mintNFT msg => msg.sender
  | .editNFT msg => msg.sender
  | .transferNFT msg => msg.sender
  | .burnNFT msg => msg.sender
  | .transferDenom msg => msg.sender

def handle (w : World C) : CollectionMsg → Except Error NftLedger
  | .issueDenom msg => Collection.issueDenom C.toExtern C.nk w.nft msg
  | .mintNFT msg => Collection.mintNFT C.toExtern C.nk w.nft msg
  | .editNFT msg => Collection.editNFT C.toExtern C.nk w.nft msg
  | .transferNFT msg => Collection.transferNFT C.toExtern C.nk w.nft msg
  | .burnNFT msg => Collection.burnNFT C.toExtern C.nk w.isConvertedNFT w.nft msg
  | .transferDenom msg => Collection.transferDenom C.toExtern C.nk w.nft msg

end CollectionMsg

/-- The messages that convert tokens. -/
inductive ConvertMsg
  | convertNFT (msg : Erc721.MsgConvertNFT)
  | convertERC721 (msg : Erc721.MsgConvertERC721)
  | convertNFTToCW721 (msg : Cw721.MsgConvertNFT)
  | convertCW721 (msg : Cw721.MsgConvertCW721)

namespace ConvertMsg

def validateBasic (X : Extern) : ConvertMsg → Except Error Unit
  | .convertNFT msg => msg.validateBasic X
  | .convertERC721 msg => msg.validateBasic X
  | .convertNFTToCW721 msg => msg.validateBasic X
  | .convertCW721 msg => msg.validateBasic X

def signer : ConvertMsg → GoString
  | .convertNFT msg => msg.cosmosSender
  | .convertERC721 msg => msg.cosmosSender
  | .convertNFTToCW721 msg => msg.sender
  | .convertCW721 msg => msg.sender

/-- The account of the module that handles the message. -/
def moduleAccount : ConvertMsg → AccAddress
  | .convertNFT _ => Erc721.accModuleAddress
  | .convertERC721 _ => Erc721.accModuleAddress
  | .convertNFTToCW721 _ => Cw721.accModuleAddress
  | .convertCW721 _ => Cw721.accModuleAddress

def handle (w : World C) : ConvertMsg → Except Error (World C)
  | .convertNFT msg => Erc721.convertNFT w msg
  | .convertERC721 msg => (Erc721.convertERC721 w msg).map Prod.fst
  | .convertNFTToCW721 msg => Cw721.convertNFT w msg
  | .convertCW721 msg => (Cw721.convertCW721 w msg).map Prod.fst

end ConvertMsg

end Uptick
