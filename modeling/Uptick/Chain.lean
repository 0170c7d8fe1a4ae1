import Uptick.Collection.MsgServer
import Uptick.Cw721.Pairs
import Uptick.Erc721.Pairs
import Uptick.Evm.Contract
import Uptick.Ibc.Transfer
import Uptick.Wasm.Contract

/-!
# The chain

The modules outside this repository, and the state that the modules of this repository share.
-/

namespace Uptick

open Text

/-- Everything that the application is built from besides its own modules. -/
structure Chain extends Extern where
  nk : Collection.NftKeeper
  evm : Evm.EvmKeeper toExtern
  wasm : Wasm.WasmKeeper toExtern
  ics : Ibc.Ics721 toExtern nk
  /-- The escrow accounts of nft-transfer are not the accounts of the conversion modules. -/
  escrow_ne_erc721 : ∀ port channel, ics.escrow port channel ≠ Erc721.accModuleAddress
  escrow_ne_cw721 : ∀ port channel, ics.escrow port channel ≠ Cw721.accModuleAddress

/-- The state of the application. -/
structure World (C : Chain) where
  erc721 : Erc721.Store
  cw721 : Cw721.Store
  nft : Collection.NftLedger
  evm : C.evm.State
  wasm : C.wasm.State

namespace World

variable {C : Chain}

/-- `IsConvertedNFT` of `app/keepers/keepers.go`: one of the two pair indexes names the NFT. -/
def isConvertedNFT (w : World C) (classID nftID : GoString) : Bool :=
  Erc721.getTokenUIDPairByNFTUID w.erc721 (Erc721.createNFTUID classID nftID) ≠ [] ||
    Cw721.getNFTPairByClassNFTID w.cw721 classID nftID ≠ []

end World

end Uptick
