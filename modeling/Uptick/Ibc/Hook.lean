import Uptick.Cw721.Convert
import Uptick.Erc721.Refund

/-!
# The IBC callbacks of x/evmibc

`keeper/ibc_hook.go`, `types/ibc_memo.go` and the middleware of `ibc_middleware.go`: what happens here
to a packet that the other chain did not take. A convert packet is refunded in a cache context, so a
callback that fails changes nothing.
-/

namespace Uptick.Ibc

open Text Outcome

inductive ConvertKind
  | none | erc721 | cw721
  deriving DecidableEq, Repr

/-- The module that a packet was sent by: its sender and the end of its memo must both say so. -/
def outboundConvertKind (X : Extern) (data : Packet) : ConvertKind :=
  if data.sender = X.accString Erc721.accModuleAddress ∧ hasSuffix data.memo Erc721.transferERC721Memo = true
  then .erc721
  else if data.sender = X.accString Cw721.accModuleAddress ∧ hasSuffix data.memo Cw721.transferCW721Memo = true
  then .cw721
  else .none

variable {C : Chain}

/-- The voucher class of a class that came over a channel. -/
def voucherClassID (C : Chain) (port channel classId : GoString) : GoString :=
  C.ics.ibcClassID (C.ics.classPrefix port channel ++ classId)

/-- The local class of a returning packet. -/
def getRefundClassId (w : World C) (packet : Packet) : Except Error GoString :=
  if 47 ∉ packet.classId then .ok packet.classId
  else if hasPrefix packet.classId (C.ics.classPrefix packet.sourcePort packet.sourceChannel) then do
    let orgClass ← C.ics.removeClassPrefix packet.sourcePort packet.sourceChannel packet.classId
    .ok (voucherClassID C packet.sourcePort packet.sourceChannel orgClass)
  else C.ics.getVoucherClassID w.nft packet.classId

/-- The native half comes back to the conversion module, which then refunds the contract half. -/
def refundConverted (w : World C) (packet : Packet) (module : AccAddress)
    (refundPacketToken : World C → GoString → List GoString → World C) : Except Error (World C) := do
  let localClassID ← getRefundClassId w packet
  let nft ← C.ics.refund w.nft packet module
  .ok (refundPacketToken { w with nft := nft } localClassID packet.tokenIds)

/-- A packet that is not a convert packet goes back to its sender. -/
def refundPlain (w : World C) (packet : Packet) : Except Error (World C) := do
  let sender ← C.decodeAcc packet.sender
  let nft ← C.ics.refund w.nft packet sender
  .ok { w with nft := nft }

def onTimeoutPacket (w : World C) (packet : Packet) : Except Error (World C) :=
  match outboundConvertKind C.toExtern packet with
  | .erc721 => refundConverted w packet Erc721.accModuleAddress Erc721.refundPacketToken
  | .cw721 => refundConverted w packet Cw721.accModuleAddress Cw721.refundPacketToken
  | .none => refundPlain w packet

end Uptick.Ibc
