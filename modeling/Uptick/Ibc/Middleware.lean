import Uptick.Ibc.Hook

/-!
# The IBC middleware of x/evmibc

`ibc_middleware.go` over `keeper/ibc_hook.go`: which module gives an NFT back when a packet was not taken, and what
is kept when something on the way fails. A callback works on a context, which it may leave half written when it fails;
a cache context is thrown away then. Every refund leaves a mark, so that refunds can be counted.
-/

namespace Uptick.Ibc

open Text Collection

/-- `channeltypes.Packet`, as far as it is read here. -/
structure RawPacket where
  sourcePort : GoString
  sourceChannel : GoString
  data : GoString

/-- `NonFungibleTokenPacketData`, as far as it is read here. -/
structure PacketData where
  classId : GoString
  tokenIds : List GoString
  sender : GoString
  receiver : GoString
  memo : GoString
  deriving DecidableEq, Repr

def RawPacket.decoded (packet : RawPacket) (data : PacketData) : Packet :=
  ⟨packet.sourcePort, packet.sourceChannel, data.classId, data.tokenIds, data.sender, data.receiver, data.memo⟩

/-- The `Response` of an acknowledgement. -/
inductive Response
  | result | error | absent
  deriving DecidableEq, Repr

/-- `types.ModuleCdc` -/
structure Codec where
  unmarshalAcknowledgement : GoString → Except GoString Response
  unmarshalPacketData : GoString → Except GoString PacketData

/-- Who asked for a native refund: the keeper of x/evmibc, or the nft-transfer module below the middleware. -/
inductive Refunder
  | evmibc | nftTransfer
  deriving DecidableEq, Repr

/-- The marks of refunds: an NFT given back to an account, and a call of `RefundPacketToken` for a class. -/
inductive Mark
  | nativeRefund (by_ : Refunder) (recipient : AccAddress)
  | refundPacketToken (kind : ConvertKind) (classId : GoString)
  deriving DecidableEq, Repr

structure Context (C : Chain) where
  world : World C
  marks : List Mark

/-- What a callback leaves behind, with its error. -/
abbrev Answer (C : Chain) := Context C × Except Error Unit

variable {C : Chain}

/-- A callback in a cache context, which is written back only when it succeeds. -/
def cached (callback : Context C → Answer C) (ctx : Context C) : Answer C :=
  match callback ctx with
  | (cctx, .ok ()) => (cctx, .ok ())
  | (_, .error err) => (ctx, .error err)

/-- The account and the function of the module that a convert packet was sent by. -/
def ConvertKind.moduleAccount : ConvertKind → AccAddress
  | .none => []
  | .erc721 => Erc721.accModuleAddress
  | .cw721 => Cw721.accModuleAddress

def ConvertKind.refundPacketToken : ConvertKind → World C → GoString → List GoString → World C
  | .none => fun w _ _ => w
  | .erc721 => Erc721.refundPacketToken
  | .cw721 => Cw721.refundPacketToken

/-- A refund of nft-transfer that goes through: the NFTs of the packet go to the account that the text names. -/
def NativeRefund (by_ : Refunder) (packet : Packet) (sender : GoString) (ctx ctx' : Context C) : Prop :=
  ∃ acc nft, C.decodeAcc sender = .ok acc ∧ C.ics.refund ctx.world.nft packet acc = .ok nft ∧
    ctx' = ⟨{ ctx.world with nft := nft }, ctx.marks ++ [.nativeRefund by_ acc]⟩

/-- The IBC module of nft-transfer below the middleware, as a parameter. It reads the packet for itself and refunds it
to its sender, for a timeout and for an error. What it leaves when it fails is open. -/
structure IBCModule (C : Chain) (codec : Codec) where
  onTimeoutPacket : RawPacket → Context C → Answer C
  onAcknowledgementPacket : RawPacket → GoString → Context C → Answer C
  onTimeoutPacket_eq_ok : ∀ {packet ctx ctx'}, onTimeoutPacket packet ctx = (ctx', .ok ()) ↔
    ∃ data, codec.unmarshalPacketData packet.data = .ok data ∧
      NativeRefund .nftTransfer (packet.decoded data) data.sender ctx ctx'
  onAcknowledgementPacket_eq_ok : ∀ {packet acknowledgement ctx ctx'},
    onAcknowledgementPacket packet acknowledgement ctx = (ctx', .ok ()) ↔
      ∃ ack data, codec.unmarshalAcknowledgement acknowledgement = .ok ack ∧
        codec.unmarshalPacketData packet.data = .ok data ∧
        if ack = .error then NativeRefund .nftTransfer (packet.decoded data) data.sender ctx ctx' else ctx' = ctx

section Callbacks

/- The ledger that a refund of nft-transfer leaves when it fails halfway. -/
variable (residue : NftLedger → Packet → AccAddress → NftLedger)

/-- The refund of the keeper of nft-transfer, to the sender that the packet data names. -/
def refundNative (by_ : Refunder) (packet : Packet) (sender : GoString) (ctx : Context C) : Answer C :=
  match C.decodeAcc sender with
  | .error err => (ctx, .error err)
  | .ok acc =>
    match C.ics.refund ctx.world.nft packet acc with
    | .error err => ({ ctx with world := { ctx.world with nft := residue ctx.world.nft packet acc } }, .error err)
    | .ok nft => (⟨{ ctx.world with nft := nft }, ctx.marks ++ [.nativeRefund by_ acc]⟩, .ok ())

/-- The branch of a convert packet: the native refund is redirected to the module account and comes first. -/
def refundConvert (kind : ConvertKind) (packet : Packet) (ctx : Context C) : Answer C :=
  match getRefundClassId ctx.world packet with
  | .error err => (ctx, .error err)
  | .ok localClassID =>
    match refundNative residue .evmibc packet (C.accString kind.moduleAccount) ctx with
    | (ctx, .error err) => (ctx, .error err)
    | (ctx, .ok ()) => (⟨kind.refundPacketToken ctx.world localClassID packet.tokenIds,
        ctx.marks ++ [.refundPacketToken kind localClassID]⟩, .ok ())

namespace Keeper

def onTimeoutPacket (packet : Packet) (ctx : Context C) : Answer C :=
  match outboundConvertKind C.toExtern packet with
  | .erc721 => refundConvert residue .erc721 packet ctx
  | .cw721 => refundConvert residue .cw721 packet ctx
  | .none => (ctx, .ok ())

def onAcknowledgementPacket (packet : Packet) (ack : Response) (ctx : Context C) : Answer C :=
  match ack with
  | .error =>
    match outboundConvertKind C.toExtern packet with
    | .erc721 => refundConvert residue .erc721 packet ctx
    | .cw721 => refundConvert residue .cw721 packet ctx
    | .none => (ctx, .ok ())
  | _ => (ctx, .ok ())

end Keeper

def isOutboundConvertPacket (X : Extern) (data : Packet) : Bool := outboundConvertKind X data ≠ .none

namespace Middleware

variable {codec : Codec} (app : IBCModule C codec)

def onTimeoutPacket (packet : RawPacket) (ctx : Context C) : Answer C :=
  match codec.unmarshalPacketData packet.data with
  | .error text => (ctx, .error (wrapf .unknownRequest
      "cannot unmarshal ICS-721 transfer packet data: %s" [.s text]))
  | .ok data =>
    if isOutboundConvertPacket C.toExtern (packet.decoded data) then
      cached (Keeper.onTimeoutPacket residue (packet.decoded data)) ctx
    else app.onTimeoutPacket packet ctx

def onAcknowledgementPacket (packet : RawPacket) (acknowledgement : GoString) (ctx : Context C) : Answer C :=
  match codec.unmarshalAcknowledgement acknowledgement with
  | .error text => (ctx, .error (wrapf .unknownRequest
      "cannot unmarshal ICS-721 transfer packet acknowledgement: %v" [.s text]))
  | .ok ack =>
    match codec.unmarshalPacketData packet.data with
    | .error text => (ctx, .error (wrapf .unknownRequest
        "cannot unmarshal ICS-721 transfer packet data: %s" [.s text]))
    | .ok data =>
      if ack = .error ∧ isOutboundConvertPacket C.toExtern (packet.decoded data) = true then
        cached (Keeper.onAcknowledgementPacket residue (packet.decoded data) ack) ctx
      else
        match Keeper.onAcknowledgementPacket residue (packet.decoded data) ack ctx with
        | (ctx, .error err) => (ctx, .error err)
        | (ctx, .ok ()) => app.onAcknowledgementPacket packet acknowledgement ctx

end Middleware

end Callbacks

end Uptick.Ibc
