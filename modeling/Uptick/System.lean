import Mathlib.Logic.Relation
import Uptick.Erc721.Prune
import Uptick.Erc721.Settlement
import Uptick.Messages

/-!
# The chain as a system

The messages of the four modules, the packets between this chain and others, the migrations of x/erc721, and
what everybody else does on the EVM and the wasm module, as steps of one state. A message that fails is no
step. A packet is in flight from its transfer until the other chain takes it or it comes back.
-/

namespace Uptick

open Text

/-- A packet that the other chain has not taken, with the signer of the message that sent it. -/
structure Flight where
  packet : Ibc.Packet
  sender : GoString
  deriving DecidableEq

structure System (C : Chain) where
  world : World C
  flights : List Flight

/-- What happens in a step. -/
inductive Op (C : Chain)
  | collection (msg : CollectionMsg)
  | convert (msg : ConvertMsg)
  | transferERC721 (msg : Erc721.MsgTransferERC721)
  | transferCW721 (msg : Cw721.MsgTransferCW721)
  | transfer (msg : Ibc.MsgTransfer)
  | receive (a : Ibc.Arrival)
  | deliver (f : Flight)
  | refund (f : Flight)
  | settle
  | prune (o : GoMap.MapOrder)
  | purge (pair : Erc721.TokenPair)
  | evm (st : C.evm.State)
  | wasm (st : C.wasm.State)

def Op.signer {C : Chain} : Op C → Option GoString
  | .collection msg => some msg.signer
  | .convert msg => some msg.signer
  | .transferERC721 msg => some msg.cosmosSender
  | .transferCW721 msg => some msg.cwSender
  | .transfer msg => some msg.sender
  | _ => none

variable {C : Chain}

inductive Step : System C → Op C → System C → Prop
  | collection {w : World C} {fl : List Flight} {msg : CollectionMsg} {L : Collection.NftLedger}
      (valid : msg.validateBasic C.toExtern = .ok ()) (h : msg.handle w = .ok L) :
      Step ⟨w, fl⟩ (.collection msg) ⟨{ w with nft := L }, fl⟩
  | convert {w w' : World C} {fl : List Flight} {msg : ConvertMsg}
      (valid : msg.validateBasic C.toExtern = .ok ()) (h : msg.handle w = .ok w') :
      Step ⟨w, fl⟩ (.convert msg) ⟨w', fl⟩
  | transferERC721 {w w' : World C} {fl : List Flight} {msg : Erc721.MsgTransferERC721} {p : Ibc.Packet}
      (valid : msg.validateBasic C.toExtern = .ok ()) (h : Erc721.transferERC721 w msg = .ok (w', p)) :
      Step ⟨w, fl⟩ (.transferERC721 msg) ⟨w', ⟨p, msg.cosmosSender⟩ :: fl⟩
  | transferCW721 {w w' : World C} {fl : List Flight} {msg : Cw721.MsgTransferCW721} {p : Ibc.Packet}
      (valid : msg.validateBasic C.toExtern = .ok ()) (h : Cw721.transferCW721 w msg = .ok (w', p)) :
      Step ⟨w, fl⟩ (.transferCW721 msg) ⟨w', ⟨p, msg.cwSender⟩ :: fl⟩
  | transfer {w : World C} {fl : List Flight} {msg : Ibc.MsgTransfer} {L : Collection.NftLedger} {p : Ibc.Packet}
      (h : C.ics.transfer w.isConvertedNFT w.nft msg = .ok (L, p)) :
      Step ⟨w, fl⟩ (.transfer msg) ⟨{ w with nft := L }, ⟨p, msg.sender⟩ :: fl⟩
  | receive {w : World C} {fl : List Flight} {a : Ibc.Arrival} {L : Collection.NftLedger}
      (h : Ibc.Received (C.ics.escrow a.port a.channel) w.nft L a) :
      Step ⟨w, fl⟩ (.receive a) ⟨{ w with nft := L }, fl⟩
  | deliver {w : World C} {fl : List Flight} {f : Flight} (h : f ∈ fl) : Step ⟨w, fl⟩ (.deliver f) ⟨w, fl.erase f⟩
  | refund {w w' : World C} {fl : List Flight} {f : Flight} (hf : f ∈ fl)
      (h : Ibc.onTimeoutPacket w f.packet = .ok w') : Step ⟨w, fl⟩ (.refund f) ⟨w', fl.erase f⟩
  | settle {w : World C} {fl : List Flight} : Step ⟨w, fl⟩ .settle ⟨(Erc721.settleIBCVoucherPairs w).world, fl⟩
  | prune {w : World C} {fl : List Flight} (o : GoMap.MapOrder) :
      Step ⟨w, fl⟩ (.prune o) ⟨{ w with erc721 := (Erc721.pruneDuplicateUIDIndexEntries C.toExtern o w.erc721).1 }, fl⟩
  | purge {w : World C} {fl : List Flight} {pair : Erc721.TokenPair} (h : pair ∈ Erc721.getTokenPairs w.erc721) :
      Step ⟨w, fl⟩ (.purge pair) ⟨{ w with erc721 := Erc721.purgeTokenPair C.toExtern w.erc721 pair }, fl⟩
  | evm {w : World C} {fl : List Flight} (st : C.evm.State) : Step ⟨w, fl⟩ (.evm st) ⟨{ w with evm := st }, fl⟩
  | wasm {w : World C} {fl : List Flight} (st : C.wasm.State) : Step ⟨w, fl⟩ (.wasm st) ⟨{ w with wasm := st }, fl⟩

def Run (Allowed : System C → Op C → System C → Prop) : System C → System C → Prop :=
  Relation.ReflTransGen fun s s' => ∃ op, Step s op s' ∧ Allowed s op s'

/-- What an allowed step keeps holds in every state of a run. -/
theorem Run.invariant {Allowed : System C → Op C → System C → Prop} {I : System C → Prop}
    (hstep : ∀ s op s', I s → Step s op s' → Allowed s op s' → I s') {s s' : System C} (h : Run Allowed s s')
    (hs : I s) : I s' := by
  induction h with
  | refl => exact hs
  | tail _ hlast ih =>
    obtain ⟨op, hop, hallowed⟩ := hlast
    exact hstep _ op _ ih hop hallowed

namespace System

/-- A step, computed. What other chains send is not. -/
def exec (s : System C) : Op C → Except Error (System C)
  | .collection msg => do
    msg.validateBasic C.toExtern
    let nft ← msg.handle s.world
    .ok ⟨{ s.world with nft := nft }, s.flights⟩
  | .convert msg => do
    msg.validateBasic C.toExtern
    let world ← msg.handle s.world
    .ok ⟨world, s.flights⟩
  | .transferERC721 msg => do
    msg.validateBasic C.toExtern
    let (world, packet) ← Erc721.transferERC721 s.world msg
    .ok ⟨world, ⟨packet, msg.cosmosSender⟩ :: s.flights⟩
  | .transferCW721 msg => do
    msg.validateBasic C.toExtern
    let (world, packet) ← Cw721.transferCW721 s.world msg
    .ok ⟨world, ⟨packet, msg.cwSender⟩ :: s.flights⟩
  | .transfer msg => do
    let (nft, packet) ← C.ics.transfer s.world.isConvertedNFT s.world.nft msg
    .ok ⟨{ s.world with nft := nft }, ⟨packet, msg.sender⟩ :: s.flights⟩
  | .receive _ => .error (external "a packet of another chain")
  | .deliver f => do
    Outcome.require (f ∈ s.flights) (external "no such packet")
    .ok ⟨s.world, s.flights.erase f⟩
  | .refund f => do
    Outcome.require (f ∈ s.flights) (external "no such packet")
    let world ← Ibc.onTimeoutPacket s.world f.packet
    .ok ⟨world, s.flights.erase f⟩
  | .settle => .ok ⟨(Erc721.settleIBCVoucherPairs s.world).world, s.flights⟩
  | .prune o => .ok ⟨{ s.world with
      erc721 := (Erc721.pruneDuplicateUIDIndexEntries C.toExtern o s.world.erc721).1 }, s.flights⟩
  | .purge pair => do
    Outcome.require (pair ∈ Erc721.getTokenPairs s.world.erc721) (external "no such pair")
    .ok ⟨{ s.world with erc721 := Erc721.purgeTokenPair C.toExtern s.world.erc721 pair }, s.flights⟩
  | .evm st => .ok ⟨{ s.world with evm := st }, s.flights⟩
  | .wasm st => .ok ⟨{ s.world with wasm := st }, s.flights⟩

open Outcome in
theorem step_of_exec {s s' : System C} {op : Op C} (h : s.exec op = .ok s') : Step s op s' := by
  obtain ⟨w, fl⟩ := s
  cases op with
  | collection msg =>
    obtain ⟨valid, h⟩ := check_bind_eq_ok.mp h
    obtain ⟨L, hrun, h⟩ := bind_eq_ok.mp h
    cases h
    exact .collection valid hrun
  | convert msg =>
    obtain ⟨valid, h⟩ := check_bind_eq_ok.mp h
    obtain ⟨w', hrun, h⟩ := bind_eq_ok.mp h
    cases h
    exact .convert valid hrun
  | transferERC721 msg =>
    obtain ⟨valid, h⟩ := check_bind_eq_ok.mp h
    obtain ⟨⟨w', p⟩, hrun, h⟩ := bind_eq_ok.mp h
    cases h
    exact .transferERC721 valid hrun
  | transferCW721 msg =>
    obtain ⟨valid, h⟩ := check_bind_eq_ok.mp h
    obtain ⟨⟨w', p⟩, hrun, h⟩ := bind_eq_ok.mp h
    cases h
    exact .transferCW721 valid hrun
  | transfer msg =>
    obtain ⟨⟨L, p⟩, hrun, h⟩ := bind_eq_ok.mp h
    cases h
    exact .transfer hrun
  | receive a => cases h
  | deliver f =>
    obtain ⟨hf, h⟩ := require_bind_eq_ok.mp h
    cases h
    exact .deliver hf
  | refund f =>
    obtain ⟨hf, h⟩ := require_bind_eq_ok.mp h
    obtain ⟨w', hrun, h⟩ := bind_eq_ok.mp h
    cases h
    exact .refund hf hrun
  | settle =>
    cases h
    exact .settle
  | prune o =>
    cases h
    exact .prune o
  | purge pair =>
    obtain ⟨hpair, h⟩ := require_bind_eq_ok.mp h
    cases h
    exact .purge hpair
  | evm st =>
    cases h
    exact .evm st
  | wasm st =>
    cases h
    exact .wasm st

def execAll : System C → List (Op C) → Except Error (System C)
  | s, [] => .ok s
  | s, op :: ops => do
    let s ← s.exec op
    s.execAll ops

/-- Steps that are allowed wherever they are taken. -/
theorem run_of_execAll {Allowed : System C → Op C → System C → Prop} {s s' : System C} {ops : List (Op C)}
    (hallowed : ∀ op ∈ ops, ∀ s s', Allowed s op s') (h : s.execAll ops = .ok s') : Run Allowed s s' := by
  induction ops generalizing s with
  | nil =>
    cases h
    exact .refl
  | cons op ops ih =>
    obtain ⟨s₁, hfirst, hrest⟩ := Outcome.bind_eq_ok.mp h
    exact .head ⟨op, step_of_exec hfirst, hallowed op List.mem_cons_self _ _⟩
      (ih (fun op hop => hallowed op (List.mem_cons_of_mem _ hop)) hrest)

end System

/-- Before the first message: no pairs, no bindings, no records, no classes and no packets. The parameters and
the stored wasm code may be anything, and so may the contracts. -/
structure System.Fresh (s : System C) : Prop where
  erc721 : ∃ b, s.world.erc721 = { Erc721.Store.empty with enableErc721 := b }
  cw721 : ∃ code b, s.world.cw721 = { Cw721.Store.empty with wasmCode := code, enableCw721 := b }
  nft : s.world.nft = .empty
  flights : s.flights = []

end Uptick
