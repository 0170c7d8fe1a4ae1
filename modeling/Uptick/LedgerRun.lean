import Uptick.Internft
import Uptick.Writes

/-!
# Runs of the native ledger

The native ledger is written by the messages of x/collection, by the conversions, and by nft-transfer through
x/internft. A run of these writes has the packet data in its labels, which a step of the system leaves open.
-/

namespace Uptick

open Text Outcome Collection
open Relation (ReflTransGen)

/-- A write of the native ledger. A conversion saves classes, and mints, releases, moves and burns NFTs, with texts that
a contract reports; nft-transfer makes calls with the data of packets. -/
inductive LedgerOp
  | message (msg : CollectionMsg)
  | saveDenom (id : GoString) (f : DenomFields) (creator : AccAddress)
  | mint (msg : MsgMintNFT)
  | merge (msg : MsgTransferNFT)
  | give (c n : GoString) (dst : AccAddress)
  | burn (c n : GoString)
  | call (k : Internft.Call)

/-- The account that a call hands a token to was read from a packet, or is an escrow account. -/
def Internft.Call.Receives : Internft.Call → Prop
  | .mint _ _ _ _ receiver => Spellable receiver
  | .transfer _ _ _ receiver => Spellable receiver
  | _ => True

variable {C : Chain}

inductive LedgerStep (C : Chain) : NftLedger → LedgerOp → NftLedger → Prop
  | message {w : World C} {msg : CollectionMsg} {L' : NftLedger} (valid : msg.validateBasic C.toExtern = .ok ())
      (h : msg.handle w = .ok L') : LedgerStep C w.nft (.message msg) L'
  | saveDenom {L L' : NftLedger} {id : GoString} {f : DenomFields} {creator : AccAddress}
      (account : Spellable creator) (h : Collection.saveDenom C.toExtern C.nk L id f creator = .ok L') :
      LedgerStep C L (.saveDenom id f creator) L'
  | mint {L L' : NftLedger} {msg : MsgMintNFT} (h : mintNFT C.toExtern C.nk L msg = .ok L') :
      LedgerStep C L (.mint msg) L'
  | merge {L L' : NftLedger} {msg : MsgTransferNFT} (h : transferNFT C.toExtern C.nk L msg = .ok L') :
      LedgerStep C L (.merge msg) L'
  | give {L : NftLedger} {c n : GoString} {token : NFT} {src dst : AccAddress} (held : L.held c n = some ⟨token, src⟩)
      (account : Spellable dst) : LedgerStep C L (.give c n dst) (L.put c n (some ⟨token, dst⟩))
  | burn {L : NftLedger} {c n : GoString} : LedgerStep C L (.burn c n) (L.put c n none)
  | call {L L' : NftLedger} {call : Internft.Call} {converted : GoString → GoString → Bool} (account : call.Receives)
      (h : call.run C.toExtern C.nk converted L = .ok L') : LedgerStep C L (.call call) L'

def LedgerRun (C : Chain) (Allowed : NftLedger → LedgerOp → NftLedger → Prop) : NftLedger → NftLedger → Prop :=
  ReflTransGen fun L L' => ∃ op, LedgerStep C L op L' ∧ Allowed L op L'

theorem LedgerRun.invariant {Allowed : NftLedger → LedgerOp → NftLedger → Prop} {I : NftLedger → Prop}
    (hstep : ∀ L op L', I L → LedgerStep C L op L' → Allowed L op L' → I L') {L L' : NftLedger}
    (h : LedgerRun C Allowed L L') (hL : I L) : I L' := by
  induction h with
  | refl => exact hL
  | tail _ hlast ih =>
    obtain ⟨op, hop, hallowed⟩ := hlast
    exact hstep _ op _ ih hop hallowed

instance (acc : AccAddress) : Decidable (Spellable acc) := inferInstanceAs (Decidable (acc ≠ [] ∧ acc.length ≤ 255))

instance (call : Internft.Call) : Decidable call.Receives :=
  match call with
  | .mint _ _ _ _ receiver => inferInstanceAs (Decidable (Spellable receiver))
  | .transfer _ _ _ receiver => inferInstanceAs (Decidable (Spellable receiver))
  | .createOrUpdateClass _ _ _ => inferInstanceAs (Decidable True)
  | .burn _ _ => inferInstanceAs (Decidable True)

/-- A write, computed. -/
def LedgerOp.exec (w : World C) : LedgerOp → Except Error NftLedger
  | .message msg => do
    msg.validateBasic C.toExtern
    msg.handle w
  | .saveDenom id f creator => do
    require (Spellable creator) (external "no such account")
    Collection.saveDenom C.toExtern C.nk w.nft id f creator
  | .mint msg => mintNFT C.toExtern C.nk w.nft msg
  | .merge msg => transferNFT C.toExtern C.nk w.nft msg
  | .give c n dst => do
    require (Spellable dst) (external "no such account")
    match w.nft.held c n with
    | some held => .ok (w.nft.put c n (some ⟨held.nft, dst⟩))
    | none => .error (external "no such token")
  | .burn c n => .ok (w.nft.put c n none)
  | .call k => do
    require k.Receives (external "no such account")
    k.run C.toExtern C.nk w.isConvertedNFT w.nft

theorem ledgerStep_of_exec {w : World C} {op : LedgerOp} {L' : NftLedger} (h : op.exec w = .ok L') :
    LedgerStep C w.nft op L' := by
  cases op with
  | message msg =>
    obtain ⟨valid, h⟩ := check_bind_eq_ok.mp h
    exact .message valid h
  | saveDenom id f creator =>
    obtain ⟨account, h⟩ := require_bind_eq_ok.mp h
    exact .saveDenom account h
  | mint msg => exact .mint h
  | merge msg => exact .merge h
  | give c n dst =>
    obtain ⟨account, h⟩ := require_bind_eq_ok.mp h
    split at h
    · next held hheld =>
      cases h
      exact .give hheld account
    · cases h
  | burn c n =>
    cases h
    exact .burn
  | call call =>
    obtain ⟨account, h⟩ := require_bind_eq_ok.mp h
    exact .call account h

def LedgerOp.execAll (w : World C) : List LedgerOp → Except Error NftLedger
  | [] => .ok w.nft
  | op :: ops => do
    let nft ← op.exec w
    LedgerOp.execAll { w with nft := nft } ops

/-- Writes that are allowed wherever they are made. -/
theorem ledgerRun_of_execAll {Allowed : NftLedger → LedgerOp → NftLedger → Prop} {w : World C} {ops : List LedgerOp}
    {L' : NftLedger} (hallowed : ∀ op ∈ ops, ∀ L L', Allowed L op L') (h : LedgerOp.execAll w ops = .ok L') :
    LedgerRun C Allowed w.nft L' := by
  induction ops generalizing w with
  | nil =>
    cases h
    exact .refl
  | cons op ops ih =>
    obtain ⟨L₁, hfirst, hrest⟩ := bind_eq_ok.mp h
    exact .head ⟨op, ledgerStep_of_exec hfirst, hallowed op List.mem_cons_self _ _⟩
      (ih (fun op hop => hallowed op (List.mem_cons_of_mem _ hop)) hrest)

/-- Calls of x/internft one after another. -/
def Internft.Calls (C : Chain) : NftLedger → NftLedger → Prop :=
  ReflTransGen fun L L' => ∃ (call : Call) (converted : GoString → GoString → Bool), call.Receives ∧
    call.run C.toExtern C.nk converted L = .ok L'

lemma Internft.Calls.run {L L' : NftLedger} (h : Internft.Calls C L L') : LedgerRun C (fun _ _ _ => True) L L' := by
  apply ReflTransGen.mono _ _ _ h
  rintro L L' ⟨call, converted, account, hrun⟩
  exact ⟨.call call, .call account hrun, trivial⟩

lemma Ibc.SendToken.calls {converted : GoString → GoString → Bool} {port channel K n : GoString} {sender : AccAddress}
    {L L' : NftLedger} (h : SendToken C.nk converted (C.ics.escrow port channel) sender K L n L') :
    Internft.Calls C L L' := by
  have hlen := C.ics.escrow_length port channel
  cases h with
  | escrow _ call =>
    refine .single ⟨.transfer K n [] (C.ics.escrow port channel), converted, ⟨?_, ?_⟩, call⟩
    · exact List.ne_nil_of_length_pos (by omega)
    · omega
  | burn _ call => exact .single ⟨.burn K n, converted, trivial, call⟩

lemma Ibc.RefundToken.calls {escrow acc : AccAddress} {K n : GoString} (account : Spellable acc) {L L' : NftLedger}
    (h : RefundToken C.nk escrow acc K L n L') : Internft.Calls C L L' := by
  cases h with
  | release _ call => exact .single ⟨.transfer K n [] acc, fun _ _ => false, account, call⟩
  | mint call => exact .single ⟨.mint K n _ _ acc, fun _ _ => false, account, call⟩

lemma Internft.calls_of_chained {α : Type} {R : NftLedger → α → NftLedger → Prop}
    (hcall : ∀ L x L', R L x L' → Internft.Calls C L L') {xs : List α} {L L' : NftLedger} (h : Chained R L xs L') :
    Internft.Calls C L L' := by
  induction h with
  | nil => exact .refl
  | cons head _ ih => exact (hcall _ _ _ head).trans ih

lemma Write.ledgerRun {R : GoString → GoString → TokenFields → Prop} {L L' : NftLedger}
    (h : Write (C := C) R L L') : LedgerRun C (fun _ _ _ => True) L L' := by
  cases h with
  | message valid h => exact .single ⟨_, .message valid h, trivial⟩
  | saveDenom account h => exact .single ⟨_, .saveDenom account h, trivial⟩
  | mint _ h => exact .single ⟨_, .mint h, trivial⟩
  | merge _ h => exact .single ⟨_, .merge h, trivial⟩
  | give held account => exact .single ⟨_, .give held account, trivial⟩
  | burn => exact .single ⟨_, .burn, trivial⟩
  | sent h =>
    obtain ⟨-, _, -, hcalls⟩ := C.ics.transfer_calls h
    exact (Internft.calls_of_chained (fun _ _ _ => Ibc.SendToken.calls) hcalls).run
  | returned account h =>
    have hcalls := C.ics.refund_calls h (C.ics.getVoucherClassID_eq _ _)
    exact (Internft.calls_of_chained (fun _ _ _ => Ibc.RefundToken.calls account) hcalls).run

lemma Writes.ledgerRun {R : GoString → GoString → TokenFields → Prop} {L L' : NftLedger}
    (h : Writes C R L L') : LedgerRun C (fun _ _ _ => True) L L' := by
  induction h with
  | refl => exact .refl
  | tail _ hlast ih => exact ih.trans hlast.ledgerRun

/-- Every step of the system is a run of the ledger. -/
theorem Step.ledgerRun {s s' : System C} {op : Op C} (h : Step s op s')
    (hreceive : ∀ a, op = .receive a → Internft.Calls C s.world.nft s'.world.nft) :
    LedgerRun C (fun _ _ _ => True) s.world.nft s'.world.nft := by
  rcases h.writes with hwrites | ⟨a, rfl, -⟩
  · exact hwrites.ledgerRun
  · exact (hreceive a rfl).run

end Uptick
