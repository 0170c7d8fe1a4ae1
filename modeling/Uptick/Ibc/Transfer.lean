import Uptick.Internft

/-!
# The nft-transfer module

The ICS-721 module that carries native NFTs to other chains, as a parameter: sending a batch, giving a
batch back, and the class names it uses on the wire. Its hypotheses are those of the ICS-721
specification: which calls of x/internft it makes for the tokens of a batch. What these calls do to the
ledger is proved from x/internft.
-/

namespace Uptick.Ibc

open Text Outcome Collection

/-- `MsgTransfer` of nft-transfer. -/
structure MsgTransfer where
  sourcePort : GoString
  sourceChannel : GoString
  classId : GoString
  tokenIds : List GoString
  sender : GoString
  receiver : GoString
  timeoutRevisionNumber : Nat
  timeoutRevisionHeight : Nat
  timeoutTimestamp : Nat
  memo : GoString

/-- A packet: where it leaves from, and the fields of `NonFungibleTokenPacketData` that are read here.
`classId` is the full path of the class. -/
structure Packet where
  sourcePort : GoString
  sourceChannel : GoString
  classId : GoString
  tokenIds : List GoString
  sender : GoString
  receiver : GoString
  memo : GoString
  deriving DecidableEq, Repr

/-- Only tokens of the batch changed; no class did. -/
structure Touches (L L' : NftLedger) (classID : GoString) (tokenIDs : List GoString) : Prop where
  held_other : ∀ c n, ¬(c = classID ∧ n ∈ tokenIDs) → L'.held c n = L.held c n
  getClass : L'.getClass = L.getClass

/-- A batch leaves: each token was the sender's and is afterwards escrowed, or destroyed when no contract
token is bound to it. -/
structure Sent (converted : GoString → GoString → Bool) (escrow sender : AccAddress) (L L' : NftLedger)
    (classID : GoString) (tokenIDs : List GoString) : Prop extends Touches L L' classID tokenIDs where
  token : ∀ n ∈ tokenIDs, ∃ t, L.held classID n = some ⟨t, sender⟩ ∧
    (L'.held classID n = some ⟨t, escrow⟩ ∨ converted classID n = false ∧ L'.held classID n = none)

/-- A batch comes back: each token was in escrow or gone, and is afterwards the sender's. -/
structure Returned (escrow sender : AccAddress) (L L' : NftLedger) (classID : GoString)
    (tokenIDs : List GoString) : Prop extends Touches L L' classID tokenIDs where
  token : ∀ n ∈ tokenIDs, (L.held classID n = none ∨ L.getOwner classID n = escrow) ∧
    ∃ t, L'.held classID n = some ⟨t, sender⟩

/-- Tokens that a packet of another chain brings. -/
structure Arrival where
  port : GoString
  channel : GoString
  classID : GoString
  tokenIDs : List GoString
  receiver : AccAddress

/-- A batch arrives: each token leaves the escrow account or is a new voucher. The class of new vouchers is
created or updated. -/
structure Received (escrow : AccAddress) (L L' : NftLedger) (a : Arrival) : Prop where
  held_other : ∀ c n, ¬(c = a.classID ∧ n ∈ a.tokenIDs) → L'.held c n = L.held c n
  getClass_other : ∀ c, c ≠ a.classID → L'.getClass c = L.getClass c
  getClass : L'.getClass a.classID ≠ L.getClass a.classID → isIBCDenom a.classID = true ∧ comma ∉ a.classID
  hasClass : L.hasClass a.classID = true → L'.hasClass a.classID = true
  token : ∀ n ∈ a.tokenIDs, (∃ t, L'.held a.classID n = some ⟨t, a.receiver⟩) ∧ L'.hasClass a.classID = true ∧
    (L.held a.classID n = none ∧ isIBCDenom a.classID = true ∨ ∃ t, L.held a.classID n = some ⟨t, escrow⟩)

/-- What nft-transfer does with a token that leaves: the sender's token goes to the escrow account, or is burned. -/
inductive SendToken (nk : NftKeeper) (converted : GoString → GoString → Bool) (escrow sender : AccAddress)
    (classID : GoString) : NftLedger → GoString → NftLedger → Prop
  | escrow {L L' : NftLedger} {n : GoString} {t : NFT} (held : L.held classID n = some ⟨t, sender⟩)
      (call : Internft.transfer nk L classID n [] escrow = .ok L') : SendToken nk converted escrow sender classID L n L'
  | burn {L L' : NftLedger} {n : GoString} {t : NFT} (held : L.held classID n = some ⟨t, sender⟩)
      (call : Internft.burn nk converted L classID n = .ok L') : SendToken nk converted escrow sender classID L n L'

/-- What nft-transfer does with a token that it gives back: the escrow account returns it, or it is minted again. -/
inductive RefundToken (nk : NftKeeper) (escrow sender : AccAddress) (classID : GoString) :
    NftLedger → GoString → NftLedger → Prop
  | release {L L' : NftLedger} {n : GoString} (owner : L.getOwner classID n = escrow)
      (call : Internft.transfer nk L classID n [] sender = .ok L') : RefundToken nk escrow sender classID L n L'
  | mint {L L' : NftLedger} {n uri data : GoString} (call : Internft.mint nk L classID n uri data sender = .ok L') :
      RefundToken nk escrow sender classID L n L'

section Calls

variable {nk : NftKeeper} {converted : GoString → GoString → Bool} {escrow sender : AccAddress} {classID n : GoString}
  {tokenIDs : List GoString} {L L₁ L' : NftLedger}

lemma SendToken.ok (h : SendToken nk converted escrow sender classID L n L') :
    ∃ t, L.held classID n = some ⟨t, sender⟩ ∧
      (L' = L.put classID n (some ⟨t, escrow⟩) ∨ converted classID n = false ∧ L' = L.put classID n none) := by
  cases h with
  | escrow held call =>
    obtain ⟨t', owner, token, hheld, htoken, rfl⟩ := Internft.transfer_ok call
    obtain ⟨rfl, rfl⟩ := Held.mk.inj (Option.some.inj (held.symm.trans hheld))
    rcases htoken with ⟨-, rfl⟩ | ⟨hne, -⟩
    · exact ⟨_, held, .inl rfl⟩
    · exact absurd rfl hne
  | burn held call =>
    rcases Internft.burn_ok call with ⟨hnone, -⟩ | hburned
    · rw [held] at hnone
      cases hnone
    · exact ⟨_, held, .inr hburned⟩

lemma RefundToken.ok (h : RefundToken nk escrow sender classID L n L') :
    (L.held classID n = none ∨ L.getOwner classID n = escrow) ∧ ∃ t, L' = L.put classID n (some ⟨t, sender⟩) := by
  cases h with
  | release owner call =>
    obtain ⟨_, _, t, -, -, rfl⟩ := Internft.transfer_ok call
    exact ⟨.inr owner, t, rfl⟩
  | mint call =>
    obtain ⟨t, -, -, hnone, rfl⟩ := Internft.mint_ok call
    exact ⟨.inl hnone, t, rfl⟩

lemma Touches.cons {h : Option Held} (hrest : Touches (L.put classID n h) L' classID tokenIDs) :
    Touches L L' classID (n :: tokenIDs) where
  held_other := by
    intro c m hne
    rw [hrest.held_other c m fun hin => hne ⟨hin.1, List.mem_cons_of_mem _ hin.2⟩]
    apply NftLedger.held_put_of_ne
    rintro ⟨rfl, rfl⟩
    exact hne ⟨rfl, List.mem_cons_self⟩
  getClass := hrest.getClass

/-- The batch by its tokens. A token that comes up twice is the sender's both times, so the sender is the
escrow account. -/
lemma sent_of_chained (h : Chained (SendToken nk converted escrow sender classID) L tokenIDs L') :
    Sent converted escrow sender L L' classID tokenIDs := by
  induction h with
  | nil L => exact ⟨⟨fun _ _ _ => rfl, rfl⟩, by simp⟩
  | @cons L L₁ L' n tokenIDs head tail ih =>
    obtain ⟨t, hheld, hput⟩ := head.ok
    have htouches : Touches L L' classID (n :: tokenIDs) := by
      rcases hput with rfl | ⟨-, rfl⟩ <;> exact ih.toTouches.cons
    refine ⟨htouches, fun m hm => ?_⟩
    by_cases hmn : m = n
    · subst hmn
      refine ⟨t, hheld, ?_⟩
      by_cases hagain : m ∈ tokenIDs
      · obtain ⟨t', hheld', hafter⟩ := ih.token m hagain
        rcases hput with rfl | ⟨-, rfl⟩
        · rw [NftLedger.held_put_self, Option.some.injEq] at hheld'
          obtain ⟨rfl, -⟩ := Held.mk.inj hheld'
          exact hafter
        · rw [NftLedger.held_put_self] at hheld'
          cases hheld'
      · rw [ih.held_other classID m fun hin => hagain hin.2]
        rcases hput with rfl | ⟨hfree, rfl⟩
        · exact .inl (NftLedger.held_put_self ..)
        · exact .inr ⟨hfree, NftLedger.held_put_self ..⟩
    · obtain ⟨t', hheld', hafter⟩ := ih.token m (List.mem_of_ne_of_mem hmn hm)
      have hsame : L₁.held classID m = L.held classID m := by
        rcases hput with rfl | ⟨-, rfl⟩ <;> exact L.held_put_of_ne _ fun heq => hmn (Prod.mk.inj heq).2
      exact ⟨t', hsame ▸ hheld', hafter⟩

lemma returned_of_chained (h : Chained (RefundToken nk escrow sender classID) L tokenIDs L') :
    Returned escrow sender L L' classID tokenIDs := by
  induction h with
  | nil L => exact ⟨⟨fun _ _ _ => rfl, rfl⟩, by simp⟩
  | @cons L L₁ L' n tokenIDs head tail ih =>
    obtain ⟨hfrom, t, rfl⟩ := head.ok
    refine ⟨ih.toTouches.cons, fun m hm => ?_⟩
    by_cases hmn : m = n
    · subst hmn
      refine ⟨hfrom, ?_⟩
      by_cases hagain : m ∈ tokenIDs
      · exact (ih.token m hagain).2
      · rw [ih.held_other classID m fun hin => hagain hin.2]
        exact ⟨t, NftLedger.held_put_self ..⟩
    · obtain ⟨hfrom', hafter⟩ := ih.token m (List.mem_of_ne_of_mem hmn hm)
      have hsame : (L.put classID n (some ⟨t, sender⟩)).held classID m = L.held classID m :=
        L.held_put_of_ne _ fun heq => hmn (Prod.mk.inj heq).2
      rw [NftLedger.getOwner, hsame] at hfrom'
      exact ⟨hfrom', hafter⟩

end Calls

/-- What goes over a channel under which name. A class goes out under its own name, which never starts with
the channel's prefix; a voucher class goes out under its path. -/
def SentAs (classPrefix : GoString → GoString → GoString) (ibcClassID : GoString → GoString) (L : NftLedger)
    (m : MsgTransfer) (p : Packet) : Prop :=
  p = ⟨m.sourcePort, m.sourceChannel, p.classId, m.tokenIds, m.sender, m.receiver, m.memo⟩ ∧
    (isIBCDenom m.classId = false ∧ p.classId = m.classId ∧
        hasPrefix m.classId (classPrefix m.sourcePort m.sourceChannel) = false ∨
      isIBCDenom m.classId = true ∧ ibcClassID p.classId = m.classId ∧ 47 ∈ p.classId ∧
        L.hasClass p.classId = false)

/-- The keeper of nft-transfer, over the ledger that x/internft gives it. `converted` is the answer of the
`ConvertedNFTChecker` of x/internft. -/
structure Ics721 (X : Extern) (nk : NftKeeper) where
  escrow : GoString → GoString → AccAddress
  classPrefix : GoString → GoString → GoString
  removeClassPrefix : GoString → GoString → GoString → Except Error GoString
  ibcClassID : GoString → GoString
  getVoucherClassID : NftLedger → GoString → Except Error GoString
  transfer : (GoString → GoString → Bool) → NftLedger → MsgTransfer → Except Error (NftLedger × Packet)
  refund : NftLedger → Packet → AccAddress → Except Error NftLedger
  escrow_length : ∀ port channel, (escrow port channel).length = 20
  removeClassPrefix_ok : ∀ {port channel path base},
    removeClassPrefix port channel path = .ok base → path = classPrefix port channel ++ base
  removeClassPrefix_of : ∀ {port channel path}, hasPrefix path (classPrefix port channel) = true →
    ∃ base, removeClassPrefix port channel path = .ok base
  /-- A name that is a class here stands for that class; any other is the path of a voucher class. -/
  getVoucherClassID_eq : ∀ L id,
    getVoucherClassID L id = .ok (if L.hasClass id then id else ibcClassID id)
  /-- What is sent, and the calls that send it. -/
  transfer_calls : ∀ {converted L m L' p}, transfer converted L m = .ok (L', p) →
    SentAs classPrefix ibcClassID L m p ∧ ∃ sender, X.decodeAcc m.sender = .ok sender ∧
      Chained (SendToken nk converted (escrow m.sourcePort m.sourceChannel) sender m.classId) L m.tokenIds L'
  /-- The calls by which a timeout or an error acknowledgement gives a batch back, to the account it is told. -/
  refund_calls : ∀ {L p sender L' classID}, refund L p sender = .ok L' →
    getVoucherClassID L p.classId = .ok classID →
      Chained (RefundToken nk (escrow p.sourcePort p.sourceChannel) sender classID) L p.tokenIds L'

section

variable {X : Extern} {nk : NftKeeper} (ics : Ics721 X nk) {converted : GoString → GoString → Bool}
  {L L' : NftLedger}

lemma Ics721.transfer_ok {m : MsgTransfer} {p : Packet} (h : ics.transfer converted L m = .ok (L', p)) :
    SentAs ics.classPrefix ics.ibcClassID L m p ∧ ∃ sender, X.decodeAcc m.sender = .ok sender ∧
      Sent converted (ics.escrow m.sourcePort m.sourceChannel) sender L L' m.classId m.tokenIds := by
  obtain ⟨hway, sender, hsender, hcalls⟩ := ics.transfer_calls h
  exact ⟨hway, sender, hsender, sent_of_chained hcalls⟩

lemma Ics721.refund_ok {p : Packet} {sender : AccAddress} {classID : GoString} (h : ics.refund L p sender = .ok L')
    (hclass : ics.getVoucherClassID L p.classId = .ok classID) :
    Returned (ics.escrow p.sourcePort p.sourceChannel) sender L L' classID p.tokenIds :=
  returned_of_chained (ics.refund_calls h hclass)

end

end Uptick.Ibc
