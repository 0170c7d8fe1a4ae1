import Uptick.Cw721.Batch
import Uptick.Erc721.Registry
import Uptick.Messages
import Uptick.SampleChain

/-!
# Whose tokens a conversion moves

The four conversion messages, the tokens of the three ledgers with their owners, and which of them a
message of one account may move.
-/

namespace Uptick

open Text Evm Outcome Collection

/-- A token of one of the three ledgers. -/
inductive Asset
  | erc721 (contract : Address) (tokenID : Nat)
  | cw721 (contract : AccAddress) (tokenID : GoString)
  | native (classID nftID : GoString)
  deriving DecidableEq

/-- An owner as its ledger has it: an EVM account, a text that a CW721 contract keeps, or an account. -/
inductive Owner
  | evm (address : Address)
  | text (address : GoString)
  | account (acc : AccAddress)
  deriving DecidableEq

def Owner.Is (X : Extern) (acc : AccAddress) : Owner → Prop
  | .evm a => a = evmAddress acc
  | .text s => X.decodeAcc s = .ok acc
  | .account a => a = acc

instance (X : Extern) (acc : AccAddress) : (o : Owner) → Decidable (o.Is X acc)
  | .evm a => inferInstanceAs (Decidable (a = evmAddress acc))
  | .text s => inferInstanceAs (Decidable (X.decodeAcc s = .ok acc))
  | .account a => inferInstanceAs (Decidable (a = acc))

variable {C : Chain}

namespace World

def owner (w : World C) : Asset → Option Owner
  | .erc721 c v => (Erc721.ercOwner w (c, v)).map .evm
  | .cw721 c t => (Cw721.cwOwner w (c, t)).map .text
  | .native K n => (Erc721.nftOwner w (K, n)).map .account

/-- The forward index of one of the modules has the NFT for the contract token. -/
def Forward (w : World C) : Asset → Asset → Prop
  | .erc721 c v, .native K n => Erc721.ForwardBinds w.erc721 c v K n
  | .cw721 c t, .native K n => Cw721.ForwardBinds C.toExtern w.cw721 c t K n
  | _, _ => False

end World

namespace ConvertMsg

/-- The tokens that the signer puts into the batch. -/
def Gives (X : Extern) : ConvertMsg → Asset → Prop
  | .convertNFT msg, .native K n => K = msg.classId ∧ n ∈ msg.cosmosTokenIds
  | .convertERC721 msg, .erc721 c v => c = hexToAddress msg.evmContractAddress ∧
      ∃ t ∈ msg.evmTokenIds, Erc721.parseEVMTokenID t = .ok v
  | .convertNFTToCW721 msg, .native K n => K = msg.classId ∧ n ∈ msg.nftIds
  | .convertCW721 msg, .cw721 c t => X.decodeAcc msg.contractAddress = .ok c ∧ t ∈ msg.tokenIds
  | _, _ => False

/-- Every token that had an owner and changed it was the signer's, or it was at the module account and the
forward index binds it to a token of the batch that was the signer's and is now at the module account or
gone. -/
def MovesOnlyOwn (m : ConvertMsg) (w w' : World C) (signer : AccAddress) : Prop :=
  ∀ A o, w.owner A = some o → w'.owner A ≠ some o → o.Is C.toExtern signer ∨
    (o.Is C.toExtern m.moduleAccount ∧ ∃ B, m.Gives C.toExtern B ∧ (w.Forward A B ∨ w.Forward B A) ∧
      (∃ o', w.owner B = some o' ∧ o'.Is C.toExtern signer) ∧
      ∀ o', w'.owner B = some o' → o'.Is C.toExtern m.moduleAccount)

/-- For a conversion of NFTs to CW721 tokens: every token that the forward index has for an NFT of the batch
is held by the module account, by the signer, or by the very account that is to receive it. Nothing is
asked of the other messages. -/
def HeldByParties (m : ConvertMsg) (w : World C) (signer : AccAddress) : Prop :=
  match m with
  | .convertNFTToCW721 msg => ∀ n ∈ msg.nftIds, ∀ c t o, w.Forward (.cw721 c t) (.native msg.classId n) →
      Cw721.cwOwner w (c, t) = some o →
        C.decodeAcc o = .ok Cw721.accModuleAddress ∨ C.decodeAcc o = .ok signer ∨ o = msg.receiver
  | _ => True

end ConvertMsg

namespace Cw721

variable {w w' : World C}

lemma nftOwner_of_prepares {w₁ : World C} (h : Prepares w w₁) : Erc721.nftOwner w₁ = Erc721.nftOwner w := by
  funext x
  rw [Erc721.nftOwner, Erc721.nftOwner, h.held]

lemma cwOwner_of_prepares {w₁ : World C} (h : Prepares w w₁) : cwOwner w₁ = cwOwner w :=
  funext fun x => h.owner x.1 x.2

lemma outTerms_of_prepares {w₁ : World C} (h : Prepares w w₁) :
    outTerms C.toExtern w₁.cw721 = outTerms C.toExtern w.cw721 := by
  unfold outTerms ForwardBinds
  rw [h.byTokenUID]

lemma inTerms_of_prepares {w₁ : World C} (h : Prepares w w₁) :
    inTerms C.toExtern w₁.cw721 = inTerms C.toExtern w.cw721 := by
  unfold inTerms ForwardBinds
  rw [h.byTokenUID]

/-- Every forward entry has its reverse entry, and its class has a pair with its contract. -/
def IndexConsistent (X : Extern) (st : Store) : Prop :=
  ∀ c t K n, ForwardBinds X st c t K n → t ≠ [] ∧ savedTokenID st K n = t ∧
    ∃ pair, getPairByClass st K = .ok pair ∧ X.decodeAcc pair.cw721Address = .ok c

/-- The conversion of NFTs to CW721 tokens is a batch of exchanges. A bound NFT is in it with its token. -/
theorem convertNFT_exchange {msg : MsgConvertNFT} (hne : msg.nftIds ≠ []) {sender : AccAddress}
    (hsender : C.decodeAcc msg.sender = .ok sender) (h : convertNFT w msg = .ok w') :
    ∃ ids : List GoString, ∃ contract, w'.evm = w.evm ∧
      Exchange.Rounds (outTerms C.toExtern w.cw721 sender msg.receiver)
        ((ids.zip msg.nftIds).map fun x => ((msg.classId, x.2), (contract, x.1))) (Erc721.nftOwner w) (cwOwner w)
        (Erc721.nftOwner w') (cwOwner w') ∧
      (IndexConsistent C.toExtern w.cw721 → ∀ n ∈ msg.nftIds, ∀ c t,
        ForwardBinds C.toExtern w.cw721 c t msg.classId n → c = contract ∧ (t, n) ∈ ids.zip msg.nftIds) := by
  obtain ⟨w₁, c, ids, steps⟩ := convertNFT_steps h
  obtain ⟨w₀, hids⟩ := steps.resolved
  obtain ⟨w₂, st, hlen, hloop, -, rfl⟩ := convertCosmos2Wasm_ok steps.converted
  -- the batch is not empty, so some round has read the contract
  obtain ⟨contract, hcontract⟩ : ∃ contract, C.decodeAcc c = .ok contract := by
    cases hz : ids.zip msg.nftIds with
    | nil =>
      exfalso
      have hl : (ids.zip msg.nftIds).length = 0 := by simp [hz]
      rw [List.length_zip, show ids.length = msg.nftIds.length from hlen, min_self] at hl
      exact hne (List.length_eq_zero_iff.mp hl)
    | cons x xs =>
      rw [show ({ msg with contractAddress := c, tokenIds := ids } : MsgConvertNFT).tokenIds.zip
        ({ msg with contractAddress := c, tokenIds := ids } : MsgConvertNFT).nftIds = x :: xs from hz] at hloop
      obtain ⟨u, hu, -⟩ := forEach_cons_eq_ok.mp hloop
      exact decodeAcc_of_cosmos2WasmRound hu
  obtain ⟨hframe, hrounds⟩ := @cosmos2Wasm_rounds C w₁ w₂ { msg with contractAddress := c, tokenIds := ids }
    sender contract hsender hcontract _ hloop
  rw [nftOwner_of_prepares steps.prepares, cwOwner_of_prepares steps.prepares] at hrounds
  rw [outTerms_of_prepares steps.prepares] at hrounds
  refine ⟨ids, contract, hframe.evm.trans steps.prepares.evm, hrounds, fun hindex n hn c' t hbinds => ?_⟩
  obtain ⟨ht, hsaved, pair, hpair, hc'⟩ := hindex c' t msg.classId n hbinds
  rcases getContractAddressAndTokenIds_cases hids with ⟨pair', hpair', rfl, -⟩ | ⟨⟨e, he⟩, -⟩
  · obtain rfl : pair = pair' := Except.ok.inj (hpair.symm.trans hpair')
    refine ⟨Except.ok.inj (hc'.symm.trans hcontract), ?_⟩
    rw [← hsaved]
    exact getContractAddressAndTokenIds_saved hpair hids hn (hsaved.trans_ne ht)
  · rw [he] at hpair
    cases hpair

theorem convertCW721_exchange {msg : MsgConvertCW721} (hmsg : msg.Valid C.toExtern) {recipient : AccAddress}
    (hrecipient : C.decodeAcc msg.receiver = .ok recipient) {res : MsgConvertCW721Response}
    (h : convertCW721 w msg = .ok (w', res)) :
    ∃ contract, ∃ ids : List (GoString × GoString),
      C.decodeAcc msg.contractAddress = .ok contract ∧ (∀ x ∈ ids, x.1 ∈ msg.tokenIds) ∧
      w'.evm = w.evm ∧ Exchange.Rounds (inTerms C.toExtern w.cw721 msg.sender recipient)
        (ids.map fun x => ((contract, x.1), (msg.classId, x.2))) (cwOwner w) (Erc721.nftOwner w) (cwOwner w')
        (Erc721.nftOwner w') := by
  obtain ⟨w₁, c, ns, pair, steps, -⟩ := convertCW721_steps hmsg h
  obtain ⟨contract, hacc, rfl⟩ := normalizeCW721Address_eq_ok.mp steps.contract_eq
  obtain ⟨w₂, st, hloop, -, rfl⟩ := convertWasm2Cosmos_ok steps.converted
  have hprep := steps.prepares hmsg.classId
  obtain ⟨hframe, hrounds⟩ := @wasm2Cosmos_rounds C w₁ w₂
    { msg with contractAddress := C.accString contract, nftIds := ns } contract recipient
    (C.toExtern.decodeAcc_accString_of_ok hacc) hrecipient _
    (fun x hx => by
      obtain ⟨org, hname, -⟩ := steps.named.names hx
      rw [hprep.forward]
      exact hname.bound_eq.imp_right fun h => h.1) hloop
  rw [nftOwner_of_prepares hprep, cwOwner_of_prepares hprep] at hrounds
  refine ⟨contract, msg.tokenIds.zip ns, hacc, fun x hx => (List.of_mem_zip hx).1, hframe.evm.trans hprep.evm, ?_⟩
  rw [inTerms_of_prepares hprep] at hrounds
  exact hrounds

end Cw721

namespace ConvertMsg

variable {w w' : World C} {signer : AccAddress}

lemma movesOnlyOwn_convertNFT {msg : Erc721.MsgConvertNFT} (hs : C.decodeAcc msg.cosmosSender = .ok signer)
    (h : Erc721.convertNFT w msg = .ok w') : (convertNFT msg).MovesOnlyOwn w w' signer := by
  obtain ⟨w₁, pair, ids, hbatch, hids⟩ := Erc721.convertNFT_batch hs h
  have hrounds := hbatch.rounds
  intro A o ho hne
  cases A with
  | cw721 c t =>
    refine absurd ?_ hne
    rw [← ho, World.owner, World.owner, Cw721.cwOwner, Cw721.cwOwner, hbatch.wasm]
  | native K n =>
    simp only [World.owner, Option.map_eq_some_iff] at ho
    obtain ⟨acc, hacc, rfl⟩ := ho
    rcases hrounds.given (K, n) with hsame | ⟨hsender, -, -⟩
    · exact absurd (by simp [World.owner, hsame, hacc]) hne
    · exact .inl (Option.some.inj (hacc.symm.trans hsender))
  | erc721 c v =>
    simp only [World.owner, Option.map_eq_some_iff] at ho
    obtain ⟨acc, hacc, rfl⟩ := ho
    rcases hrounds.received (c, v) with hsame | hnone | ⟨x, o', hmem, hbound, ho', hrel⟩
    · exact absurd (by simp [World.owner, hsame, hacc]) hne
    · rw [hnone] at hacc
      cases hacc
    · obtain rfl := Option.some.inj (hacc.symm.trans ho')
      obtain ⟨ids', hids', heq⟩ := List.mem_map.mp hmem
      obtain ⟨rfl, -⟩ := Prod.mk.inj heq
      obtain ⟨hgiven, hcustody⟩ := hrounds.custody_of_mem hmem
      have hfwd := hbound.2.forwardBinds (isHexAddress_lowerHex _)
      rw [← hbound.1] at hfwd
      refine .inr ⟨hrel, .native msg.classId ids'.2, ⟨rfl, hids ids' hids'⟩,
        .inl (hfwd.of_shrinks hbatch.prepares.store),
        ⟨.account signer, by simp [World.owner, hgiven, Erc721.outTerms], rfl⟩, fun o' ho'' => ?_⟩
      have hcustody' : Erc721.nftOwner w' (msg.classId, ids'.2) = some Erc721.accModuleAddress := hcustody
      simp only [World.owner, hcustody', Option.map_some, Option.some.injEq] at ho''
      rw [← ho'']
      rfl

lemma movesOnlyOwn_convertERC721 {msg : Erc721.MsgConvertERC721} (hmsg : msg.Valid C.toExtern)
    (hreg : Erc721.RegistryConsistent C.toExtern w.erc721) (hs : C.decodeAcc msg.cosmosSender = .ok signer)
    {res : Erc721.MsgConvertERC721Response} (h : Erc721.convertERC721 w msg = .ok (w', res)) :
    (convertERC721 msg).MovesOnlyOwn w w' signer := by
  obtain ⟨recipient, hrecipient⟩ := hmsg.receiver
  obtain ⟨w₁, pair, ns, hbatch, -, -⟩ := Erc721.convertERC721_batch hmsg.classId hmsg.nonempty hs hrecipient hreg h
  have hrounds := hbatch.rounds
  obtain ⟨hcanon, hhex⟩ := Erc721.hexToAddress_canonical hmsg.contract
  rw [hcanon] at hrounds
  intro A o ho hne
  cases A with
  | cw721 c t =>
    refine absurd ?_ hne
    rw [← ho, World.owner, World.owner, Cw721.cwOwner, Cw721.cwOwner, hbatch.wasm]
  | erc721 c v =>
    simp only [World.owner, Option.map_eq_some_iff] at ho
    obtain ⟨acc, hacc, rfl⟩ := ho
    rcases hrounds.given (c, v) with hsame | ⟨hsender, -, -⟩
    · exact absurd (by simp [World.owner, hsame, hacc]) hne
    · exact .inl (Option.some.inj (hacc.symm.trans hsender))
  | native K n =>
    simp only [World.owner, Option.map_eq_some_iff] at ho
    obtain ⟨acc, hacc, rfl⟩ := ho
    rcases hrounds.received (K, n) with hsame | hnone | ⟨x, o', hmem, hbound, ho', hrel⟩
    · exact absurd (by simp [World.owner, hsame, hacc]) hne
    · rw [hnone] at hacc
      cases hacc
    · obtain rfl := Option.some.inj (hacc.symm.trans ho')
      obtain ⟨ids', hids', heq⟩ := List.mem_map.mp hmem
      obtain ⟨rfl, -⟩ := Prod.mk.inj heq
      obtain ⟨hgiven, hcustody⟩ := hrounds.custody_of_mem hmem
      have htoken : ids'.1 ∈ msg.evmTokenIds := (List.of_mem_zip hids').1
      obtain ⟨v, hv⟩ := Erc721.validateEVMTokenID_eq_ok.mp (hmsg.evmTokenIds _ htoken)
      have hparse := Erc721.parseEVMTokenID_of_parse (Erc721.parse_true_of_parse_false hv)
      rw [Erc721.tokenValue_eq hparse] at hgiven hcustody hbound
      have hfwd := hbound.2.forwardBinds hhex
      rw [hcanon] at hfwd
      refine .inr ⟨hrel, .erc721 (hexToAddress msg.evmContractAddress) v,
        ⟨rfl, ids'.1, htoken, hparse⟩, .inr (hfwd.of_shrinks hbatch.prepares.store),
        ⟨.evm (evmAddress signer), by simp [World.owner, hgiven, Erc721.inTerms], rfl⟩, fun o' ho'' => ?_⟩
      simp only [World.owner, Option.map_eq_some_iff] at ho''
      obtain ⟨a, ha, rfl⟩ := ho''
      have hend := ha.symm.trans hcustody
      split at hend
      · cases hend
      · exact Option.some.inj hend

lemma movesOnlyOwn_convertCW721 {msg : Cw721.MsgConvertCW721} (hmsg : msg.Valid C.toExtern)
    {recipient : AccAddress} (hrecipient : C.decodeAcc msg.receiver = .ok recipient)
    (hs : C.decodeAcc msg.sender = .ok signer) {res : Cw721.MsgConvertCW721Response}
    (h : Cw721.convertCW721 w msg = .ok (w', res)) : (convertCW721 msg).MovesOnlyOwn w w' signer := by
  obtain ⟨contract, ids, hcontract, hids, hevm, hrounds⟩ := Cw721.convertCW721_exchange hmsg hrecipient h
  intro A o ho hne
  cases A with
  | erc721 c v =>
    refine absurd ?_ hne
    rw [← ho, World.owner, World.owner, Erc721.ercOwner, Erc721.ercOwner, hevm]
  | cw721 c t =>
    simp only [World.owner, Option.map_eq_some_iff] at ho
    obtain ⟨acc, hacc, rfl⟩ := ho
    rcases hrounds.given (c, t) with hsame | ⟨hsender, -, -⟩
    · exact absurd (by simp [World.owner, hsame, hacc]) hne
    · obtain rfl := Option.some.inj (hacc.symm.trans hsender)
      exact .inl hs
  | native K n =>
    simp only [World.owner, Option.map_eq_some_iff] at ho
    obtain ⟨acc, hacc, rfl⟩ := ho
    rcases hrounds.received (K, n) with hsame | hnone | ⟨x, o', hmem, hbound, ho', hrel⟩
    · exact absurd (by simp [World.owner, hsame, hacc]) hne
    · rw [hnone] at hacc
      cases hacc
    · obtain rfl := Option.some.inj (hacc.symm.trans ho')
      obtain ⟨ids', hids', heq⟩ := List.mem_map.mp hmem
      obtain ⟨rfl, -⟩ := Prod.mk.inj heq
      obtain ⟨hgiven, hcustody⟩ := hrounds.custody_of_mem hmem
      refine .inr ⟨hrel, .cw721 contract ids'.1, ⟨hcontract, hids ids' hids'⟩, .inr hbound,
        ⟨.text msg.sender, by simp [World.owner, hgiven, Cw721.inTerms], hs⟩, fun o' ho'' => ?_⟩
      have hcustody' : Cw721.cwOwner w' (contract, ids'.1) = some (C.accString Cw721.accModuleAddress) := hcustody
      simp only [World.owner, hcustody', Option.map_some, Option.some.injEq] at ho''
      rw [← ho'']
      exact Cw721.decodeAcc_module _

/-- A CW721 token that is handed out may have been anybody's: it is enough that its holder is one of the
parties. -/
lemma movesOnlyOwn_convertNFTToCW721 {msg : Cw721.MsgConvertNFT} (hids : msg.nftIds ≠ [])
    (hs : C.decodeAcc msg.sender = .ok signer) (h : Cw721.convertNFT w msg = .ok w')
    (hheld : (convertNFTToCW721 msg).HeldByParties w signer) :
    (convertNFTToCW721 msg).MovesOnlyOwn w w' signer := by
  obtain ⟨ids, contract, hevm, hrounds, -⟩ := Cw721.convertNFT_exchange hids hs h
  intro A o ho hne
  cases A with
  | erc721 c v =>
    refine absurd ?_ hne
    rw [← ho, World.owner, World.owner, Erc721.ercOwner, Erc721.ercOwner, hevm]
  | native K n =>
    simp only [World.owner, Option.map_eq_some_iff] at ho
    obtain ⟨acc, hacc, rfl⟩ := ho
    rcases hrounds.given (K, n) with hsame | ⟨hsender, -, -⟩
    · exact absurd (by simp [World.owner, hsame, hacc]) hne
    · exact .inl (Option.some.inj (hacc.symm.trans hsender))
  | cw721 c t =>
    simp only [World.owner, Option.map_eq_some_iff] at ho
    obtain ⟨acc, hacc, rfl⟩ := ho
    rcases hrounds.received (c, t) with hsame | hnone | ⟨x, o', hmem, hbound, ho', -⟩
    · exact absurd (by simp [World.owner, hsame, hacc]) hne
    · rw [hnone] at hacc
      cases hacc
    · obtain ⟨ids', hids', heq⟩ := List.mem_map.mp hmem
      obtain ⟨rfl, hct⟩ := Prod.mk.inj heq
      obtain ⟨rfl, rfl⟩ := Prod.mk.inj hct
      have hn : ids'.2 ∈ msg.nftIds := (List.of_mem_zip hids').2
      rcases hheld ids'.2 hn contract ids'.1 acc hbound hacc with hmodule | hsigner | hreceiver
      · obtain ⟨hgiven, hcustody⟩ := hrounds.custody_of_mem hmem
        refine .inr ⟨hmodule, .native msg.classId ids'.2, ⟨rfl, hn⟩, .inl hbound,
          ⟨.account signer, by simp [World.owner, hgiven, Cw721.outTerms], rfl⟩, fun o' ho'' => ?_⟩
        have hcustody' : Erc721.nftOwner w' (msg.classId, ids'.2) = some Cw721.accModuleAddress := hcustody
        simp only [World.owner, hcustody', Option.map_some, Option.some.injEq] at ho''
        rw [← ho'']
        rfl
      · exact .inl hsigner
      · have hend : Cw721.cwOwner w' (contract, ids'.1) = some msg.receiver := hrounds.receiver_of_mem hmem
        exact absurd (by simp [World.owner, hend, hreceiver]) hne

/-- The receiver ends with the token of every bound NFT, so a stranger who held one has lost it. -/
lemma heldByParties_of_movesOnlyOwn {msg : Cw721.MsgConvertNFT} (hids : msg.nftIds ≠ [])
    (hs : C.decodeAcc msg.sender = .ok signer) (h : Cw721.convertNFT w msg = .ok w')
    (hindex : Cw721.IndexConsistent C.toExtern w.cw721)
    (hmoves : (convertNFTToCW721 msg).MovesOnlyOwn w w' signer) :
    (convertNFTToCW721 msg).HeldByParties w signer := by
  obtain ⟨ids, contract, -, hrounds, hbatch⟩ := Cw721.convertNFT_exchange hids hs h
  intro n hn c t o hbinds ho
  obtain ⟨rfl, hmem⟩ := hbatch hindex n hn c t hbinds
  have hend : Cw721.cwOwner w' (c, t) = some msg.receiver :=
    hrounds.receiver_of_mem (List.mem_map_of_mem hmem)
  by_cases hreceiver : o = msg.receiver
  · exact .inr (.inr hreceiver)
  · have hmoved := hmoves (.cw721 c t) (.text o) (by simp [World.owner, ho]) (by
      simp only [World.owner, hend, Option.map_some, ne_eq, Option.some.injEq, Owner.text.injEq]
      exact fun heq => hreceiver heq.symm)
    rcases hmoved with hsigner | ⟨hmodule, -⟩
    · exact .inr (.inl hsigner)
    · exact .inl hmodule

/-- Each of the four messages moves only tokens of its signer, and tokens at the module account that are
bound to them, as long as no CW721 token bound to an NFT of the batch is a stranger's: x/cw721 lets the
module account move a bound token from whoever holds it. Over an index that has its reverse entries this is
also necessary. A message that fails moves nothing. -/
theorem handle_movesOnlyOwn (m : ConvertMsg) (w w' : World C) (signer : AccAddress)
    (hvalid : m.validateBasic C.toExtern = .ok ()) (hsigner : C.decodeAcc m.signer = .ok signer)
    (hreg : Erc721.RegistryConsistent C.toExtern w.erc721) (h : m.handle w = .ok w') :
    (m.HeldByParties w signer → m.MovesOnlyOwn w w' signer) ∧
      (Cw721.IndexConsistent C.toExtern w.cw721 →
        (m.MovesOnlyOwn w w' signer ↔ m.HeldByParties w signer)) := by
  cases m with
  | convertNFT msg =>
    have hmoves := movesOnlyOwn_convertNFT hsigner h
    exact ⟨fun _ => hmoves, fun _ => iff_of_true hmoves trivial⟩
  | convertERC721 msg =>
    obtain ⟨⟨w₁, res⟩, hok, hw⟩ := map_eq_ok.mp h
    obtain rfl : w₁ = w' := hw
    have hmsg := Erc721.MsgConvertERC721.validateBasic_eq_ok.mp hvalid
    have hmoves := movesOnlyOwn_convertERC721 hmsg hreg hsigner hok
    exact ⟨fun _ => hmoves, fun _ => iff_of_true hmoves trivial⟩
  | convertNFTToCW721 msg =>
    have hids := Cw721.MsgConvertNFT.nftIds_ne_nil hvalid
    have henough := movesOnlyOwn_convertNFTToCW721 hids hsigner h
    exact ⟨henough, fun hindex => ⟨heldByParties_of_movesOnlyOwn hids hsigner h hindex, henough⟩⟩
  | convertCW721 msg =>
    obtain ⟨⟨w₁, res⟩, hok, hw⟩ := map_eq_ok.mp h
    obtain rfl : w₁ = w' := hw
    have hmsg := Cw721.MsgConvertCW721.valid_of_validateBasic hvalid
    obtain ⟨recipient, hrecipient⟩ := hmsg.receiver
    have hmoves := movesOnlyOwn_convertCW721 hmsg hrecipient hsigner hok
    exact ⟨fun _ => hmoves, fun _ => iff_of_true hmoves trivial⟩

/-- Token `7` of a CW721 contract is bound to the NFT `cat7` of class `kitty`, which one user has. The token
is with the given owner, who lets the listed accounts move it. -/
def boundCW721World (owner : AccAddress) (approvals : List AccAddress) : World Sample.chain where
  erc721 := .empty
  cw721 :=
    { Cw721.putPair Sample.X .empty (Sample.accString Sample.cwContract) (str "kitty") with
      byTokenUID := KVStore.empty.set (Cw721.createTokenUID (Sample.accString Sample.cwContract) (str "7"))
        (Cw721.createNFTUID (str "kitty") (str "cat7"))
      byNFTUID := KVStore.empty.set (Cw721.createNFTUID (str "kitty") (str "cat7"))
        (Cw721.createTokenUID (Sample.accString Sample.cwContract) (str "7")) }
  nft := Sample.kittyLedger.put (str "kitty") (str "cat7")
    (some ⟨⟨str "ipfs://cat", [], .value ⟨[], []⟩⟩, Sample.alice⟩)
  evm := .empty
  wasm := Sample.wasmWith owner approvals

/-- The user asks for the CW721 token, for another user. -/
def wrapMsg : ConvertMsg :=
  .convertNFTToCW721 ⟨str "kitty", [str "cat7"], Sample.accString Sample.bob, Sample.accString Sample.alice, [], []⟩

lemma registryConsistent_boundCW721World (owner : AccAddress) (approvals : List AccAddress) :
    Erc721.RegistryConsistent Sample.chain.toExtern (boundCW721World owner approvals).erc721 := by
  intro a pair h
  cases h

lemma cwOwner_boundCW721World {owner : AccAddress} {approvals : List AccAddress} {c : AccAddress} {t o : GoString}
    (h : Cw721.cwOwner (boundCW721World owner approvals) (c, t) = some o) : o = Sample.accString owner := by
  have howner := (Sample.wasm_owner (Sample.wasmWith owner approvals) c t).symm.trans h
  split at howner
  · simp only [Sample.wasmWith, Option.ite_none_right_eq_some, Option.some.injEq] at howner
    exact howner.2.symm
  · cases howner

/-- A token at the module account goes to the receiver. -/
theorem handle_movesOnlyOwn_module : ∃ w', wrapMsg.handle (boundCW721World Cw721.accModuleAddress []) = .ok w' ∧
    wrapMsg.MovesOnlyOwn (boundCW721World Cw721.accModuleAddress []) w' Sample.alice := by
  obtain ⟨w', hok⟩ : ∃ w', wrapMsg.handle (boundCW721World Cw721.accModuleAddress []) = .ok w' :=
    exists_eq_ok (by decide +kernel)
  refine ⟨w', hok, (handle_movesOnlyOwn wrapMsg _ w' Sample.alice (by decide +kernel) (by decide +kernel)
    (registryConsistent_boundCW721World _ _) hok).1 ?_⟩
  intro n _ c t o _ ho
  left
  rw [cwOwner_boundCW721World ho]
  decide +kernel

/-- A third user holds the token and lets the module account move it: the message takes it from them. -/
theorem handle_moves_strangers_token : ∃ w',
    wrapMsg.validateBasic Sample.X = .ok () ∧ Sample.X.decodeAcc wrapMsg.signer = .ok Sample.alice ∧
      wrapMsg.handle (boundCW721World Sample.carol [Cw721.accModuleAddress]) = .ok w' ∧
      Cw721.cwOwner w' (Sample.cwContract, str "7") = some (Sample.accString Sample.bob) ∧
      ¬ wrapMsg.MovesOnlyOwn (boundCW721World Sample.carol [Cw721.accModuleAddress]) w' Sample.alice := by
  obtain ⟨w', hok⟩ : ∃ w', wrapMsg.handle (boundCW721World Sample.carol [Cw721.accModuleAddress]) = .ok w' :=
    exists_eq_ok (by decide +kernel)
  have hend : Cw721.cwOwner w' (Sample.cwContract, str "7") = some (Sample.accString Sample.bob) := by
    have hrun : (wrapMsg.handle (boundCW721World Sample.carol [Cw721.accModuleAddress])).toOption.bind
        (fun w' => Cw721.cwOwner w' (Sample.cwContract, str "7")) = some (Sample.accString Sample.bob) := by
      decide +kernel
    rw [hok] at hrun
    exact hrun
  refine ⟨w', by decide +kernel, by decide +kernel, hok, hend, fun hmoves => ?_⟩
  have hmoved := hmoves (.cw721 Sample.cwContract (str "7")) (.text (Sample.accString Sample.carol))
    (by decide +kernel) (by
      rw [World.owner, hend]
      decide +kernel)
  rcases hmoved with hsigner | ⟨hmodule, -⟩
  · exact absurd hsigner (by decide +kernel)
  · exact absurd hmodule (by decide +kernel)

end ConvertMsg

end Uptick
