import Uptick.BoundInv
import Uptick.Erc721.Registry

/-!
# What the steps write into the native ledger

Every step of the system, taken apart into writes of single records. A property of the native ledger that each write
keeps is then a property of every run, whichever module wrote.
-/

namespace Uptick

open Text Evm Outcome Collection
open Relation (ReflTransGen)

variable {C : Chain}

/-- The states of the EVM that taking tokens leads to. -/
def Evm.EvmCalls.Takes (E : EvmCalls) : E.State → E.State → Prop :=
  ReflTransGen fun st st' => (∃ caller c src dst v, E.safeTransferFrom st caller c src dst v = .ok st') ∨
    ∃ caller c v, E.burn st caller c v = .ok st'

/-- The states of the wasm module that taking tokens leads to. -/
def Wasm.WasmCalls.Takes (W : Wasm.WasmCalls) : W.State → W.State → Prop :=
  ReflTransGen fun st st' => ∃ sender c t recipient, W.transferNft st sender c t recipient = .ok st'

/-- The contract that a conversion asks: the one of the message, or of the pair that is registered for it. -/
def Erc721.MsgConvertERC721.Asks (msg : Erc721.MsgConvertERC721) (w : World C) (a : Address) : Prop :=
  a = hexToAddress (Erc721.canonicalContractAddress msg.evmContractAddress) ∨
    ∃ pair, Erc721.getPairByEVM C.toExtern w.erc721 (Erc721.canonicalContractAddress msg.evmContractAddress) =
      .ok pair ∧ a = pair.getERC721Contract

/-- The texts that an ERC721 contract reports for the token of an NFT of the batch, while the batch is taken. -/
def Erc721.MsgConvertERC721.Reported (msg : Erc721.MsgConvertERC721) (w : World C) (c n : GoString)
    (f : TokenFields) : Prop :=
  c = msg.classId ∧ ∃ ns t v a evm info,
    Erc721.NamesAll (Erc721.getNFTPairByContractTokenID C.toExtern w.erc721
      (Erc721.canonicalContractAddress msg.evmContractAddress)) msg.classId msg.evmTokenIds msg.cosmosTokenIds ns ∧
    (t, n) ∈ msg.evmTokenIds.zip ns ∧ Erc721.parseEVMTokenID t = .ok v ∧ msg.Asks w a ∧ C.evm.Takes w.evm evm ∧
    Erc721.queryNFTEnhance { w with evm := evm } a v = .ok info ∧ f = ⟨info.name, info.uri, info.uriHash, info.data⟩

/-- The texts that a CW721 contract reports. -/
def Cw721.MsgConvertCW721.Reported (msg : Cw721.MsgConvertCW721) (w : World C) (c n : GoString)
    (f : TokenFields) : Prop :=
  c = msg.classId ∧ ∃ contract ns t wasm info,
    Cw721.normalizeCW721Address C.toExtern msg.contractAddress = .ok contract ∧
    Erc721.NamesAll (Cw721.getNFTPairByContractTokenID w.cw721 contract) msg.classId msg.tokenIds msg.nftIds ns ∧
    (t, n) ∈ msg.tokenIds.zip ns ∧ C.wasm.Takes w.wasm wasm ∧
    Cw721.queryCW721AllNftInfo { w with wasm := wasm } contract t = .ok info ∧ f = ⟨[], info.tokenUri, [], []⟩

/-- The texts that contracts report to a step. -/
def Op.Reported (w : World C) : Op C → GoString → GoString → TokenFields → Prop
  | .convert (.convertERC721 msg) => msg.Reported w
  | .convert (.convertCW721 msg) => msg.Reported w
  | .transferERC721 msg => (msg.convertMsg C.toExtern).Reported w
  | .transferCW721 msg => fun c n f => ∃ contract,
      Cw721.normalizeCW721Address C.toExtern msg.cwContractAddress = .ok contract ∧
        (msg.convertMsg C.toExtern contract).Reported w c n f
  | _ => fun _ _ _ => False

/-- An account that can be read back from its spelling. -/
def Spellable (acc : AccAddress) : Prop := acc ≠ [] ∧ acc.length ≤ 255

lemma spellable_erc721 : Spellable Erc721.accModuleAddress := by
  constructor <;> decide

lemma spellable_cw721 : Spellable Cw721.accModuleAddress := by
  constructor <;> decide

lemma spellable_bytes (a : Address) : Spellable a.bytes := by
  constructor
  · exact List.ne_nil_of_length_pos (by simp [a.length_bytes])
  · simp [a.length_bytes]

/-- One write of the native ledger. Messages bring their own texts; a conversion brings those that a contract
reports. -/
inductive Write (Reported : GoString → GoString → TokenFields → Prop) : NftLedger → NftLedger → Prop
  | message {w : World C} {msg : CollectionMsg} {L' : NftLedger} (valid : msg.validateBasic C.toExtern = .ok ())
      (h : msg.handle w = .ok L') : Write Reported w.nft L'
  | saveDenom {L L' : NftLedger} {id : GoString} {f : DenomFields} {creator : AccAddress}
      (account : Spellable creator) (h : Collection.saveDenom C.toExtern C.nk L id f creator = .ok L') :
      Write Reported L L'
  | mint {L L' : NftLedger} {msg : MsgMintNFT} (reported : Reported msg.denomId msg.id msg.fields)
      (h : mintNFT C.toExtern C.nk L msg = .ok L') : Write Reported L L'
  | merge {L L' : NftLedger} {msg : MsgTransferNFT} (reported : Reported msg.denomId msg.id msg.fields)
      (h : transferNFT C.toExtern C.nk L msg = .ok L') : Write Reported L L'
  | give {L : NftLedger} {c n : GoString} {token : NFT} {src dst : AccAddress} (held : L.held c n = some ⟨token, src⟩)
      (account : Spellable dst) : Write Reported L (L.put c n (some ⟨token, dst⟩))
  | burn {L : NftLedger} {c n : GoString} : Write Reported L (L.put c n none)
  | sent {converted : GoString → GoString → Bool} {L L' : NftLedger} {m : Ibc.MsgTransfer} {p : Ibc.Packet}
      (h : C.ics.transfer converted L m = .ok (L', p)) : Write Reported L L'
  | returned {L L' : NftLedger} {p : Ibc.Packet} {acc : AccAddress} (account : Spellable acc)
      (h : C.ics.refund L p acc = .ok L') : Write Reported L L'

abbrev Writes (C : Chain) (Reported : GoString → GoString → TokenFields → Prop) : NftLedger → NftLedger → Prop :=
  ReflTransGen (Write (C := C) Reported)

/-- What each write keeps, several keep. -/
theorem Writes.invariant {R : GoString → GoString → TokenFields → Prop} {I : NftLedger → Prop}
    (hwrite : ∀ L L', I L → Write (C := C) R L L' → I L') {L L' : NftLedger} (h : Writes C R L L') (hL : I L) :
    I L' := by
  induction h with
  | refl => exact hL
  | tail _ hlast ih => exact hwrite _ _ ih hlast

lemma Write.mono {R R' : GoString → GoString → TokenFields → Prop} (hR : ∀ c n f, R c n f → R' c n f)
    {L L' : NftLedger} (h : Write (C := C) R L L') : Write (C := C) R' L L' := by
  cases h with
  | message valid h => exact .message valid h
  | saveDenom account h => exact .saveDenom account h
  | mint reported h => exact .mint (hR _ _ _ reported) h
  | merge reported h => exact .merge (hR _ _ _ reported) h
  | give held account => exact .give held account
  | burn => exact .burn
  | sent h => exact .sent h
  | returned account h => exact .returned account h

variable {w w' : World C} {R : GoString → GoString → TokenFields → Prop}

namespace Erc721

lemma ensureRegisteredERC721_writes {msg : MsgConvertERC721} {K : GoString}
    (h : ensureRegisteredERC721 w msg = .ok (w', K)) : Writes C R w.nft w'.nft ∧ w'.evm = w.evm := by
  obtain ⟨rfl, -⟩ | reg := ensureRegisteredERC721_cases h
  · exact ⟨.refl, rfl⟩
  · obtain ⟨fields, nft, hnft, rfl⟩ := reg.saved
    exact ⟨.single (.saveDenom spellable_erc721 hnft), rfl⟩

lemma asks_of_registered {msg : MsgConvertERC721} {ns : List GoString} {K : GoString} {pair : TokenPair}
    (h : ensureRegisteredERC721 w (msg.resolved msg.classId ns) = .ok (w', K))
    (hpair : getPairByEVM C.toExtern w'.erc721 (canonicalContractAddress msg.evmContractAddress) = .ok pair) :
    msg.Asks w pair.getERC721Contract := by
  obtain ⟨rfl, -⟩ | reg := ensureRegisteredERC721_cases h
  · exact .inr ⟨pair, hpair, rfl⟩
  · obtain ⟨fields, nft, -, rfl⟩ := reg.saved
    left
    rw [getPairByEVM_putPair reg.contract_free rfl hpair]
    exact getERC721Contract_newTokenPair _ _

lemma takeERC721_takes {pair : TokenPair} {sender : Address} {t : GoString} {v : Nat} {evm' : C.evm.State}
    (h : takeERC721 w pair sender t v = .ok evm') : C.evm.Takes w.evm evm' := by
  apply ReflTransGen.single
  rcases (takeERC721_eq_ok.mp h).2 with ⟨-, h⟩ | ⟨-, h⟩
  · exact .inr ⟨_, _, _, h⟩
  · exact .inl ⟨_, _, _, _, _, h⟩

lemma releaseNFT_write {msg : MsgConvertERC721} {t n : GoString} {info : NFTEnhance} {L' : NftLedger}
    (hreported : R msg.classId n ⟨info.name, info.uri, info.uriHash, info.data⟩)
    (h : releaseNFT w msg t n info = .ok L') : Write (C := C) R w.nft L' := by
  unfold releaseNFT at h
  split at h
  · exact .mint hreported (mapError_eq_ok.mp h)
  · obtain ⟨-, h⟩ := require_bind_eq_ok.mp h
    exact .merge hreported (mapError_eq_ok.mp h)

theorem convertERC721_writes {msg : MsgConvertERC721} (hb : isBlank msg.classId = false)
    (hne : msg.evmTokenIds ≠ []) {res : MsgConvertERC721Response} (h : convertERC721 w msg = .ok (w', res)) :
    Writes C (msg.Reported w) w.nft w'.nft := by
  obtain ⟨ns, sender, w₁, pair, steps, -⟩ := (convertERC721_eq_ok hb hne).mp h
  obtain ⟨w₂, st, -, -, hloop, -, rfl⟩ := convertEvm2Cosmos_eq_ok.mp steps.converted
  obtain ⟨hregister, hevm⟩ := @ensureRegisteredERC721_writes C w w₁ (msg.Reported w) _ _ steps.registered
  have hasks : msg.Asks w pair.getERC721Contract := asks_of_registered steps.registered steps.pair_eq
  -- the loop leaves the EVM in states that taking tokens leads to
  have hinv : Writes C (msg.Reported w) w.nft w₂.nft ∧ C.evm.Takes w.evm w₂.evm := by
    refine @forEach_invariant _ _ _ _ (fun s : World C => Writes C (msg.Reported w) w.nft s.nft ∧
      C.evm.Takes w.evm s.evm) _ (fun s x s' hx hs hround => ?_) _ _ ⟨hregister, hevm ▸ .refl⟩ hloop
    obtain ⟨v, info, evm', L', hv, hinfo, htake, hrel, rfl⟩ := evm2CosmosRound_eq_ok.mp hround
    refine ⟨hs.1.tail (@releaseNFT_write C { s with evm := evm' } _ (msg.resolved msg.classId ns) _ _ _ _ ?_ hrel),
      hs.2.trans (takeERC721_takes htake)⟩
    exact ⟨rfl, ns, x.1, v, _, s.evm, info, steps.named, hx, hv, hasks, hs.2, hinfo, rfl⟩
  exact hinv.1

theorem convertNFT_writes {msg : MsgConvertNFT} (h : convertNFT w msg = .ok w') : Writes C R w.nft w'.nft := by
  obtain ⟨w₁, pair, c, ids, steps, hnft⟩ := convertNFT_steps_nft h
  obtain ⟨w₂, st, -, hloop, -, rfl⟩ := convertCosmos2Evm_eq_ok.mp steps.converted
  have hrun : Writes C R w₁.nft w₂.nft := by
    refine @forEach_invariant _ _ _ _ (fun s : World C => Writes C R w₁.nft s.nft) _
      (fun s x s' _ hs hround => ?_) _ _ .refl hloop
    obtain ⟨_, _, _, _, _, _, -, -, hheld, -, -, -, rfl⟩ := cosmos2EvmRound_eq_ok.mp hround
    exact hs.tail (.give hheld spellable_erc721)
  exact hnft ▸ hrun

lemma Refunds.writes {K n : GoString} (h : Refunds K w n w') : Writes C R w.nft w'.nft := by
  have hburn : ∀ evm t c, Writes C R w.nft (burnRefunded (cleared w evm K n t c) K n).nft := by
    intro evm t c
    rw [burnRefunded_eq]
    split
    · exact .single .burn
    · exact .refl
  cases h with
  | skipped => exact .refl
  | returned => exact hburn _ _ _
  | dropped => exact hburn _ _ _

lemma refundPacketToken_writes (w : World C) (K : GoString) (ns : List GoString) :
    Writes C R w.nft (refundPacketToken w K ns).nft :=
  @refundPacketToken_invariant C (fun s => Writes C R w.nft s.nft) K ns
    (fun _ _ _ _ hs hround => hs.trans hround.writes) w .refl

/-- The settlement hands NFTs over and burns none. -/
lemma settleIBCVoucherPairs_writes (w : World C) : Writes C R w.nft (settleIBCVoucherPairs w).world.nft := by
  refine @settle_invariant C (fun s => Writes C R w.nft s.world.nft) w (fun s hs _ _ _ b _ => ?_)
    (fun _ hs _ _ _ _ => hs) .refl
  rw [world_handle]
  have hcases := settleVoucherBinding_handles s.world b
  generalize settleVoucherBinding s.world b = r at hcases
  cases hcases with
  | kept => exact hs
  | stale => exact hs
  | orphan => exact hs
  | wrapped _ _ native =>
    exact hs.tail (.give native (spellable_bytes _))

end Erc721

namespace Cw721

lemma ensureRegisteredCW721_writes {msg : MsgConvertCW721} {K : GoString}
    (h : ensureRegisteredCW721 w msg = .ok (w', K)) : Writes C R w.nft w'.nft ∧ w'.wasm = w.wasm := by
  obtain ⟨rfl, -⟩ | ⟨c, reg⟩ := ensureRegisteredCW721_cases h
  · exact ⟨.refl, rfl⟩
  · obtain ⟨fields, nft, hnft, rfl⟩ := reg.saved
    exact ⟨.single (.saveDenom spellable_cw721 hnft), rfl⟩

/-- A new NFT comes with the URI of the contract; one that is there is handed over as it is. -/
lemma releaseNFT_write {msg : MsgConvertCW721} {t n uri : GoString} {L' : NftLedger}
    (hreported : R msg.classId n ⟨[], uri, [], []⟩) (h : releaseNFT w msg t n uri = .ok L') :
    Write (C := C) R w.nft L' := by
  have hsource := releaseNFT_ok h
  unfold releaseNFT at h
  split at h
  · exact .mint hreported h
  · next hne =>
    obtain ⟨recipient, hrel⟩ := hsource
    obtain ⟨hnil, -⟩ | ⟨-, token, hheld, rfl⟩ := hrel.source
    · exact absurd hnil hne
    · exact .give hheld (C.decodeAcc_ok hrel.recipient_eq)

theorem convertCW721_writes {msg : MsgConvertCW721} (hmsg : msg.Valid C.toExtern)
    {res : MsgConvertCW721Response} (h : convertCW721 w msg = .ok (w', res)) :
    Writes C (msg.Reported w) w.nft w'.nft := by
  obtain ⟨w₁, c, ns, pair, steps, -⟩ := convertCW721_steps hmsg h
  obtain ⟨w₂, st, hloop, -, rfl⟩ := convertWasm2Cosmos_ok steps.converted
  obtain ⟨hregister, hwasm⟩ := @ensureRegisteredCW721_writes C w w₁ (msg.Reported w) _ _ steps.registered
  have hinv : Writes C (msg.Reported w) w.nft w₂.nft ∧ C.wasm.Takes w.wasm w₂.wasm := by
    refine @forEach_invariant _ _ _ _ (fun s : World C => Writes C (msg.Reported w) w.nft s.nft ∧
      C.wasm.Takes w.wasm s.wasm) _ (fun s x s' hx hs hround => ?_) _ _ ⟨hregister, hwasm ▸ .refl⟩ hloop
    unfold wasm2CosmosRound at hround
    obtain ⟨info, hinfo, hround⟩ := bind_eq_ok.mp hround
    obtain ⟨wasm', htake, hround⟩ := bind_eq_ok.mp hround
    obtain ⟨L', hrel, hround⟩ := bind_eq_ok.mp hround
    cases hround
    obtain ⟨-, htake⟩ := require_bind_eq_ok.mp htake
    obtain ⟨sender, -, htake⟩ := bind_eq_ok.mp htake
    obtain ⟨contract, -, htake⟩ := bind_eq_ok.mp htake
    refine ⟨hs.1.tail (@releaseNFT_write C { s with wasm := wasm' } _ { msg with contractAddress := c, nftIds := ns }
      _ _ _ _ ?_ hrel), hs.2.tail ⟨_, _, _, _, htake⟩⟩
    exact ⟨rfl, c, ns, x.1, s.wasm, info, steps.contract_eq, steps.named, hx, hs.2, hinfo, rfl⟩
  exact hinv.1

theorem convertNFT_writes {msg : MsgConvertNFT} (h : convertNFT w msg = .ok w') : Writes C R w.nft w'.nft := by
  obtain ⟨w₁, c, ids, steps, hnft⟩ := convertNFT_steps_nft h
  obtain ⟨w₂, st, -, hloop, -, rfl⟩ := convertCosmos2Wasm_ok steps.converted
  have hrun : Writes C R w₁.nft w₂.nft := by
    refine @forEach_invariant _ _ _ _ (fun s : World C => Writes C R w₁.nft s.nft) _
      (fun s x s' _ hs hround => ?_) _ _ .refl hloop
    obtain ⟨_, _, _, _, -, hheld, -, rfl⟩ := cosmos2WasmRound_ok hround
    exact hs.tail (.give hheld spellable_cw721)
  exact hnft ▸ hrun

lemma Refunds.writes {K n : GoString} (h : Refunds K w n w') : Writes C R w.nft w'.nft := by
  have hburn : ∀ wasm t c, Writes C R w.nft (burnRefunded (cleared w wasm K n t c) K n).nft := by
    intro wasm t c
    rw [burnRefunded_eq]
    split
    · exact .single .burn
    · exact .refl
  cases h with
  | skipped => exact .refl
  | returned => exact hburn _ _ _
  | dropped => exact hburn _ _ _

lemma refundPacketToken_writes (w : World C) (K : GoString) (ns : List GoString) :
    Writes C R w.nft (refundPacketToken w K ns).nft :=
  @refundPacketToken_invariant C (fun s => Writes C R w.nft s.nft) K ns
    (fun _ _ _ _ hs hround => hs.trans hround.writes) w .refl

end Cw721

/-- nft-transfer brings the NFTs back, then the module of the packet refunds the tokens. -/
lemma Ibc.onTimeoutPacket_writes {p : Packet} (h : onTimeoutPacket w p = .ok w') : Writes C R w.nft w'.nft := by
  unfold onTimeoutPacket at h
  split at h
  · obtain ⟨K, -, h⟩ := bind_eq_ok.mp h
    obtain ⟨L, hL, h⟩ := bind_eq_ok.mp h
    cases h
    exact .head (.returned spellable_erc721 hL) (Erc721.refundPacketToken_writes { w with nft := L } _ _)
  · obtain ⟨K, -, h⟩ := bind_eq_ok.mp h
    obtain ⟨L, hL, h⟩ := bind_eq_ok.mp h
    cases h
    exact .head (.returned spellable_cw721 hL) (Cw721.refundPacketToken_writes { w with nft := L } _ _)
  · obtain ⟨acc, hacc, h⟩ := bind_eq_ok.mp h
    obtain ⟨L, hL, h⟩ := bind_eq_ok.mp h
    cases h
    exact .single (.returned (C.decodeAcc_ok hacc) hL)

lemma ConvertMsg.writes {msg : ConvertMsg} (valid : msg.validateBasic C.toExtern = .ok ())
    (h : msg.handle w = .ok w') : Writes C (Op.Reported w (.convert msg)) w.nft w'.nft := by
  cases msg with
  | convertNFT msg => exact Erc721.convertNFT_writes h
  | convertERC721 msg =>
    obtain ⟨⟨w₁, res⟩, hrun, rfl⟩ := map_eq_ok.mp h
    have hmsg := Erc721.MsgConvertERC721.validateBasic_eq_ok.mp valid
    exact Erc721.convertERC721_writes hmsg.classId hmsg.nonempty hrun
  | convertNFTToCW721 msg => exact Cw721.convertNFT_writes h
  | convertCW721 msg =>
    obtain ⟨⟨w₁, res⟩, hrun, rfl⟩ := map_eq_ok.mp h
    exact Cw721.convertCW721_writes (Cw721.MsgConvertCW721.valid_of_validateBasic valid) hrun

/-- A step is a sequence of writes, or the receipt of a packet. -/
theorem Step.writes {s s' : System C} {op : Op C} (h : Step s op s') :
    Writes C (op.Reported s.world) s.world.nft s'.world.nft ∨
      ∃ a, op = .receive a ∧ Ibc.Received (C.ics.escrow a.port a.channel) s.world.nft s'.world.nft a := by
  cases h with
  | collection valid h => exact .inl (.single (.message valid h))
  | convert valid h => exact .inl (ConvertMsg.writes valid h)
  | @transferERC721 w _ _ msg _ valid h =>
    left
    obtain ⟨w₁, res, L, sender, steps⟩ := Erc721.transferERC721_steps h
    obtain ⟨hb, hne⟩ := msg.classId_and_nonempty valid
    rw [steps.world]
    exact (Erc721.convertERC721_writes hb hne steps.converted).tail (.sent steps.sent)
  | @transferCW721 w _ _ msg _ valid h =>
    left
    obtain ⟨w₁, c, res, L, steps⟩ := Cw721.transferCW721_steps h
    have hconv := Cw721.convertCW721_writes (msg.valid_convertMsg valid c) steps.converted
    rw [steps.world]
    have hreported : Writes C (Op.Reported w (.transferCW721 msg)) w.nft w₁.nft := by
      apply ReflTransGen.mono _ _ _ hconv
      exact fun _ _ hwrite => hwrite.mono fun _ _ _ hr => ⟨c, steps.contract, hr⟩
    exact hreported.tail (.sent steps.sent)
  | transfer h => exact .inl (.single (.sent h))
  | @receive w fl a L h => exact .inr ⟨a, rfl, h⟩
  | deliver => exact .inl .refl
  | refund _ h => exact .inl (Ibc.onTimeoutPacket_writes h)
  | settle => exact .inl (Erc721.settleIBCVoucherPairs_writes _)
  | prune o => exact .inl .refl
  | purge => exact .inl .refl
  | evm => exact .inl .refl
  | wasm => exact .inl .refl

end Uptick
