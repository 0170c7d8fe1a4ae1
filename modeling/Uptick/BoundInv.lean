import Uptick.Cw721.HandlerSpec
import Uptick.Cw721.RefundSpec
import Uptick.Erc721.HandlerSpec
import Uptick.Erc721.RefundSpec
import Uptick.Erc721.SettlementRun
import Uptick.System

/-!
# Bound NFTs exist

A reverse entry of either conversion module names an NFT of the native ledger. Whoever destroys an NFT asks
both indexes first, and whoever writes an entry has just moved or minted the NFT.
-/

namespace Uptick

open Text Evm Outcome Collection
open Erc721 (createNFTUID getNFTFromUID)

variable {C : Chain}

/-- The key of a reverse entry names an NFT of the ledger. -/
def NamesNFT (L : NftLedger) (uid : GoString) : Prop :=
  L.hasNFT (getNFTFromUID uid).2 (getNFTFromUID uid).1 = true

/-- Every reverse entry of both modules names an NFT that exists. -/
structure BindingsExist (w : World C) : Prop where
  erc721 : ∀ y uid, w.erc721.byNFTUID.get? y = some uid → NamesNFT w.nft y
  cw721 : ∀ y uid, w.cw721.byNFTUID.get? y = some uid → NamesNFT w.nft y

/-- A reverse entry as the conversions write it. -/
structure Entry (L : NftLedger) (y uid : GoString) : Prop where
  value : uid ≠ []
  classed : (getNFTFromUID y).2 ≠ []
  hasClass : L.hasClass (getNFTFromUID y).2 = true
  names : NamesNFT L y

lemma entry_createNFTUID {L : NftLedger} {K n uid : GoString} (hK : K ≠ []) (hcomma : comma ∉ K) (hn : n ≠ [])
    (huid : uid ≠ []) (hclass : L.hasClass K = true) (hnft : L.hasNFT K n = true) :
    Entry L (createNFTUID K n) uid := by
  have hcut := Erc721.getNFTFromUID_createNFTUID hn hK hcomma
  refine ⟨huid, ?_, ?_, ?_⟩
  · rw [hcut]
    exact hK
  · rw [hcut]
    exact hclass
  · rw [NamesNFT, hcut]
    exact hnft

lemma Entry.cut {L : NftLedger} {K n uid : GoString} (h : Entry L (createNFTUID K n) uid) (hK : comma ∉ K) :
    getNFTFromUID (createNFTUID K n) = (n, K) := by
  obtain ⟨hkey, hcomma, -⟩ := Erc721.eq_of_getNFTFromUID
    (Prod.mk.eta (p := getNFTFromUID (createNFTUID K n))).symm h.classed
  obtain ⟨hn, hK'⟩ := Erc721.uid_inj hK hcomma hkey
  exact Prod.ext hn.symm hK'.symm

/-- What keeps the entries good: class ids have no comma, so that keys are cut where they were joined. -/
structure BoundInv (w : World C) : Prop where
  plain : ∀ K, w.nft.hasClass K = true → comma ∉ K
  erc721 : ∀ y uid, w.erc721.byNFTUID.get? y = some uid → Entry w.nft y uid
  cw721 : ∀ y uid, w.cw721.byNFTUID.get? y = some uid → Entry w.nft y uid

lemma BoundInv.bindingsExist {w : World C} (h : BoundInv w) : BindingsExist w :=
  ⟨fun y uid hget => (h.erc721 y uid hget).names, fun y uid hget => (h.cw721 y uid hget).names⟩

/-! ### The native ledger -/

/-- Classes stay and new ones have plain names, and only NFTs without a binding are destroyed. -/
structure Spares (converted : GoString → GoString → Bool) (L L' : NftLedger) : Prop where
  classes : ∀ K, L'.hasClass K = true → L.hasClass K = true ∨ comma ∉ K
  kept : ∀ K, L.hasClass K = true → L'.hasClass K = true
  held : ∀ K n, L.hasNFT K n = true → L'.hasNFT K n = true ∨ converted K n = false

namespace Spares

variable {converted : GoString → GoString → Bool} {L L' L'' : NftLedger}

lemma refl (L : NftLedger) : Spares converted L L := ⟨fun _ => .inl, fun _ => id, fun _ _ => .inl⟩

lemma trans (h : Spares converted L L') (h' : Spares converted L' L'') : Spares converted L L'' where
  classes := by
    intro K hK
    rcases h'.classes K hK with hK | hK
    · exact h.classes K hK
    · exact .inr hK
  kept := fun K hK => h'.kept K (h.kept K hK)
  held := by
    intro K n hn
    rcases h.held K n hn with hn | hn
    · exact h'.held K n hn
    · exact .inr hn

lemma put_some (L : NftLedger) (K n : GoString) (h : Held) : Spares converted L (L.put K n (some h)) := by
  refine ⟨fun _ => .inl, fun _ => id, fun K' n' hn' => .inl ?_⟩
  by_cases heq : (K', n') = (K, n)
  · cases heq
    simp [NftLedger.hasNFT]
  · rw [NftLedger.hasNFT, NftLedger.held_put_of_ne _ _ heq]
    exact hn'

lemma put_none {K n : GoString} (hfree : converted K n = false) : Spares converted L (L.put K n none) := by
  refine ⟨fun _ => .inl, fun _ => id, fun K' n' hn' => ?_⟩
  by_cases heq : (K', n') = (K, n)
  · cases heq
    exact .inr hfree
  · rw [NftLedger.hasNFT, NftLedger.held_put_of_ne _ _ heq]
    exact .inl hn'

lemma putClass {K : GoString} {cl : Collection.Class} (hK : L.hasClass K = true ∨ comma ∉ K) :
    Spares converted L (L.putClass K cl) := by
  refine ⟨fun K' hK' => ?_, fun K' hK' => ?_, fun _ _ => .inl⟩
  · by_cases heq : K' = K
    · rw [heq]
      exact hK
    · simp only [NftLedger.hasClass, NftLedger.putClass, if_neg heq] at hK'
      exact .inl hK'
  · by_cases heq : K' = K
    · simp [NftLedger.hasClass, NftLedger.putClass, heq]
    · simp only [NftLedger.hasClass, NftLedger.putClass, if_neg heq]
      exact hK'

lemma saveDenom {X : Extern} {nk : NftKeeper} {K : GoString} {f : DenomFields} {creator : AccAddress}
    (h : saveDenom X nk L K f creator = .ok L') : Spares converted L L' := by
  obtain ⟨hid, -⟩ := check_bind_eq_ok.mp h
  obtain ⟨-, rfl⟩ := Erc721.saveDenom_eq_ok h
  exact putClass (.inr (comma_notMem_of_validateDenomID hid))

end Spares

lemma CollectionMsg.spares {w : World C} {msg : CollectionMsg} {L : NftLedger} (h : msg.handle w = .ok L) :
    Spares w.isConvertedNFT w.nft L := by
  cases msg with
  | issueDenom msg =>
    obtain ⟨sender, -, h⟩ := bind_eq_ok.mp h
    obtain ⟨-, h⟩ := check_bind_eq_ok.mp h
    exact .saveDenom h
  | mintNFT msg =>
    obtain ⟨_, _, _, -, -, -, -, -, -, -, -, rfl⟩ := mintNFT_eq_ok.mp h
    exact .put_some _ _ _ _
  | editNFT msg =>
    obtain ⟨_, _, _, -, -, rfl⟩ := editNFT_eq_ok h
    exact .put_some _ _ _ _
  | transferNFT msg =>
    obtain ⟨_, _, -, -, h⟩ := transferNFT_eq_ok.mp h
    obtain ⟨_, _, _, -, -, -, -, rfl⟩ := transferOwnership_eq_ok.mp h
    exact .put_some _ _ _ _
  | burnNFT msg =>
    obtain ⟨_, -, -, -, hfree, -, rfl⟩ := burnNFT_eq_ok.mp h
    exact .put_none hfree
  | transferDenom msg =>
    obtain ⟨_, -, h⟩ := bind_eq_ok.mp h
    obtain ⟨_, -, h⟩ := bind_eq_ok.mp h
    obtain ⟨_, -, h⟩ := bind_eq_ok.mp h
    obtain ⟨_, -, h⟩ := bind_eq_ok.mp h
    obtain ⟨-, h⟩ := require_bind_eq_ok.mp h
    obtain ⟨hclass, rfl⟩ := C.nk.updateClass_eq_ok.mp h
    exact .putClass (.inl hclass)

namespace Ibc

variable {converted : GoString → GoString → Bool} {L L' : NftLedger} {K : GoString} {ns : List GoString}

lemma Touches.hasClass (h : Touches L L' K ns) (K' : GoString) : L'.hasClass K' = L.hasClass K' := by
  rw [NftLedger.hasClass, NftLedger.hasClass, h.getClass]

lemma Touches.spares (h : Touches L L' K ns)
    (hbatch : ∀ n ∈ ns, L'.hasNFT K n = true ∨ converted K n = false) : Spares converted L L' := by
  refine ⟨fun K' hK' => .inl (h.hasClass K' ▸ hK'), fun K' hK' => (h.hasClass K').trans hK', fun K' n hn => ?_⟩
  by_cases hmem : K' = K ∧ n ∈ ns
  · obtain ⟨rfl, hmem⟩ := hmem
    exact hbatch n hmem
  · rw [NftLedger.hasNFT, h.held_other K' n hmem]
    exact .inl hn

lemma Sent.spares {escrow sender : AccAddress} (h : Sent converted escrow sender L L' K ns) :
    Spares converted L L' := by
  apply h.toTouches.spares
  intro n hn
  obtain ⟨t, -, hafter | ⟨hfree, -⟩⟩ := h.token n hn
  · exact .inl (by simp [NftLedger.hasNFT, hafter])
  · exact .inr hfree

lemma Returned.spares {escrow sender : AccAddress} (h : Returned escrow sender L L' K ns) :
    Spares converted L L' := by
  apply h.toTouches.spares
  intro n hn
  obtain ⟨-, t, hafter⟩ := h.token n hn
  exact .inl (by simp [NftLedger.hasNFT, hafter])

lemma Received.spares {escrow : AccAddress} {a : Arrival} (h : Received escrow L L' a) : Spares converted L L' := by
  refine ⟨fun K hK => ?_, fun K hK => ?_, fun K n hn => .inl ?_⟩
  · by_cases heq : K = a.classID
    · subst heq
      by_cases hsame : L'.getClass a.classID = L.getClass a.classID
      · rw [NftLedger.hasClass, hsame] at hK
        exact .inl hK
      · exact .inr (h.getClass hsame).2
    · rw [NftLedger.hasClass, h.getClass_other K heq] at hK
      exact .inl hK
  · by_cases heq : K = a.classID
    · subst heq
      exact h.hasClass hK
    · rw [NftLedger.hasClass, h.getClass_other K heq]
      exact hK
  · by_cases hmem : K = a.classID ∧ n ∈ a.tokenIDs
    · obtain ⟨rfl, hmem⟩ := hmem
      obtain ⟨⟨t, hafter⟩, -⟩ := h.token n hmem
      simp [NftLedger.hasNFT, hafter]
    · rw [NftLedger.hasNFT, h.held_other K n hmem]
      exact hn

end Ibc

theorem BoundInv.step {w w' : World C} (h : BoundInv w) (hL : Spares w.isConvertedNFT w.nft w'.nft)
    (he : ∀ y uid, w'.erc721.byNFTUID.get? y = some uid →
      w.erc721.byNFTUID.get? y = some uid ∨ Entry w'.nft y uid)
    (hc : ∀ y uid, w'.cw721.byNFTUID.get? y = some uid → w.cw721.byNFTUID.get? y = some uid ∨ Entry w'.nft y uid) :
    BoundInv w' := by
  -- an entry that was there keeps its NFT, since the guard saw the entry
  have hkeep : ∀ y uid, Entry w.nft y uid → w.erc721.byNFTUID.get? y = some uid ∨ w.cw721.byNFTUID.get? y = some uid →
      Entry w'.nft y uid := by
    intro y uid hentry hget
    refine ⟨hentry.value, hentry.classed, hL.kept _ hentry.hasClass, ?_⟩
    refine (hL.held _ _ hentry.names).resolve_right fun hfree => ?_
    obtain ⟨hy, -, -⟩ := Erc721.eq_of_getNFTFromUID (Prod.mk.eta (p := getNFTFromUID y)).symm hentry.classed
    have hkey : createNFTUID (getNFTFromUID y).2 (getNFTFromUID y).1 = y := hy.symm
    simp only [World.isConvertedNFT, Cw721.getNFTPairByClassNFTID, Cw721.getTokenUIDPairByNFTUID,
      Erc721.getTokenUIDPairByNFTUID, hkey, Bool.or_eq_false_iff, decide_eq_false_iff_not, not_not] at hfree
    rcases hget with hget | hget
    · exact hentry.value ((KVStore.get_of_get? hget).symm.trans hfree.1)
    · exact hentry.value ((KVStore.get_of_get? hget).symm.trans hfree.2)
  refine ⟨fun K hK => ?_, fun y uid hget => ?_, fun y uid hget => ?_⟩
  · rcases hL.classes K hK with hold | hcomma
    · exact h.plain K hold
    · exact hcomma
  · rcases he y uid hget with hold | hentry
    · exact hkeep y uid (h.erc721 y uid hold) (.inl hold)
    · exact hentry
  · rcases hc y uid hget with hold | hentry
    · exact hkeep y uid (h.cw721 y uid hold) (.inr hold)
    · exact hentry

/-- The loop of a conversion has moved or minted the NFTs of its batch. -/
structure Fills (K : GoString) (ns : List GoString) (w w' : World C) : Prop where
  getClass : w'.nft.getClass = w.nft.getClass
  kept : ∀ K' n, w.nft.hasNFT K' n = true → w'.nft.hasNFT K' n = true
  filled : ∀ n ∈ ns, w'.nft.hasNFT K n = true ∧ w.nft.hasClass K = true
  erc721 : w'.erc721 = w.erc721
  cw721 : w'.cw721 = w.cw721

lemma Fills.spares {K : GoString} {ns : List GoString} {w w' : World C} (h : Fills K ns w w')
    (converted : GoString → GoString → Bool) : Spares converted w.nft w'.nft := by
  refine ⟨fun K' hK' => .inl ?_, fun K' hK' => ?_, fun K' n hn => .inl (h.kept K' n hn)⟩
  · rw [NftLedger.hasClass, h.getClass] at hK'
    exact hK'
  · rw [NftLedger.hasClass, h.getClass]
    exact hK'

/-- A loop whose rounds each write one NFT of the batch. -/
lemma fills_of_forEach {K : GoString} {round : World C → GoString × GoString → Except Error (World C)}
    (hround : ∀ w x w', round w x = .ok w' → w.nft.hasClass K = true ∧ (∃ h, w'.nft = w.nft.put K x.2 (some h)) ∧
      w'.erc721 = w.erc721 ∧ w'.cw721 = w.cw721)
    {w w' : World C} {xs : List (GoString × GoString)} (h : forEach round w xs = .ok w') :
    Fills K (xs.map Prod.snd) w w' := by
  induction xs generalizing w with
  | nil =>
    cases h
    exact ⟨rfl, fun _ _ h => h, by simp, rfl, rfl⟩
  | cons x xs ih =>
    obtain ⟨w₁, hfirst, hrest⟩ := forEach_cons_eq_ok.mp h
    obtain ⟨hclass, ⟨held, hput⟩, he, hc⟩ := hround w x w₁ hfirst
    have hfills := ih hrest
    have hgrow : ∀ K' n, w.nft.hasNFT K' n = true → w₁.nft.hasNFT K' n = true := by
      intro K' n hn
      rw [hput]
      exact ((@Spares.put_some (fun _ _ => true) w.nft K x.2 held).held K' n hn).resolve_right (by simp)
    have hgetClass : w₁.nft.getClass = w.nft.getClass := by
      rw [hput, NftLedger.getClass_put]
    refine ⟨hfills.getClass.trans hgetClass, fun K' n hn => hfills.kept K' n (hgrow K' n hn), fun n hn => ?_,
      hfills.erc721.trans he, hfills.cw721.trans hc⟩
    refine ⟨?_, hclass⟩
    rcases List.mem_cons.mp hn with rfl | hn
    · apply hfills.kept
      rw [hput, NftLedger.hasNFT, NftLedger.held_put_self]
      rfl
    · exact (hfills.filled n hn).1

/-- A conversion: the NFTs of the batch have names, and the new entries of one index are entries of the batch. -/
theorem BoundInv.convert {w w₁ w₂ w' : World C} {K : GoString} {ns : List GoString} (h : BoundInv w)
    (hprep : Spares w.isConvertedNFT w.nft w₁.nft) (hfills : Fills K ns w₁ w₂) (hnft : w'.nft = w₂.nft) (hK : K ≠ [])
    (hns : ∀ n ∈ ns, n ≠ [])
    (he : ∀ y uid, w'.erc721.byNFTUID.get? y = some uid →
      w.erc721.byNFTUID.get? y = some uid ∨ uid ≠ [] ∧ ∃ n ∈ ns, y = createNFTUID K n)
    (hc : ∀ y uid, w'.cw721.byNFTUID.get? y = some uid →
      w.cw721.byNFTUID.get? y = some uid ∨ uid ≠ [] ∧ ∃ n ∈ ns, y = createNFTUID K n) : BoundInv w' := by
  have hentry : ∀ y uid, (uid ≠ [] ∧ ∃ n ∈ ns, y = createNFTUID K n) → Entry w'.nft y uid := by
    rintro y uid ⟨huid, n, hn, rfl⟩
    obtain ⟨hexists, hclass⟩ := hfills.filled n hn
    have hcomma : comma ∉ K := by
      rcases hprep.classes K hclass with hold | hcomma
      · exact h.plain K hold
      · exact hcomma
    have hclass' : w₂.nft.hasClass K = true := by
      rw [NftLedger.hasClass, hfills.getClass]
      exact hclass
    rw [hnft]
    exact entry_createNFTUID hK hcomma (hns n hn) huid hclass' hexists
  apply h.step
  · rw [hnft]
    exact hprep.trans (hfills.spares _)
  · exact fun y uid hget => (he y uid hget).imp_right (hentry y uid)
  · exact fun y uid hget => (hc y uid hget).imp_right (hentry y uid)

namespace Erc721

variable {w w' : World C}

lemma reverse_of_bindPairs {st st' : Store} {c K : GoString} {ids : List (GoString × GoString)}
    (h : bindPairs (C := C) st c K ids = .ok st') (y uid : GoString) (hget : st'.byNFTUID.get? y = some uid) :
    st.byNFTUID.get? y = some uid ∨ uid ≠ [] ∧ ∃ n ∈ ids.map Prod.snd, y = createNFTUID K n := by
  refine @forEach_invariant _ _ _ _ (fun s : Store => ∀ uid, s.byNFTUID.get? y = some uid →
    st.byNFTUID.get? y = some uid ∨ uid ≠ [] ∧ ∃ n ∈ ids.map Prod.snd, y = createNFTUID K n) _
    (fun s x s' hx hs hstep uid hget => ?_) _ _ (fun _ => .inl) h uid hget
  obtain ⟨v, legacy, -, rfl⟩ := bindPair_eq_ok.mp hstep
  rw [byNFTUID_rebind] at hget
  split at hget
  · next hy =>
    cases hget
    exact .inr ⟨createTokenUID_ne_nil _ _, x.2, List.mem_map_of_mem hx, hy⟩
  · exact hs uid hget

lemma cosmos2EvmRound_fills {a receiver : Address} {c : GoString} {msg : MsgConvertNFT} {x : GoString × GoString}
    (h : cosmos2EvmRound a receiver c msg w x = .ok w') : w.nft.hasClass msg.classId = true ∧
      (∃ h, w'.nft = w.nft.put msg.classId x.2 (some h)) ∧ w'.erc721 = w.erc721 ∧ w'.cw721 = w.cw721 := by
  obtain ⟨_, _, _, _, _, _, -, -, -, hdenom, -, -, rfl⟩ := cosmos2EvmRound_eq_ok.mp h
  exact ⟨hasClass_of_getDenomInfo hdenom, ⟨_, rfl⟩, rfl, rfl⟩

lemma evm2CosmosRound_fills {pair : TokenPair} {msg : MsgConvertERC721} {sender : Address} {x : GoString × GoString}
    (h : evm2CosmosRound pair msg sender w x = .ok w') : w.nft.hasClass msg.classId = true ∧
      (∃ h, w'.nft = w.nft.put msg.classId x.2 (some h)) ∧ w'.erc721 = w.erc721 ∧ w'.cw721 = w.cw721 := by
  obtain ⟨_, _, _, _, -, -, -, hrel, rfl⟩ := evm2CosmosRound_eq_ok.mp h
  obtain ⟨_, _, -, hdenom, hsource⟩ := releaseNFT_eq_ok.mp hrel
  refine ⟨hasClass_of_getDenomInfo hdenom, ?_, rfl, rfl⟩
  rcases hsource with ⟨-, -, -, -, -, -, rfl⟩ | ⟨-, _, _, -, -, -, rfl⟩
  · exact ⟨_, rfl⟩
  · exact ⟨_, rfl⟩

lemma cosmos2Evm_fills {a receiver : Address} {c : GoString} {msg : MsgConvertNFT} {ids : List (GoString × GoString)}
    (h : forEach (cosmos2EvmRound a receiver c msg) w ids = .ok w') : Fills msg.classId (ids.map Prod.snd) w w' :=
  fills_of_forEach (fun _ _ _ hr => cosmos2EvmRound_fills hr) h

lemma evm2Cosmos_fills {pair : TokenPair} {msg : MsgConvertERC721} {sender : Address} {ids : List (GoString × GoString)}
    (h : forEach (evm2CosmosRound pair msg sender) w ids = .ok w') : Fills msg.classId (ids.map Prod.snd) w w' :=
  fills_of_forEach (fun _ _ _ hr => evm2CosmosRound_fills hr) h

lemma ne_nil_of_validateTokenID {n : GoString} (h : validateTokenID n = .ok ()) : n ≠ [] := by
  rintro rfl
  have hlen := (validateTokenID_eq_ok.mp h).1.1
  simp at hlen

lemma MsgConvertNFT.classId_and_ids {X : Extern} {msg : MsgConvertNFT} (h : msg.validateBasic X = .ok ()) :
    msg.classId ≠ [] ∧ ∀ n ∈ msg.cosmosTokenIds, n ≠ [] := by
  unfold MsgConvertNFT.validateBasic at h
  obtain ⟨-, h⟩ := check_bind_eq_ok.mp h
  obtain ⟨-, h⟩ := require_bind_eq_ok.mp h
  obtain ⟨-, h⟩ := check_bind_eq_ok.mp h
  obtain ⟨hclass, h⟩ := check_bind_eq_ok.mp h
  obtain ⟨-, h⟩ := require_bind_eq_ok.mp h
  obtain ⟨hids, -⟩ := check_bind_eq_ok.mp h
  exact ⟨ne_nil_of_isBlank (require_eq_ok.mp hclass),
    fun n hn => ne_nil_of_validateTokenID (validateCosmosTokenIds_eq_ok.mp hids n hn)⟩

theorem convertNFT_boundInv {msg : MsgConvertNFT} (valid : msg.validateBasic C.toExtern = .ok ())
    (h : convertNFT w msg = .ok w') (hinv : BoundInv w) : BoundInv w' := by
  obtain ⟨w₁, pair, c, ids, steps, hnft⟩ := convertNFT_steps_nft h
  obtain ⟨w₂, st, -, hloop, hbind, rfl⟩ := convertCosmos2Evm_eq_ok.mp steps.converted
  obtain ⟨hK, hids⟩ := msg.classId_and_ids valid
  have hfills := cosmos2Evm_fills hloop
  rw [hfills.erc721] at hbind
  refine hinv.convert (hnft ▸ Spares.refl _) hfills rfl hK ?_ (fun y uid hget => ?_) (fun y uid hget => ?_)
  · intro n hn
    obtain ⟨x, hx, rfl⟩ := List.mem_map.mp hn
    exact hids x.2 (List.of_mem_zip hx).2
  · exact (reverse_of_bindPairs hbind y uid hget).imp_left (steps.prepares.store.reverse y uid)
  · rw [show w₂.cw721 = w.cw721 from hfills.cw721.trans steps.prepares.cw721] at hget
    exact .inl hget

lemma reverse_of_settleIndex {st st' : Store} {pair : TokenPair} {msg : MsgConvertERC721}
    (h : settleIndex (C := C) st pair msg = .ok st') (y uid : GoString) (hget : st'.byNFTUID.get? y = some uid) :
    st.byNFTUID.get? y = some uid ∨
      uid ≠ [] ∧ ∃ n ∈ (msg.evmTokenIds.zip msg.cosmosTokenIds).map Prod.snd, y = createNFTUID msg.classId n := by
  unfold settleIndex at h
  dsimp only at h
  split at h
  · cases h
    left
    revert uid
    apply List.foldlRecOn (motive := fun s : Store => ∀ uid, s.byNFTUID.get? y = some uid →
      st.byNFTUID.get? y = some uid)
    · exact fun _ h => h
    · intro s hs x _ uid hget
      unfold deleteVoucherBindingKeys at hget
      rw [deleteNFTPairByTokenID_eq] at hget
      exact hs uid (KVStore.get?_delete_eq_some hget).2
  · exact reverse_of_bindPairs h y uid hget

lemma Names.ne_nil {bound K t org n : GoString} (h : Names bound K t org n) : n ≠ [] := by
  by_cases horg : org = []
  · rcases h.bound_eq with hnil | ⟨-, -, hn⟩
    · rw [h.derived horg hnil]
      exact List.cons_ne_nil _ _
    · exact hn
  · rw [h.given horg]
    exact horg

lemma ensureRegisteredERC721_spares {msg : MsgConvertERC721} {K : GoString}
    (h : ensureRegisteredERC721 w msg = .ok (w', K)) (converted : GoString → GoString → Bool) :
    Spares converted w.nft w'.nft := by
  obtain ⟨rfl, -⟩ | reg := ensureRegisteredERC721_cases h
  · exact .refl _
  · obtain ⟨fields, nft, hnft, rfl⟩ := reg.saved
    exact .saveDenom hnft

theorem convertERC721_boundInv {msg : MsgConvertERC721} (hb : isBlank msg.classId = false)
    (hne : msg.evmTokenIds ≠ []) {res : MsgConvertERC721Response} (h : convertERC721 w msg = .ok (w', res))
    (hinv : BoundInv w) : BoundInv w' := by
  obtain ⟨ns, sender, w₁, pair, steps, -⟩ := (convertERC721_eq_ok hb hne).mp h
  obtain ⟨w₂, st, -, -, hloop, hsettle, rfl⟩ := convertEvm2Cosmos_eq_ok.mp steps.converted
  have hprep : Prepares w w₁ := ensureRegisteredERC721_prepares steps.registered
  have hfills := evm2Cosmos_fills hloop
  rw [hfills.erc721] at hsettle
  refine hinv.convert (ensureRegisteredERC721_spares steps.registered _) hfills rfl (ne_nil_of_isBlank hb) ?_
    (fun y uid hget => ?_) (fun y uid hget => ?_)
  · intro n hn
    obtain ⟨x, hx, rfl⟩ := List.mem_map.mp hn
    obtain ⟨org, hnames, -⟩ := steps.named.names hx
    exact hnames.ne_nil
  · exact (reverse_of_settleIndex hsettle y uid hget).imp_left (hprep.store.reverse y uid)
  · rw [show w₂.cw721 = w.cw721 from hfills.cw721.trans hprep.cw721] at hget
    exact .inl hget

end Erc721

namespace Cw721

variable {w w' : World C}

lemma reverse_of_bindPairs {st st' : Store} {c K : GoString} {ids : List (GoString × GoString)}
    (h : bindPairs st c K ids = .ok st') (y uid : GoString) (hget : st'.byNFTUID.get? y = some uid) :
    st.byNFTUID.get? y = some uid ∨ uid ≠ [] ∧ ∃ n ∈ ids.map Prod.snd, y = createNFTUID K n := by
  refine @forEach_invariant _ _ _ _ (fun s : Store => ∀ uid, s.byNFTUID.get? y = some uid →
    st.byNFTUID.get? y = some uid ∨ uid ≠ [] ∧ ∃ n ∈ ids.map Prod.snd, y = createNFTUID K n) _
    (fun s x s' hx hs hstep uid hget => ?_) _ _ (fun _ => .inl) h uid hget
  obtain ⟨-, hstep⟩ := require_bind_eq_ok.mp hstep
  obtain ⟨-, hstep⟩ := require_bind_eq_ok.mp hstep
  cases hstep
  have hfwd : ∀ s : Store, (if getNFTUIDPairByTokenUID s (createTokenUID c x.1) = [] then
      setNFTPairByContractTokenID s c x.1 K x.2 else s).byNFTUID = s.byNFTUID := by
    intro s
    split <;> rfl
  split at hget
  · simp only [setNFTPairByClassNFTID, hfwd] at hget
    rcases KVStore.get?_set_eq_some hget with ⟨rfl, rfl⟩ | ⟨-, hold⟩
    · exact .inr ⟨Erc721.createTokenUID_ne_nil _ _, x.2, List.mem_map_of_mem hx, rfl⟩
    · exact hs uid hold
  · rw [hfwd] at hget
    exact hs uid hget

lemma cosmos2WasmRound_fills {msg : MsgConvertNFT} {x : GoString × GoString} (h : cosmos2WasmRound msg w x = .ok w') :
    w.nft.hasClass msg.classId = true ∧ (∃ h, w'.nft = w.nft.put msg.classId x.2 (some h)) ∧
      w'.erc721 = w.erc721 ∧ w'.cw721 = w.cw721 := by
  unfold cosmos2WasmRound at h
  obtain ⟨info, hinfo, h⟩ := bind_eq_ok.mp h
  obtain ⟨nft, hnft, h⟩ := bind_eq_ok.mp h
  obtain ⟨wasm', -, h⟩ := bind_eq_ok.mp h
  cases h
  obtain ⟨_, _, _, _, -, -, -, hdenom, rfl⟩ := (Erc721.transferNFT_shown_eq_ok hinfo).mp hnft
  exact ⟨hasClass_of_getDenomInfo hdenom, ⟨_, rfl⟩, rfl, rfl⟩

lemma releaseNFT_fills {msg : MsgConvertCW721} {t n uri : GoString} {L : NftLedger}
    (h : releaseNFT w msg t n uri = .ok L) :
    w.nft.hasClass msg.classId = true ∧ ∃ h, L = w.nft.put msg.classId n (some h) := by
  unfold releaseNFT at h
  split at h
  · obtain ⟨_, _, _, -, -, hdenom, -, -, -, -, -, rfl⟩ := mintNFT_eq_ok.mp h
    exact ⟨hasClass_of_getDenomInfo hdenom, _, rfl⟩
  · split at h
    · cases h
    · next info hinfo =>
      obtain ⟨_, _, _, _, -, -, -, hdenom, rfl⟩ := (Erc721.transferNFT_shown_eq_ok hinfo).mp h
      exact ⟨hasClass_of_getDenomInfo hdenom, _, rfl⟩

lemma wasm2CosmosRound_fills {msg : MsgConvertCW721} {x : GoString × GoString}
    (h : wasm2CosmosRound msg w x = .ok w') : w.nft.hasClass msg.classId = true ∧
      (∃ h, w'.nft = w.nft.put msg.classId x.2 (some h)) ∧ w'.erc721 = w.erc721 ∧ w'.cw721 = w.cw721 := by
  unfold wasm2CosmosRound at h
  obtain ⟨info, -, h⟩ := bind_eq_ok.mp h
  obtain ⟨wasm', -, h⟩ := bind_eq_ok.mp h
  obtain ⟨L', hnft, h⟩ := bind_eq_ok.mp h
  cases h
  obtain ⟨hclass, hput⟩ := @releaseNFT_fills C { w with wasm := wasm' } msg _ _ _ _ hnft
  exact ⟨hclass, hput, rfl, rfl⟩

lemma cosmos2Wasm_fills {msg : MsgConvertNFT} {ids : List (GoString × GoString)}
    (h : forEach (cosmos2WasmRound msg) w ids = .ok w') : Fills msg.classId (ids.map Prod.snd) w w' :=
  fills_of_forEach (fun _ _ _ hr => cosmos2WasmRound_fills hr) h

lemma wasm2Cosmos_fills {msg : MsgConvertCW721} {ids : List (GoString × GoString)}
    (h : forEach (wasm2CosmosRound msg) w ids = .ok w') : Fills msg.classId (ids.map Prod.snd) w w' :=
  fills_of_forEach (fun _ _ _ hr => wasm2CosmosRound_fills hr) h

lemma validateNftIds_ne_nil {ids : List GoString} {empty format : String}
    (h : validateNftIds ids empty format = .ok ()) (n : GoString) (hn : n ∈ ids) : n ≠ [] :=
  (require_bind_eq_ok.mp (forEach_check_eq_ok.mp h n hn)).1

lemma MsgConvertNFT.classId_and_ids {X : Extern} {msg : MsgConvertNFT} (h : msg.validateBasic X = .ok ()) :
    msg.classId ≠ [] ∧ ∀ n ∈ msg.nftIds, n ≠ [] := by
  unfold MsgConvertNFT.validateBasic at h
  obtain ⟨-, h⟩ := check_bind_eq_ok.mp h
  obtain ⟨-, h⟩ := check_bind_eq_ok.mp h
  obtain ⟨-, h⟩ := check_bind_eq_ok.mp h
  obtain ⟨hclass, h⟩ := check_bind_eq_ok.mp h
  obtain ⟨-, h⟩ := require_bind_eq_ok.mp h
  obtain ⟨hids, -⟩ := check_bind_eq_ok.mp h
  exact ⟨Erc721.ne_nil_of_isBlank (require_eq_ok.mp hclass), validateNftIds_ne_nil hids⟩

theorem convertNFT_boundInv {msg : MsgConvertNFT} (valid : msg.validateBasic C.toExtern = .ok ())
    (h : convertNFT w msg = .ok w') (hinv : BoundInv w) : BoundInv w' := by
  obtain ⟨w₁, c, ids, steps, hnft⟩ := convertNFT_steps_nft h
  obtain ⟨w₂, st, -, hloop, hbind, rfl⟩ := convertCosmos2Wasm_ok steps.converted
  obtain ⟨hK, hids⟩ := msg.classId_and_ids valid
  have hfills := cosmos2Wasm_fills hloop
  rw [hfills.cw721] at hbind
  refine hinv.convert (hnft ▸ Spares.refl _) hfills rfl hK ?_ (fun y uid hget => ?_) (fun y uid hget => ?_)
  · intro n hn
    obtain ⟨x, hx, rfl⟩ := List.mem_map.mp hn
    exact hids x.2 (List.of_mem_zip hx).2
  · rw [show w₂.erc721 = w.erc721 from hfills.erc721.trans steps.prepares.erc721] at hget
    exact .inl hget
  · rw [← steps.prepares.byNFTUID]
    exact reverse_of_bindPairs hbind y uid hget

lemma ensureRegisteredCW721_spares {msg : MsgConvertCW721} {K : GoString}
    (h : ensureRegisteredCW721 w msg = .ok (w', K)) (converted : GoString → GoString → Bool) :
    Spares converted w.nft w'.nft := by
  obtain ⟨rfl, -⟩ | ⟨c, reg⟩ := ensureRegisteredCW721_cases h
  · exact .refl _
  · obtain ⟨fields, nft, hnft, rfl⟩ := reg.saved
    exact .saveDenom hnft

theorem convertCW721_boundInv {msg : MsgConvertCW721} (hmsg : msg.Valid C.toExtern)
    {res : MsgConvertCW721Response} (h : convertCW721 w msg = .ok (w', res)) (hinv : BoundInv w) : BoundInv w' := by
  obtain ⟨w₁, c, ns, pair, steps, -⟩ := convertCW721_steps hmsg h
  obtain ⟨w₂, st, hloop, hbind, rfl⟩ := convertWasm2Cosmos_ok steps.converted
  have hprep := steps.prepares hmsg.classId
  have hfills := wasm2Cosmos_fills hloop
  rw [hfills.cw721] at hbind
  refine hinv.convert (ensureRegisteredCW721_spares steps.registered _) hfills rfl
    (Erc721.ne_nil_of_isBlank hmsg.classId) ?_ (fun y uid hget => ?_) (fun y uid hget => ?_)
  · intro n hn
    obtain ⟨x, hx, rfl⟩ := List.mem_map.mp hn
    obtain ⟨org, hnames, -⟩ := steps.named.names hx
    exact hnames.ne_nil
  · rw [show w₂.erc721 = w.erc721 from hfills.erc721.trans hprep.erc721] at hget
    exact .inl hget
  · rw [← hprep.byNFTUID]
    exact reverse_of_bindPairs hbind y uid hget

end Cw721

end Uptick
