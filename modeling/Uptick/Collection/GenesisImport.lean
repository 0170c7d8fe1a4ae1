import Uptick.Collection.Genesis
import Uptick.Collection.Represents
import Uptick.Lib.Keyed

/-!
# What a genesis import leaves

What `ValidateGenesis` accepts, `InitGenesis` imports. The proof follows the import: after each write the store
represents the ledger of the collections read so far.
-/

namespace Uptick.Collection

open Text Outcome NftStore

variable {X : Extern}

lemma bounds_of_validateDenomID {id : GoString} (h : validateDenomID id = .ok ()) : 0 ∉ id ∧ id.length ≤ 128 := by
  unfold validateDenomID at h
  obtain ⟨hzero, h⟩ := require_bind_eq_ok.mp h
  obtain ⟨-, h⟩ := require_bind_eq_ok.mp h
  refine ⟨hzero, ?_⟩
  split at h
  · obtain ⟨-, h⟩ := require_bind_eq_ok.mp h
    exact (require_bind_eq_ok.mp h).1
  · split at h
    · unfold validateIBCClassID at h
      obtain ⟨-, h⟩ := require_bind_eq_ok.mp h
      exact (require_bind_eq_ok.mp h).1
    · obtain ⟨hid, -⟩ := require_bind_eq_ok.mp h
      cases id with
      | nil => simp
      | cons b rest =>
        simp only [regexpID, Bool.and_eq_true, decide_eq_true_eq] at hid
        simp only [List.length_cons]
        omega

lemma ne_nil_of_validateDenomID {id : GoString} (h : validateDenomID id = .ok ()) : id ≠ [] := by
  rintro rfl
  cases h

lemma bounds_of_validateTokenIDForDenom {c n : GoString} (h : validateTokenIDForDenom c n = .ok ()) :
    n ≠ [] ∧ n.length ≤ 128 := by
  unfold validateTokenIDForDenom at h
  split at h
  · exact (require_bind_eq_ok.mp h).1
  · have hlen := (validateTokenID_eq_ok.mp h).1
    constructor
    · rintro rfl
      simp at hlen
    · exact hlen.2

/-- A token that the validation of its class accepts. -/
structure ValidNFT (X : Extern) (denomID : GoString) (nft : BaseNFT) : Prop where
  owner : ∃ acc, X.decodeAcc nft.owner = .ok acc
  id : validateTokenIDForDenom denomID nft.id = .ok ()
  uri : validateTokenURI X nft.uri = .ok ()

/-- A collection that is accepted on its own. -/
structure ValidCollection (X : Extern) (c : DenomCollection) : Prop where
  id : validateDenomID c.denom.id = .ok ()
  creator : c.denom.creator = [] ∨ ∃ acc, X.decodeAcc c.denom.creator = .ok acc
  bounds : validateDenomMetadataBounds c.denom.schema c.denom.data = .ok ()
  nfts : ∀ nft ∈ c.nfts, ValidNFT X c.denom.id nft
  distinct : (c.nfts.map BaseNFT.id).Nodup

lemma validateGenesisNFT_eq_ok {denomID : GoString} {seen seen' : List GoString} {nft : BaseNFT} :
    validateGenesisNFT X denomID seen nft = .ok seen' ↔
      ValidNFT X denomID nft ∧ nft.id ∉ seen ∧ seen' = nft.id :: seen := by
  unfold validateGenesisNFT BaseNFT.getOwner
  rw [bind_eq_ok]
  constructor
  · rintro ⟨acc, hacc, h⟩
    obtain ⟨-, h⟩ := require_bind_eq_ok.mp h
    obtain ⟨hid, h⟩ := check_bind_eq_ok.mp h
    obtain ⟨hseen, h⟩ := require_bind_eq_ok.mp h
    obtain ⟨huri, h⟩ := check_bind_eq_ok.mp h
    cases h
    exact ⟨⟨⟨acc, hacc⟩, hid, huri⟩, hseen, rfl⟩
  · rintro ⟨⟨⟨acc, hacc⟩, hid, huri⟩, hseen, rfl⟩
    refine ⟨acc, hacc, ?_⟩
    rw [require_of (X.decodeAcc_ok hacc).1, ok_bind, hid, ok_bind, require_of hseen, ok_bind, huri, ok_bind]

lemma validateGenesisCreator_eq_ok {creator : GoString} : validateGenesisCreator X creator = .ok () ↔
    creator = [] ∨ ∃ acc, X.decodeAcc creator = .ok acc := by
  unfold validateGenesisCreator Extern.decodeAcc
  by_cases hc : creator = []
  · simp [hc]
  · simp only [hc, false_or]
    cases X.accAddressFromBech32 creator <;> simp

lemma forall_validNFT {denomID : GoString} {nfts : List BaseNFT} :
    (∃ seen, forEach (validateGenesisNFT X denomID) [] nfts = .ok seen) ↔
      (∀ nft ∈ nfts, ValidNFT X denomID nft) ∧ (nfts.map BaseNFT.id).Nodup := by
  have hok : ∀ s nft, (∃ t, validateGenesisNFT X denomID s nft = .ok t) ↔ ValidNFT X denomID nft ∧ ¬ nft.id ∈ s := by
    intro s nft
    simp [validateGenesisNFT_eq_ok]
  have hseen : ∀ s x t y, validateGenesisNFT X denomID s x = .ok t →
      (BaseNFT.id y ∈ t ↔ BaseNFT.id y ∈ s ∨ x.id = y.id) := by
    intro s x t y h
    obtain ⟨-, -, rfl⟩ := validateGenesisNFT_eq_ok.mp h
    rw [List.mem_cons, or_comm, eq_comm]
  rw [forEach_unseen hok hseen]
  simp [List.Nodup, List.pairwise_map]

lemma validateGenesisCollection_eq_ok {seen seen' : List GoString} {c : DenomCollection} :
    validateGenesisCollection X seen c = .ok seen' ↔
      ValidCollection X c ∧ c.denom.id ∉ seen ∧ seen' = c.denom.id :: seen := by
  unfold validateGenesisCollection
  rw [require_bind_eq_ok, check_bind_eq_ok, require_bind_eq_ok, check_bind_eq_ok, check_bind_eq_ok, bind_eq_ok,
    validateGenesisCreator_eq_ok]
  constructor
  · rintro ⟨-, hid, hseen, hcreator, hbounds, ids, hnfts, h⟩
    obtain ⟨hall, hdistinct⟩ := forall_validNFT.mp ⟨ids, hnfts⟩
    cases h
    exact ⟨⟨hid, hcreator, hbounds, hall, hdistinct⟩, hseen, rfl⟩
  · rintro ⟨hvalid, hseen, rfl⟩
    obtain ⟨ids, hnfts⟩ := forall_validNFT.mpr ⟨hvalid.nfts, hvalid.distinct⟩
    exact ⟨ne_nil_of_validateDenomID hvalid.id, hvalid.id, hseen, hvalid.creator, hvalid.bounds, ids, hnfts, rfl⟩

theorem validateGenesis_eq_ok {data : GenesisState} : validateGenesis X data = .ok () ↔
    (∀ c ∈ data.collections, ValidCollection X c) ∧ (data.collections.map fun c => c.denom.id).Nodup := by
  have hloop : (∃ seen, forEach (validateGenesisCollection X) [] data.collections = .ok seen) ↔
      (∀ c ∈ data.collections, ValidCollection X c) ∧ (data.collections.map fun c => c.denom.id).Nodup := by
    have hok : ∀ s c, (∃ t, validateGenesisCollection X s c = .ok t) ↔ ValidCollection X c ∧ ¬ c.denom.id ∈ s := by
      intro s c
      simp [validateGenesisCollection_eq_ok]
    have hseen : ∀ s x t y, validateGenesisCollection X s x = .ok t →
        ((DenomCollection.denom y).id ∈ t ↔ y.denom.id ∈ s ∨ x.denom.id = y.denom.id) := by
      intro s x t y h
      obtain ⟨-, -, rfl⟩ := validateGenesisCollection_eq_ok.mp h
      rw [List.mem_cons, or_comm, eq_comm]
    rw [forEach_unseen hok hseen]
    simp [List.Nodup, List.pairwise_map]
  rw [← hloop, validateGenesis, map_eq_ok]
  simp

/-- The record of an imported class: its creator is spelled in lower case. -/
def Denom.toClass (d : Denom) : Class :=
  ⟨d.name, d.symbol, d.description, d.uri, d.uriHash,
    .value ⟨toLower d.creator, d.schema, d.mintRestricted, d.updateRestricted, d.data⟩⟩

def BaseNFT.toNFT (nft : BaseNFT) : NFT := ⟨nft.uri, nft.uriHash, .value ⟨nft.name, nft.data⟩⟩

/-- An imported token with its owner, the empty account where the owner does not decode. -/
def BaseNFT.toHeld (X : Extern) (nft : BaseNFT) : Held := ⟨nft.toNFT, (nft.getOwner X).toOption.getD []⟩

def findCollection (cs : List DenomCollection) (c : GoString) : Option DenomCollection :=
  Keyed.find (fun x => x.denom.id) cs c

def ledgerOf (X : Extern) (cs : List DenomCollection) : NftLedger where
  getClass c := (findCollection cs c).map fun x => x.denom.toClass
  held c n := (findCollection cs c).bind fun x => (Keyed.find BaseNFT.id x.nfts n).map (BaseNFT.toHeld X)

def supplyOf (cs : List DenomCollection) (c : GoString) : Nat :=
  ((findCollection cs c).map fun x => x.nfts.length).getD 0

section

variable {cs : List DenomCollection} {d : Denom} {ns : List BaseNFT} {nft : BaseNFT}

lemma findCollection_append (hd : d.id ∉ cs.map fun x => x.denom.id) (c : GoString) :
    findCollection (cs ++ [⟨d, ns⟩]) c = if c = d.id then some ⟨d, ns⟩ else findCollection cs c :=
  Keyed.find_append_singleton (x := (⟨d, ns⟩ : DenomCollection)) hd c

lemma ledgerOf_append_class (hd : d.id ∉ cs.map fun x => x.denom.id) :
    ledgerOf X (cs ++ [⟨d, []⟩]) = (ledgerOf X cs).putClass d.id d.toClass := by
  have hnone : findCollection cs d.id = none := Keyed.find_eq_none.mpr hd
  apply NftLedger.ext
  · funext c
    by_cases hc : c = d.id
    · simp [ledgerOf, NftLedger.putClass, findCollection_append hd, hc]
    · simp [ledgerOf, NftLedger.putClass, findCollection_append hd, hc]
  · funext c n
    by_cases hc : c = d.id
    · simp [ledgerOf, findCollection_append hd, hc, hnone]
    · simp [ledgerOf, findCollection_append hd, hc]

lemma supplyOf_append_class (hd : d.id ∉ cs.map fun x => x.denom.id) : supplyOf (cs ++ [⟨d, []⟩]) = supplyOf cs := by
  have hnone : findCollection cs d.id = none := Keyed.find_eq_none.mpr hd
  funext c
  by_cases hc : c = d.id
  · simp [supplyOf, findCollection_append hd, hc, hnone]
  · simp [supplyOf, findCollection_append hd, hc]

lemma ledgerOf_append_nft (hd : d.id ∉ cs.map fun x => x.denom.id) (hnft : nft.id ∉ ns.map BaseNFT.id) :
    ledgerOf X (cs ++ [⟨d, ns ++ [nft]⟩]) =
      (ledgerOf X (cs ++ [⟨d, ns⟩])).put d.id nft.id (some (nft.toHeld X)) := by
  apply NftLedger.ext
  · funext c
    by_cases hc : c = d.id
    · simp [ledgerOf, findCollection_append hd, hc]
    · simp [ledgerOf, findCollection_append hd, hc]
  · funext c n
    by_cases hc : c = d.id
    · by_cases hn : n = nft.id
      · simp [ledgerOf, NftLedger.put, findCollection_append hd, Keyed.find_append_singleton hnft, hc, hn]
      · simp [ledgerOf, NftLedger.put, findCollection_append hd, Keyed.find_append_singleton hnft, hc, hn]
    · simp [ledgerOf, NftLedger.put, findCollection_append hd, hc]

lemma supplyOf_append_nft (hd : d.id ∉ cs.map fun x => x.denom.id) : supplyOf (cs ++ [⟨d, ns ++ [nft]⟩]) =
    Function.update (supplyOf (cs ++ [⟨d, ns⟩])) d.id (supplyOf (cs ++ [⟨d, ns⟩]) d.id + 1) := by
  funext c
  by_cases hc : c = d.id
  · simp [supplyOf, findCollection_append hd, hc]
  · simp [supplyOf, findCollection_append hd, hc]

end

/-- An account is spelled in lower case, and the empty one as the empty text. -/
structure SpellsLower (X : Extern) : Prop where
  accString_nil : X.accString [] = []
  accString_of_ok : ∀ {s acc}, X.accAddressFromBech32 s = .ok acc → X.accString acc = toLower s

lemma SpellsLower.accString_decodeAcc (hX : SpellsLower X) {s : GoString} {acc : AccAddress}
    (h : X.decodeAcc s = .ok acc) : X.accString acc = toLower s := by
  apply hX.accString_of_ok
  unfold Extern.decodeAcc at h
  cases hs : X.accAddressFromBech32 s with
  | error text => simp [hs] at h
  | ok acc' => simpa [hs] using h

/-- The store holds the collections read so far. -/
abbrev Imported (X : Extern) (K : Keeper) (B : ByteStore) (cs : List DenomCollection) : Prop :=
  Represents K.toRecords B (ledgerOf X cs) (supplyOf cs)

section

variable {K : Keeper} {B : ByteStore} {cs : List DenomCollection} {d : Denom} {ns : List BaseNFT} {nft : BaseNFT}

lemma Imported.saveNFT (h : Imported X K B (cs ++ [⟨d, ns⟩])) (hmax : 515 ≤ K.maxKeyLength)
    (hid : validateDenomID d.id = .ok ()) (hd : d.id ∉ cs.map fun x => x.denom.id) (hvalid : ValidNFT X d.id nft)
    (hnew : nft.id ∉ ns.map BaseNFT.id) (hlen : ns.length + 1 < 2 ^ 64) :
    ∃ B', (do
      let owner ← nft.getOwner X
      NftStore.saveNFT K B d.id nft.id nft.fields owner) = .ok B' ∧ Imported X K B' (cs ++ [⟨d, ns ++ [nft]⟩]) := by
  obtain ⟨acc, hacc⟩ := hvalid.owner
  have hzero := (bounds_of_validateDenomID hid).1
  have hclass : (ledgerOf X (cs ++ [⟨d, ns⟩])).hasClass d.id = true := by
    simp [NftLedger.hasClass, ledgerOf, findCollection_append hd]
  have hheld : (ledgerOf X (cs ++ [⟨d, ns⟩])).held d.id nft.id = none := by
    have hnone : Keyed.find BaseNFT.id ns nft.id = none := Keyed.find_eq_none.mpr hnew
    simp [ledgerOf, findCollection_append hd, hnone]
  have hfit : KeysFit K.toRecords d.id nft.id acc := by
    have hc := (bounds_of_validateDenomID hid).2
    have hn := bounds_of_validateTokenIDForDenom hvalid.id
    have ho := (X.decodeAcc_ok hacc).2
    exact ⟨hn.1, ho, by omega⟩
  have hsupply : supplyOf (cs ++ [⟨d, ns⟩]) d.id = ns.length := by
    simp [supplyOf, findCollection_append hd]
  have howner : nft.toHeld X = ⟨nft.toNFT, acc⟩ := by
    simp only [BaseNFT.toHeld, BaseNFT.getOwner, hacc]
    rfl
  obtain ⟨B', hmint, hB'⟩ := h.mint nft.toNFT hclass hheld hzero hfit (by rw [hsupply]; exact hlen)
  refine ⟨B', ?_, ?_⟩
  · rw [BaseNFT.getOwner, hacc, ok_bind, NftStore.saveNFT, require_of (ne_nil_of_validateDenomID hid), ok_bind,
      require_of hfit.id, ok_bind, require_of (X.decodeAcc_ok hacc).1, ok_bind]
    exact hmint
  · unfold Imported
    rw [ledgerOf_append_nft hd hnew, supplyOf_append_nft hd, howner]
    exact hB'

lemma Imported.saveCollection {rest : List BaseNFT} (h : Imported X K B (cs ++ [⟨d, ns⟩]))
    (hmax : 515 ≤ K.maxKeyLength) (hid : validateDenomID d.id = .ok ()) (hd : d.id ∉ cs.map fun x => x.denom.id)
    (hvalid : ∀ nft ∈ rest, ValidNFT X d.id nft) (hdistinct : ((ns ++ rest).map BaseNFT.id).Nodup)
    (hlen : (ns ++ rest).length < 2 ^ 64) :
    ∃ B', Collection.saveCollection X K B ⟨d, rest⟩ = .ok B' ∧ Imported X K B' (cs ++ [⟨d, ns ++ rest⟩]) := by
  induction rest generalizing ns B with
  | nil => exact ⟨B, rfl, by simpa using h⟩
  | cons nft rest ih =>
    have hnew : nft.id ∉ ns.map BaseNFT.id := by
      rw [List.map_append, List.map_cons, List.nodup_append] at hdistinct
      intro hmem
      exact hdistinct.2.2 _ hmem _ List.mem_cons_self rfl
    have hlength : ns.length + 1 < 2 ^ 64 := by
      simp only [List.length_append, List.length_cons] at hlen
      omega
    obtain ⟨B₁, hsave, h₁⟩ := h.saveNFT hmax hid hd (hvalid nft List.mem_cons_self) hnew hlength
    rw [List.append_cons] at hdistinct hlen
    obtain ⟨B', hrest, hB'⟩ := ih h₁ (fun t ht => hvalid t (List.mem_cons_of_mem _ ht)) hdistinct hlen
    refine ⟨B', forEach_cons_eq_ok.mpr ⟨B₁, hsave, hrest⟩, ?_⟩
    rw [List.append_cons ns nft rest]
    exact hB'

lemma Imported.initGenesisCollection {c : DenomCollection} (h : Imported X K B cs) (hX : SpellsLower X)
    (hmax : 515 ≤ K.maxKeyLength) (hvalid : ValidCollection X c) (hd : c.denom.id ∉ cs.map fun x => x.denom.id)
    (hlen : c.nfts.length < 2 ^ 64) :
    ∃ B', Collection.initGenesisCollection X K B c = .ok B' ∧ Imported X K B' (cs ++ [c]) := by
  obtain ⟨d, nfts⟩ := c
  obtain ⟨acc, hacc, hspell⟩ : ∃ acc, genesisCreator X d.creator = .ok acc ∧ X.accString acc = toLower d.creator := by
    unfold genesisCreator
    split
    · next hnil => exact ⟨[], rfl, by rw [hX.accString_nil, hnil]; rfl⟩
    · next hne =>
      obtain ⟨acc, hacc⟩ := hvalid.creator.resolve_left hne
      exact ⟨acc, hacc, hX.accString_decodeAcc hacc⟩
  have hnone : (ledgerOf X cs).getClass d.id = none := by
    have hfind : findCollection cs d.id = none := Keyed.find_eq_none.mpr hd
    simp [ledgerOf, hfind]
  have hshort : d.id.length < K.maxKeyLength := by
    have hc := (bounds_of_validateDenomID hvalid.id).2
    dsimp only at hc
    omega
  obtain ⟨B₁, hsave, h₁⟩ := h.saveClass d.toClass hnone hshort
  have hclass : Imported X K B₁ (cs ++ [⟨d, []⟩]) := by
    unfold Imported
    rw [ledgerOf_append_class hd, supplyOf_append_class hd]
    exact h₁
  obtain ⟨B', hnfts, hB'⟩ := hclass.saveCollection hmax hvalid.id hd hvalid.nfts hvalid.distinct hlen
  refine ⟨B', ?_, hB'⟩
  unfold Collection.initGenesisCollection
  rw [hacc, ok_bind, NftStore.saveDenom, hvalid.id, ok_bind, Denom.fields, hvalid.bounds, ok_bind, hspell]
  change (K.saveClass B d.id d.toClass >>= _) = _
  rw [hsave, ok_bind]
  exact hnfts

lemma Imported.initGenesis {rest : List DenomCollection} (h : Imported X K B cs) (hX : SpellsLower X)
    (hmax : 515 ≤ K.maxKeyLength) (hvalid : ∀ c ∈ rest, ValidCollection X c)
    (hdistinct : ((cs ++ rest).map fun c => c.denom.id).Nodup) (hlen : ∀ c ∈ rest, c.nfts.length < 2 ^ 64) :
    ∃ B', forEach (Collection.initGenesisCollection X K) B rest = .ok B' ∧ Imported X K B' (cs ++ rest) := by
  induction rest generalizing cs B with
  | nil => exact ⟨B, rfl, by simpa using h⟩
  | cons c rest ih =>
    have hd : c.denom.id ∉ cs.map fun x => x.denom.id := by
      rw [List.map_append, List.map_cons, List.nodup_append] at hdistinct
      intro hmem
      exact hdistinct.2.2 _ hmem _ List.mem_cons_self rfl
    obtain ⟨B₁, hc, h₁⟩ :=
      h.initGenesisCollection hX hmax (hvalid c List.mem_cons_self) hd (hlen c List.mem_cons_self)
    rw [List.append_cons] at hdistinct
    obtain ⟨B', hrest, hB'⟩ := ih h₁ (fun x hx => hvalid x (List.mem_cons_of_mem _ hx)) hdistinct
      (fun x hx => hlen x (List.mem_cons_of_mem _ hx))
    refine ⟨B', forEach_cons_eq_ok.mpr ⟨B₁, hc, hrest⟩, ?_⟩
    rw [List.append_cons]
    exact hB'

end

end Uptick.Collection
