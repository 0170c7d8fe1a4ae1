import Uptick.Collection.GenesisImport
import Uptick.SampleStore

/-!
# Export after import

What `InitGenesis` imported into an empty store, `ExportGenesis` gives back: every field of every denom and token, up
to the order of the classes and of the tokens of each and up to the letter case of the addresses.
-/

namespace Uptick.Collection

open Text Outcome NftStore

variable {X : Extern}

def BaseNFT.spelled (nft : BaseNFT) : BaseNFT := { nft with owner := toLower nft.owner }

def Denom.spelled (d : Denom) : Denom := { d with creator := toLower d.creator }

/-- The same collection up to the order of its tokens and the letter case of the addresses. -/
structure SameCollection (c c' : DenomCollection) : Prop where
  denom : c'.denom = c.denom.spelled
  nfts : c'.nfts.Perm (c.nfts.map BaseNFT.spelled)

def SameGenesis (data data' : GenesisState) : Prop :=
  ∃ cs, cs.Perm data.collections ∧ List.Forall₂ SameCollection cs data'.collections

/-- Every text of the collection is valid UTF-8. -/
structure DenomCollection.ValidUtf8 (c : DenomCollection) : Prop where
  denom : ∀ s ∈ [c.denom.id, c.denom.name, c.denom.schema, c.denom.creator, c.denom.symbol, c.denom.description,
    c.denom.uri, c.denom.uriHash, c.denom.data], Utf8.validString s = true
  nfts : ∀ nft ∈ c.nfts, ∀ s ∈ [nft.id, nft.name, nft.uri, nft.data, nft.owner, nft.uriHash], Utf8.validString s = true

lemma clampToValidUTF8Bound_of_valid {s : GoString} {max : Nat} (hlen : s.length ≤ max)
    (hvalid : Utf8.validString s = true) : clampToValidUTF8Bound s max = (s, false) := by
  rw [clampToValidUTF8Bound, if_pos ⟨hlen, hvalid⟩]

lemma classMetadataBoundsIssue_of_valid {d : Denom} (hbounds : validateDenomMetadataBounds d.schema d.data = .ok ())
    (hschema : Utf8.validString d.schema = true) (hdata : Utf8.validString d.data = true) :
    classMetadataBoundsIssue d = (d, none) := by
  obtain ⟨hs, hd⟩ := require_bind_eq_ok.mp hbounds
  rw [require_eq_ok] at hd
  simp [classMetadataBoundsIssue, clampDenomMetadataBounds, clampToValidUTF8Bound_of_valid hs hschema,
    clampToValidUTF8Bound_of_valid hd hdata]

section

variable {K : Keeper} {B : ByteStore} {cs : List DenomCollection} {c : DenomCollection}

lemma findCollection_of_mem (hdistinct : (cs.map fun c => c.denom.id).Nodup) (hc : c ∈ cs) :
    findCollection cs c.denom.id = some c :=
  (Keyed.find_eq_some hdistinct).mpr ⟨hc, rfl⟩

lemma Imported.getNFTs (h : Imported X K B cs) (hX : SpellsLower X)
    (hdistinct : (cs.map fun c => c.denom.id).Nodup) (hc : c ∈ cs) (hvalid : ValidCollection X c) :
    ∃ nfts, Collection.getNFTs X K.toRecords B c.denom.id = .ok nfts ∧ nfts.Perm (c.nfts.map BaseNFT.spelled) := by
  have hfind := findCollection_of_mem hdistinct hc
  have hzero := (bounds_of_validateDenomID hvalid.id).1
  have hheld : ∀ n, (ledgerOf X cs).held c.denom.id n = (Keyed.find BaseNFT.id c.nfts n).map (BaseNFT.toHeld X) := by
    intro n
    simp [ledgerOf, hfind]
  obtain ⟨ys, hys, hnodup, hmem⟩ := h.getNFTsOfClass_spec hzero
  have hperm : ys.Perm (c.nfts.map fun nft => (c.denom.id, nft.id, nft.toNFT)) := by
    have hnodup' : (c.nfts.map fun nft => (c.denom.id, nft.id, nft.toNFT)).Nodup := by
      apply List.Nodup.of_map (fun y => y.2.1)
      rw [List.map_map]
      exact hvalid.distinct
    rw [List.perm_ext_iff_of_nodup hnodup.of_map hnodup']
    rintro ⟨c', n, t⟩
    rw [hmem, NftLedger.getNFT, hheld]
    simp only [Option.map_map, Option.map_eq_some_iff, Keyed.find_eq_some hvalid.distinct, List.mem_map,
      Prod.mk.injEq, Function.comp_apply]
    constructor
    · rintro ⟨rfl, nft, ⟨hnft, rfl⟩, rfl⟩
      exact ⟨nft, hnft, rfl, rfl, rfl⟩
    · rintro ⟨nft, hnft, rfl, rfl, rfl⟩
      exact ⟨rfl, nft, ⟨hnft, rfl⟩, rfl⟩
  refine ⟨_, bind_eq_ok.mpr ⟨ys, hys, rfl⟩, (hperm.map _).trans ?_⟩
  rw [List.map_map]
  apply List.Perm.of_eq
  apply List.map_congr_left
  intro nft hnft
  obtain ⟨acc, hacc⟩ := (hvalid.nfts nft hnft).owner
  have howner : getOwner B c.denom.id nft.id = acc := by
    have hone : Keyed.find BaseNFT.id c.nfts nft.id = some nft := (Keyed.find_eq_some hvalid.distinct).mpr ⟨hnft, rfl⟩
    rw [h.getOwner_eq hzero, NftLedger.getOwner, hheld, hone]
    simp only [Option.map_some, Option.getD_some, BaseNFT.toHeld, BaseNFT.getOwner, hacc]
    rfl
  simp only [Function.comp_apply, BaseNFT.toNFT, shownMetadata, howner, hX.accString_decodeAcc hacc]
  rfl

lemma Imported.exportCollection (h : Imported X K B cs) (hX : SpellsLower X)
    (hdistinct : (cs.map fun c => c.denom.id).Nodup) (hc : c ∈ cs) (hvalid : ValidCollection X c)
    (hutf8 : c.ValidUtf8) :
    ∃ e, Collection.exportCollection X K.toRecords B (c.denom.id, c.denom.toClass) = .ok e ∧
      SameCollection c e.1 ∧ e.2 = [] := by
  have hfind := findCollection_of_mem hdistinct hc
  obtain ⟨nfts, hnfts, hperm⟩ := h.getNFTs hX hdistinct hc hvalid
  have hinfo : NftStore.getDenomInfo K.toRecords B c.denom.id = .ok c.denom.spelled := by
    have hclass : (ledgerOf X cs).getClass c.denom.id = some c.denom.toClass := by
      simp [ledgerOf, hfind]
    unfold NftStore.getDenomInfo
    rw [h.getClass_eq, hclass]
    rfl
  have hclamp : classMetadataBoundsIssue c.denom.spelled = (c.denom.spelled, none) := by
    apply classMetadataBoundsIssue_of_valid (d := c.denom.spelled) hvalid.bounds
    · exact hutf8.denom _ (by simp [Denom.spelled])
    · exact hutf8.denom _ (by simp [Denom.spelled])
  have hsupply : supplyIssue B c.denom.id nfts.length = none := by
    have hcount : getTotalSupply B c.denom.id = nfts.length := by
      rw [h.getTotalSupply_eq, supplyOf, hfind, hperm.length_eq, List.length_map]
      rfl
    simp [supplyIssue, hcount]
  refine ⟨(⟨c.denom.spelled, nfts⟩, []), ?_, ⟨rfl, hperm⟩, rfl⟩
  unfold Collection.exportCollection
  rw [hnfts, ok_bind, hinfo]
  dsimp only
  rw [hclamp, hsupply]
  rfl

lemma exists_mapM_of_forall₂ {α β γ ε : Type} {f : β → Except ε γ} {r : β → α → Prop} {Q : α → γ → Prop}
    {ys : List β} {xs : List α} (h : List.Forall₂ r ys xs) (hf : ∀ y x, x ∈ xs → r y x → ∃ z, f y = .ok z ∧ Q x z) :
    ∃ zs, ys.mapM f = .ok zs ∧ List.Forall₂ Q xs zs := by
  induction h with
  | nil => exact ⟨[], rfl, .nil⟩
  | cons hyx _ ih =>
    obtain ⟨z, hz, hQ⟩ := hf _ _ List.mem_cons_self hyx
    obtain ⟨zs, hzs, hall⟩ := ih fun y x hx => hf y x (List.mem_cons_of_mem _ hx)
    exact ⟨z :: zs, mapM_eq_ok.mpr (.cons hz (mapM_eq_ok.mp hzs)), .cons hQ hall⟩

lemma Imported.getCollectionsWithReport (h : Imported X K B cs) (hX : SpellsLower X)
    (hdistinct : (cs.map fun c => c.denom.id).Nodup) (hvalid : ∀ c ∈ cs, ValidCollection X c)
    (hutf8 : ∀ c ∈ cs, c.ValidUtf8) :
    ∃ cs', Collection.getCollectionsWithReport X K.toRecords B = .ok (cs', []) ∧
      ∃ order, order.Perm cs ∧ List.Forall₂ SameCollection order cs' := by
  obtain ⟨ys, hys, hnodup, hmem⟩ := h.getClasses_spec
  have hperm : ys.Perm (cs.map fun c => (c.denom.id, c.denom.toClass)) := by
    have hnodup' : (cs.map fun c => (c.denom.id, c.denom.toClass)).Nodup := by
      apply List.Nodup.of_map Prod.fst
      rw [List.map_map]
      exact hdistinct
    rw [List.perm_ext_iff_of_nodup hnodup.of_map hnodup']
    rintro ⟨id, cl⟩
    rw [hmem]
    simp only [ledgerOf, findCollection, Option.map_eq_some_iff, Keyed.find_eq_some hdistinct, List.mem_map,
      Prod.mk.injEq]
    constructor
    · rintro ⟨c, ⟨hc, hid⟩, hcl⟩
      exact ⟨c, hc, hid, hcl⟩
    · rintro ⟨c, hc, hid, hcl⟩
      exact ⟨c, ⟨hc, hid⟩, hcl⟩
  have hpairs : List.Forall₂ (fun y c => y = (c.denom.id, c.denom.toClass))
      (cs.map fun c => (c.denom.id, c.denom.toClass)) cs := by
    rw [List.forall₂_map_left_iff]
    exact List.forall₂_refl _
  obtain ⟨order, horder, hsame⟩ := List.perm_comp_forall₂ hperm hpairs
  obtain ⟨es, hes, hall⟩ := exists_mapM_of_forall₂ (f := Collection.exportCollection X K.toRecords B)
    (Q := fun c e => SameCollection c e.1 ∧ e.2 = []) horder (by
      rintro y c hc rfl
      have hcs := hsame.mem_iff.mp hc
      exact h.exportCollection hX hdistinct hcs (hvalid c hcs) (hutf8 c hcs))
  have hissues : (es.map Prod.snd).flatten = [] := by
    rw [List.flatten_eq_nil_iff]
    intro l hl
    obtain ⟨e, he, rfl⟩ := List.mem_map.mp hl
    obtain ⟨c, -, -, hnone⟩ := exists_of_mem_right hall he
    exact hnone
  refine ⟨es.map Prod.fst, ?_, order, hsame, ?_⟩
  · unfold Collection.getCollectionsWithReport
    rw [hys, ok_bind, hes, ok_bind, hissues]
  · rw [List.forall₂_map_right_iff]
    exact hall.imp fun _ _ he => he.1

end

/-- A valid genesis is imported without a panic and exported again as it was: the same denoms and tokens, the supply of
each class counting its tokens, and no degradation reported. -/
theorem exportGenesis_initGenesis (X : Extern) (hX : SpellsLower X) (K : Keeper) (hmax : 515 ≤ K.maxKeyLength)
    (data : GenesisState) (hutf8 : ∀ c ∈ data.collections, c.ValidUtf8)
    (hslices : ∀ c ∈ data.collections, c.nfts.length < 2 ^ 63) (hvalid : validateGenesis X data = .ok ()) :
    ∃ B data', initGenesis X K KVStore.empty data = .ok B ∧ exportGenesis X K.toRecords B = .ok data' ∧
      SameGenesis data data' ∧ (∀ c ∈ data.collections, getTotalSupply B c.denom.id = c.nfts.length) ∧
      ∃ cs, getCollectionsWithReport X K.toRecords B = .ok (cs, []) := by
  obtain ⟨hall, hdistinct⟩ := validateGenesis_eq_ok.mp hvalid
  have hempty : Imported X K KVStore.empty [] := represents_empty K.toRecords
  obtain ⟨B, hinit, hB⟩ := hempty.initGenesis hX hmax hall (by simpa using hdistinct) fun c hc => by
    have hlen := hslices c hc
    omega
  rw [List.nil_append] at hB
  obtain ⟨cs, hreport, hsame⟩ := hB.getCollectionsWithReport hX hdistinct hall hutf8
  refine ⟨B, ⟨cs⟩, ?_, ?_, hsame, ?_, cs, hreport⟩
  · rw [initGenesis, hvalid, ok_bind, hinit]
  · rw [exportGenesis, hreport]
    rfl
  · intro c hc
    rw [hB.getTotalSupply_eq, supplyOf, findCollection_of_mem hdistinct hc]
    rfl

/-- A class with a token whose owner is spelled in capitals, and a voucher class without a creator. -/
def sampleGenesis : GenesisState where
  collections :=
    [⟨⟨str "kitty", str "Kitties", [], str "uptick1zyg3zyg3zyg3zyg3zyg3zyg3zyg3zyg3jmtet7",
        str "KIT", true, true, [], [],
        [], str "\x7b\x7d"⟩,
      [⟨str "cat1", str "Tom", [], [], str "UPTICK1YG3ZYG3ZYG3ZYG3ZYG3ZYG3ZYG3ZYG3ZAXWLRF", []⟩,
        ⟨str "cat2", [], [], [], str "uptick1zyg3zyg3zyg3zyg3zyg3zyg3zyg3zyg3jmtet7", []⟩]⟩,
      ⟨⟨str "ibc/AB12", [], [], [], [], false, false, [], [], [], []⟩, []⟩]

lemma spellsLower_sample : SpellsLower Sample.lowerX := by
  constructor
  · rfl
  · intro s acc h
    have hacc := Sample.readLower_eq_ok.mp h
    have hne : acc ≠ [] := (Sample.lowerX.accAddressFromBech32_ok h).1
    change (if acc = [] then [] else Sample.accString acc) = toLower s
    rw [if_neg hne, hacc.2]

theorem exportGenesis_initGenesis_sample : ∃ B data',
    initGenesis Sample.lowerX Sample.keeper KVStore.empty sampleGenesis = .ok B ∧
      exportGenesis Sample.lowerX Sample.records B = .ok data' ∧ SameGenesis sampleGenesis data' := by
  have hutf8 : ∀ c ∈ sampleGenesis.collections, c.ValidUtf8 := by
    have hdenom : ∀ c ∈ sampleGenesis.collections, ∀ s ∈ [c.denom.id, c.denom.name, c.denom.schema, c.denom.creator,
        c.denom.symbol, c.denom.description, c.denom.uri, c.denom.uriHash, c.denom.data],
        Utf8.validString s = true := by decide +kernel
    have hnfts : ∀ c ∈ sampleGenesis.collections, ∀ nft ∈ c.nfts,
        ∀ s ∈ [nft.id, nft.name, nft.uri, nft.data, nft.owner, nft.uriHash], Utf8.validString s = true := by
      decide +kernel
    exact fun c hc => ⟨hdenom c hc, hnfts c hc⟩
  have hslices : ∀ c ∈ sampleGenesis.collections, c.nfts.length < 2 ^ 63 := by decide +kernel
  have hvalid : validateGenesis Sample.lowerX sampleGenesis = .ok () := by
    obtain ⟨u, hu⟩ := exists_eq_ok (x := validateGenesis Sample.lowerX sampleGenesis) (by decide +kernel)
    exact hu
  obtain ⟨B, data', hinit, hexport, hsame, -⟩ :=
    exportGenesis_initGenesis Sample.lowerX spellsLower_sample Sample.keeper (by decide)
      sampleGenesis hutf8 hslices hvalid
  exact ⟨B, data', hinit, hexport, hsame⟩

end Uptick.Collection
