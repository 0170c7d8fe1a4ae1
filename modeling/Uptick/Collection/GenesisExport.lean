import Uptick.Collection.Clamp
import Uptick.Collection.GenesisImport

/-!
# Exports that can be imported

`ExportGenesis` writes out what the store holds, and `ValidateGenesis` decides whether a chain can start from it. The
export cuts schemas and data that are too long; nothing else is put right, so an export is accepted exactly when every
record of the ledger would be.
-/

namespace Uptick.Collection

open Text Outcome NftStore

lemma classMetadataBoundsIssue_spec (d : Denom) : (classMetadataBoundsIssue d).1.id = d.id ∧
    (classMetadataBoundsIssue d).1.creator = d.creator ∧
    validateDenomMetadataBounds (classMetadataBoundsIssue d).1.schema (classMetadataBoundsIssue d).1.data = .ok () := by
  unfold classMetadataBoundsIssue
  dsimp only
  split
  · next hsame =>
    have hkept : (clampToValidUTF8Bound d.schema maxDenomSchemaLen).2 = false ∧
        (clampToValidUTF8Bound d.data maxDenomDataLen).2 = false := Bool.or_eq_false_iff.mp hsame
    have hfits : ∀ {s max}, (clampToValidUTF8Bound s max).2 = false → s.length ≤ max := by
      intro s max h
      unfold clampToValidUTF8Bound at h
      split at h
      · next hlen => exact hlen.1
      · cases h
    exact ⟨rfl, rfl, validateDenomMetadataBounds_eq_ok.mpr ⟨hfits hkept.1, hfits hkept.2⟩⟩
  · refine ⟨rfl, rfl, validateDenomMetadataBounds_eq_ok.mpr ⟨?_, ?_⟩⟩
    · exact length_clampToValidUTF8Bound d.schema maxDenomSchemaLen
    · exact length_clampToValidUTF8Bound d.data maxDenomDataLen

section

variable (X : Extern)

structure ImportableClass (c : GoString) (cl : Class) : Prop where
  id : validateDenomID c = .ok ()
  creator : ∀ m, cl.data = .value m → validateGenesisCreator X m.creator = .ok ()

structure ImportableToken (c n : GoString) (held : Held) : Prop where
  owner : ∃ acc, X.decodeAcc (X.accString held.owner) = .ok acc
  id : validateTokenIDForDenom c n = .ok ()
  uri : validateTokenURI X held.nft.uri = .ok ()

/-- Every record of the ledger may stand in a genesis. -/
structure Importable (L : NftLedger) : Prop where
  classes : ∀ c cl, L.getClass c = some cl → ImportableClass X c cl
  tokens : ∀ c n held, L.held c n = some held → ImportableToken X c n held

end

def Grounded (L : NftLedger) : Prop := ∀ c n held, L.held c n = some held → L.hasClass c = true

variable {X : Extern} {R : Records} {B : ByteStore} {L : NftLedger} {supply : GoString → Nat} {c : GoString}

/-- The creator that the export names: none where the class has no metadata that can be read. -/
def exportedCreator (cl : Class) : GoString :=
  match cl.data with
  | .value m => m.creator
  | _ => []

lemma validateGenesisCreator_exportedCreator {cl : Class} : validateGenesisCreator X (exportedCreator cl) = .ok () ↔
    ∀ m, cl.data = .value m → validateGenesisCreator X m.creator = .ok () := by
  unfold exportedCreator
  cases cl.data with
  | absent => simp [validateGenesisCreator]
  | unreadable err => simp [validateGenesisCreator]
  | value m => simp

lemma getNFTs_spec (h : Represents R B L supply) (hc : 0 ∉ c) : ∃ nfts, getNFTs X R B c = .ok nfts ∧
    (nfts.map BaseNFT.id).Nodup ∧ ∀ P : GoString → GoString → GoString → Prop,
      (∀ nft ∈ nfts, P nft.id nft.owner nft.uri) ↔
        ∀ n held, L.held c n = some held → P n (X.accString held.owner) held.nft.uri := by
  obtain ⟨ys, hys, hnodup, hmem⟩ := h.getNFTsOfClass_spec hc
  refine ⟨_, bind_eq_ok.mpr ⟨ys, hys, rfl⟩, ?_, ?_⟩
  · rw [List.map_map]
    exact hnodup
  · intro P
    rw [List.forall_mem_map]
    constructor
    · intro hall n held hheld
      have hy : (c, n, held.nft) ∈ ys := by
        apply (hmem _).mpr
        simp [NftLedger.getNFT, hheld]
      have hP := hall _ hy
      dsimp only at hP
      rwa [h.getOwner_eq hc, NftLedger.getOwner_of_held hheld] at hP
    · rintro hall ⟨c', n, t⟩ hy
      have hget := ((hmem _).mp hy).2
      obtain ⟨held, hheld, rfl⟩ := Option.map_eq_some_iff.mp hget
      have hP := hall n held hheld
      dsimp only
      rwa [h.getOwner_eq hc, NftLedger.getOwner_of_held hheld]

/-- What is exported of one class. -/
structure Exported (X : Extern) (R : Records) (B : ByteStore) (c : GoString) (cl : Class)
    (e : DenomCollection × List ExportIssue) : Prop where
  id : e.1.denom.id = c
  creator : e.1.denom.creator = exportedCreator cl
  bounds : validateDenomMetadataBounds e.1.denom.schema e.1.denom.data = .ok ()
  nfts : getNFTs X R B c = .ok e.1.nfts

lemma exportCollection_id (h : Represents R B L supply) {y : GoString × Class} {e : DenomCollection × List ExportIssue}
    (he : exportCollection X R B y = .ok e) : e.1.denom.id = y.1 := by
  obtain ⟨c, cl⟩ := y
  obtain ⟨nfts, -, he⟩ := bind_eq_ok.mp he
  cases he
  refine (classMetadataBoundsIssue_spec _).1.trans ?_
  unfold NftStore.getDenomInfo
  rw [h.getClass_eq, ok_bind]
  cases L.getClass c with
  | none => rfl
  | some stored =>
    dsimp only [Option.map_some]
    cases unmarshal DenomMetadata.zero stored.data <;> rfl

lemma exportCollection_ok (h : Represents R B L supply) {cl : Class} (hcl : L.getClass c = some cl)
    {e : DenomCollection × List ExportIssue} (he : exportCollection X R B (c, cl) = .ok e) : Exported X R B c cl e := by
  have hid := exportCollection_id h he
  obtain ⟨nfts, hnfts, he⟩ := bind_eq_ok.mp he
  cases he
  refine ⟨hid, (classMetadataBoundsIssue_spec _).2.1.trans ?_, (classMetadataBoundsIssue_spec _).2.2, hnfts⟩
  have hclass := h.getClass_eq c
  rw [hcl] at hclass
  unfold NftStore.getDenomInfo exportedCreator
  rw [hclass, ok_bind]
  dsimp only [Option.map_some]
  cases cl.data <;> rfl

lemma Exported.valid_iff (h : Represents R B L supply) (hc : 0 ∉ c) {cl : Class}
    {e : DenomCollection × List ExportIssue} (he : Exported X R B c cl e) : ValidCollection X e.1 ↔
      ImportableClass X c cl ∧ ∀ n held, L.held c n = some held → ImportableToken X c n held := by
  obtain ⟨nfts, hnfts, hnodup, hall⟩ := getNFTs_spec (X := X) h hc
  obtain rfl : nfts = e.1.nfts := Except.ok.inj (hnfts.symm.trans he.nfts)
  have htokens := hall fun n owner uri => (∃ acc, X.decodeAcc owner = .ok acc) ∧
    validateTokenIDForDenom c n = .ok () ∧ validateTokenURI X uri = .ok ()
  constructor
  · intro hvalid
    have hid := hvalid.id
    rw [he.id] at hid
    refine ⟨⟨hid, ?_⟩, ?_⟩
    · apply validateGenesisCreator_exportedCreator.mp
      rw [← he.creator]
      exact validateGenesisCreator_eq_ok.mpr hvalid.creator
    · intro n held hheld
      have hparts := htokens.mp (fun nft hnft => by
        have hnft := hvalid.nfts nft hnft
        rw [he.id] at hnft
        exact ⟨hnft.owner, hnft.id, hnft.uri⟩) n held hheld
      exact ⟨hparts.1, hparts.2.1, hparts.2.2⟩
  · rintro ⟨hclass, himportable⟩
    have hparts := htokens.mpr fun n held hheld =>
      ⟨(himportable n held hheld).owner, (himportable n held hheld).id, (himportable n held hheld).uri⟩
    constructor
    · rw [he.id]
      exact hclass.id
    · apply validateGenesisCreator_eq_ok.mp
      rw [he.creator]
      exact validateGenesisCreator_exportedCreator.mpr hclass.creator
    · exact he.bounds
    · intro nft hnft
      rw [he.id]
      exact ⟨(hparts nft hnft).1, (hparts nft hnft).2.1, (hparts nft hnft).2.2⟩
    · exact hnodup

/-- The chain can restart from its own export. -/
def Restarts (X : Extern) (R : Records) (B : ByteStore) : Prop :=
  ∃ data, exportGenesis X R B = .ok data ∧ validateGenesis X data = .ok ()

theorem restarts_iff_importable (h : Represents R B L supply) (hground : Grounded L) :
    Restarts X R B ↔ Importable X L := by
  obtain ⟨ys, hys, hnodup, hmem⟩ := h.getClasses_spec
  constructor
  · rintro ⟨data, hexport, hvalid⟩
    obtain ⟨⟨collections, issues⟩, hreport, hdata⟩ := bind_eq_ok.mp hexport
    cases hdata
    obtain ⟨ys', hys', hreport⟩ := bind_eq_ok.mp hreport
    obtain rfl : ys = ys' := Except.ok.inj (hys.symm.trans hys')
    obtain ⟨es, hes, hreport⟩ := bind_eq_ok.mp hreport
    cases hreport
    have hpairs := mapM_eq_ok.mp hes
    have hall := (validateGenesis_eq_ok.mp hvalid).1
    have hclass : ∀ c cl, L.getClass c = some cl → ImportableClass X c cl ∧
        ∀ n held, L.held c n = some held → ImportableToken X c n held := by
      intro c cl hcl
      obtain ⟨e, he, hexported⟩ := exists_of_mem_left hpairs ((hmem (c, cl)).mpr hcl)
      have hspec := exportCollection_ok h hcl hexported
      have hcollection := hall e.1 (List.mem_map_of_mem he)
      have hid := hcollection.id
      rw [hspec.id] at hid
      exact (hspec.valid_iff h (bounds_of_validateDenomID hid).1).mp hcollection
    constructor
    · intro c cl hcl
      exact (hclass c cl hcl).1
    · intro c n held hheld
      obtain ⟨cl, hcl⟩ := Option.isSome_iff_exists.mp (hground c n held hheld)
      exact (hclass c cl hcl).2 n held hheld
  · intro himportable
    have hone : ∀ y ∈ ys, ∃ e, exportCollection X R B y = .ok e ∧ ValidCollection X e.1 ∧ e.1.denom.id = y.1 := by
      rintro ⟨c, cl⟩ hy
      have hcl := (hmem (c, cl)).mp hy
      have hclass := himportable.classes c cl hcl
      have hc := (bounds_of_validateDenomID hclass.id).1
      obtain ⟨nfts, hnfts, -⟩ := getNFTs_spec (X := X) h hc
      have he : ∃ e, exportCollection X R B (c, cl) = .ok e := ⟨_, bind_eq_ok.mpr ⟨nfts, hnfts, rfl⟩⟩
      obtain ⟨e, he⟩ := he
      have hspec := exportCollection_ok h hcl he
      exact ⟨e, he, (hspec.valid_iff h hc).mpr ⟨hclass, himportable.tokens c⟩, hspec.id⟩
    obtain ⟨es, hes⟩ := exists_mapM_eq_ok fun y hy => (hone y hy).imp fun _ he => he.1
    have hpairs := mapM_eq_ok.mp hes
    have hids : es.map (fun e => e.1.denom.id) = ys.map Prod.fst := by
      rw [← List.forall₂_eq_eq_eq, List.forall₂_map_left_iff, List.forall₂_map_right_iff]
      exact (hpairs.imp fun _ _ he => exportCollection_id h he).flip
    refine ⟨⟨es.map Prod.fst⟩, ?_, validateGenesis_eq_ok.mpr ⟨?_, ?_⟩⟩
    · rw [exportGenesis, getCollectionsWithReport, hys, ok_bind, hes]
      rfl
    · rw [List.forall_mem_map]
      intro e he
      obtain ⟨y, hy, hexported⟩ := exists_of_mem_right hpairs he
      obtain ⟨e', he', hvalid, -⟩ := hone y hy
      obtain rfl : e = e' := Except.ok.inj (hexported.symm.trans he')
      exact hvalid
    · rw [List.map_map]
      exact hids ▸ hnodup

end Uptick.Collection
