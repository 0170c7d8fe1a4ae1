import Uptick.Collection.GenesisRoundTrip

/-!
# Where the validation of a genesis panics

`ValidateGenesis` reads the owner of a token with `GetOwner`, which panics on a text that is not an address. An
error and a panic are told apart here; everything else is the validation of `Genesis.lean`.
-/

namespace Uptick.Collection

open Text Outcome NftStore

/-- How a function ends that does not succeed. -/
inductive Halt
  | refused (e : Error)
  | panicked (e : Error)
  deriving DecidableEq

section

variable (X : Extern)

/-- One token: the owner is read before anything else is looked at. -/
def validateNFTHalting (denomID : GoString) (seenTokenIDs : List GoString) (nft : BaseNFT) :
    Except Halt (List GoString) := do
  let _ ← (nft.getOwner X).mapError .panicked
  (validateGenesisNFT X denomID seenTokenIDs nft).mapError .refused

/-- The checks of a collection before its tokens. -/
def validateGenesisDenom (seenDenomIDs : List GoString) (d : Denom) : Except Error Unit := do
  require (d.id ≠ []) (wrapf .invalidRequest "collection denom id is empty" [])
  validateDenomID d.id
  require (d.id ∉ seenDenomIDs) (wrapf .invalidRequest "duplicate denom id %s" [.s d.id])
  validateGenesisCreator X d.creator
  validateDenomMetadataBounds d.schema d.data

def validateCollectionHalting (seenDenomIDs : List GoString) (c : DenomCollection) : Except Halt (List GoString) := do
  (validateGenesisDenom X seenDenomIDs c.denom).mapError .refused
  let _ ← forEach (validateNFTHalting X c.denom.id) [] c.nfts
  .ok (c.denom.id :: seenDenomIDs)

/-- `ValidateGenesis`, with its panics. -/
def validateGenesisHalting (data : GenesisState) : Except Halt Unit :=
  (forEach (validateCollectionHalting X) [] data.collections).map fun _ => ()

/-- Everything before some token is valid, and the owner of that token cannot be read. -/
def ReachesUnreadableOwner (data : GenesisState) : Prop :=
  ∃ (before : List DenomCollection) (denom : Denom) (nfts : List BaseNFT) (nft : BaseNFT) (rest : List BaseNFT)
    (after : List DenomCollection), data.collections = before ++ ⟨denom, nfts ++ nft :: rest⟩ :: after ∧
      (∀ c ∈ before ++ [⟨denom, nfts⟩], ValidCollection X c) ∧
      (List.map (fun c => c.denom.id) (before ++ [⟨denom, nfts⟩])).Nodup ∧ ∀ acc, X.decodeAcc nft.owner ≠ .ok acc

end

variable {X : Extern}

lemma mapError_eq_ok_iff {ε ε' α : Type} {f : ε → ε'} {x : Except ε α} {a : α} : x.mapError f = .ok a ↔ x = .ok a := by
  cases x <;> simp [Except.mapError]

lemma validateNFTHalting_eq_ok {denomID : GoString} {seen seen' : List GoString} {nft : BaseNFT} :
    validateNFTHalting X denomID seen nft = .ok seen' ↔ validateGenesisNFT X denomID seen nft = .ok seen' := by
  unfold validateNFTHalting
  simp only [bind_eq_ok, mapError_eq_ok_iff]
  constructor
  · rintro ⟨_, -, h⟩
    exact h
  · intro h
    obtain ⟨acc, hacc⟩ := (validateGenesisNFT_eq_ok.mp h).1.owner
    exact ⟨acc, hacc, h⟩

lemma validateNFTHalting_panics {denomID : GoString} {seen : List GoString} {nft : BaseNFT} {e : Error} :
    validateNFTHalting X denomID seen nft = .error (.panicked e) ↔ X.decodeAcc nft.owner = .error e := by
  unfold validateNFTHalting BaseNFT.getOwner
  cases hdecode : X.decodeAcc nft.owner with
  | error e' =>
    change Except.error (Halt.panicked e') = _ ↔ _
    simp
  | ok acc =>
    change (validateGenesisNFT X denomID seen nft).mapError Halt.refused = _ ↔ _
    cases validateGenesisNFT X denomID seen nft <;> simp [Except.mapError]

lemma forEach_validateNFTHalting {denomID : GoString} {seen seen' : List GoString} {nfts : List BaseNFT} :
    forEach (validateNFTHalting X denomID) seen nfts = .ok seen' ↔
      forEach (validateGenesisNFT X denomID) seen nfts = .ok seen' := by
  induction nfts generalizing seen with
  | nil => simp
  | cons nft nfts ih => simp only [forEach_cons_eq_ok, validateNFTHalting_eq_ok, ih]

lemma validateGenesisCollection_eq (seen : List GoString) (c : DenomCollection) :
    validateGenesisCollection X seen c = (do
      validateGenesisDenom X seen c.denom
      let _ ← forEach (validateGenesisNFT X c.denom.id) [] c.nfts
      .ok (c.denom.id :: seen)) := by
  simp only [validateGenesisCollection, validateGenesisDenom, bind_assoc]

lemma validateCollectionHalting_eq_ok {seen seen' : List GoString} {c : DenomCollection} :
    validateCollectionHalting X seen c = .ok seen' ↔ validateGenesisCollection X seen c = .ok seen' := by
  rw [validateGenesisCollection_eq, validateCollectionHalting]
  simp only [bind_eq_ok, mapError_eq_ok_iff, forEach_validateNFTHalting, Except.ok.injEq]

lemma forEach_validateCollectionHalting {seen seen' : List GoString} {cs : List DenomCollection} :
    forEach (validateCollectionHalting X) seen cs = .ok seen' ↔
      forEach (validateGenesisCollection X) seen cs = .ok seen' := by
  induction cs generalizing seen with
  | nil => simp
  | cons c cs ih => simp only [forEach_cons_eq_ok, validateCollectionHalting_eq_ok, ih]

lemma validateGenesisHalting_eq_ok {data : GenesisState} :
    validateGenesisHalting X data = .ok () ↔ validateGenesis X data = .ok () := by
  simp only [validateGenesisHalting, validateGenesis, map_eq_ok, forEach_validateCollectionHalting]

/-- A collection panics at a token behind valid ones. -/
lemma validateCollectionHalting_panics {seen : List GoString} {c : DenomCollection} {e : Error} :
    validateCollectionHalting X seen c = .error (.panicked e) ↔
      ∃ nfts nft rest seen', c.nfts = nfts ++ nft :: rest ∧
        validateGenesisCollection X seen ⟨c.denom, nfts⟩ = .ok seen' ∧ X.decodeAcc nft.owner = .error e := by
  unfold validateCollectionHalting
  cases hdenom : validateGenesisDenom X seen c.denom with
  | error e' =>
    simp only [Except.mapError, error_bind, validateGenesisCollection_eq, hdenom]
    simp
  | ok u =>
    have hloop : forEach (validateNFTHalting X c.denom.id) [] c.nfts = .error (.panicked e) ↔
        ∃ nfts nft rest, c.nfts = nfts ++ nft :: rest ∧
          (∃ t, forEach (validateGenesisNFT X c.denom.id) [] nfts = .ok t) ∧ X.decodeAcc nft.owner = .error e := by
      rw [forEach_eq_error]
      constructor
      · rintro ⟨nfts, nft, rest, t, hnfts, hbefore, hpanic⟩
        exact ⟨nfts, nft, rest, hnfts, ⟨t, forEach_validateNFTHalting.mp hbefore⟩, validateNFTHalting_panics.mp hpanic⟩
      · rintro ⟨nfts, nft, rest, hnfts, ⟨t, hbefore⟩, hpanic⟩
        exact ⟨nfts, nft, rest, t, hnfts, forEach_validateNFTHalting.mpr hbefore, validateNFTHalting_panics.mpr hpanic⟩
    have hstep : ((Except.mapError Halt.refused (.ok u)) >>= fun _ => do
        let _ ← forEach (validateNFTHalting X c.denom.id) [] c.nfts
        Except.ok (c.denom.id :: seen)) = .error (.panicked e) ↔
          forEach (validateNFTHalting X c.denom.id) [] c.nfts = .error (.panicked e) := by
      change (forEach (validateNFTHalting X c.denom.id) [] c.nfts >>= _) = _ ↔ _
      cases forEach (validateNFTHalting X c.denom.id) [] c.nfts <;> simp
    rw [hstep, hloop]
    simp only [validateGenesisCollection_eq, hdenom, ok_bind]
    constructor
    · rintro ⟨nfts, nft, rest, hnfts, ⟨t, hbefore⟩, hpanic⟩
      exact ⟨nfts, nft, rest, c.denom.id :: seen, hnfts, by rw [hbefore]; rfl, hpanic⟩
    · rintro ⟨nfts, nft, rest, seen', hnfts, hbefore, hpanic⟩
      obtain ⟨t, ht, -⟩ := bind_eq_ok.mp hbefore
      exact ⟨nfts, nft, rest, hnfts, ⟨t, ht⟩, hpanic⟩

/-- The validation panics exactly when it comes to an owner that cannot be read. -/
theorem validateGenesisHalting_panics_iff {data : GenesisState} :
    (∃ e, validateGenesisHalting X data = .error (.panicked e)) ↔ ReachesUnreadableOwner X data := by
  have hloop : ∀ e, validateGenesisHalting X data = .error (.panicked e) ↔
      forEach (validateCollectionHalting X) [] data.collections = .error (.panicked e) := by
    intro e
    rw [validateGenesisHalting]
    cases forEach (validateCollectionHalting X) [] data.collections <;> simp [Except.map]
  simp only [hloop, forEach_eq_error]
  constructor
  · rintro ⟨e, before, c, after, t, hdata, hbefore, hpanic⟩
    obtain ⟨nfts, nft, rest, t', hnfts, hc, howner⟩ := validateCollectionHalting_panics.mp hpanic
    have hvalid : validateGenesis X ⟨before ++ [⟨c.denom, nfts⟩]⟩ = .ok () := by
      rw [validateGenesis, forEach_append, forEach_validateCollectionHalting.mp hbefore, ok_bind, forEach, hc]
      rfl
    obtain ⟨hall, hdistinct⟩ := validateGenesis_eq_ok.mp hvalid
    refine ⟨before, c.denom, nfts, nft, rest, after, ?_, hall, hdistinct, fun acc hacc => ?_⟩
    · rw [hdata, ← hnfts]
    · rw [howner] at hacc
      cases hacc
  · rintro ⟨before, denom, nfts, nft, rest, after, hdata, hall, hdistinct, howner⟩
    have hvalid : validateGenesis X ⟨before ++ [⟨denom, nfts⟩]⟩ = .ok () := validateGenesis_eq_ok.mpr ⟨hall, hdistinct⟩
    rw [validateGenesis, map_eq_ok] at hvalid
    obtain ⟨t, ht, -⟩ := hvalid
    rw [forEach_append] at ht
    obtain ⟨t₁, hbefore, hc⟩ := bind_eq_ok.mp ht
    obtain ⟨t₂, hc, -⟩ := forEach_cons_eq_ok.mp hc
    cases hdecode : X.decodeAcc nft.owner with
    | ok acc => exact absurd hdecode (howner acc)
    | error e =>
      exact ⟨e, before, ⟨denom, nfts ++ nft :: rest⟩, after, t₁, hdata, forEach_validateCollectionHalting.mpr hbefore,
        validateCollectionHalting_panics.mpr ⟨nfts, nft, rest, t₂, rfl, hc, hdecode⟩⟩

lemma exists_initGenesis (hX : SpellsLower X) {K : Keeper} (hmax : 515 ≤ K.maxKeyLength) {data : GenesisState}
    (hslices : ∀ c ∈ data.collections, c.nfts.length < 2 ^ 63) (hvalid : validateGenesis X data = .ok ()) :
    ∃ B, initGenesis X K KVStore.empty data = .ok B := by
  obtain ⟨hall, hdistinct⟩ := validateGenesis_eq_ok.mp hvalid
  have hempty : Imported X K KVStore.empty [] := represents_empty K.toRecords
  obtain ⟨B, hinit, -⟩ := hempty.initGenesis hX hmax hall (by simpa using hdistinct) fun c hc => by
    have hlen := hslices c hc
    omega
  exact ⟨B, by rw [initGenesis, hvalid, ok_bind, hinit]⟩

/-- A genesis that cannot be imported is refused with an error exactly when the validation does not come to an owner
that cannot be read. -/
theorem validateGenesis_refuses_iff (X : Extern) (hX : SpellsLower X) (K : Keeper) (hmax : 515 ≤ K.maxKeyLength)
    (data : GenesisState) (hslices : ∀ c ∈ data.collections, c.nfts.length < 2 ^ 63)
    (hfails : ∃ e, initGenesis X K KVStore.empty data = .error e) :
    (∃ e, validateGenesisHalting X data = .error (.refused e)) ↔ ¬ReachesUnreadableOwner X data := by
  rw [← validateGenesisHalting_panics_iff]
  cases hrun : validateGenesisHalting X data with
  | ok u =>
    obtain ⟨e, he⟩ := hfails
    obtain ⟨B, hB⟩ := exists_initGenesis hX hmax hslices (validateGenesisHalting_eq_ok.mp hrun)
    rw [he] at hB
    cases hB
  | error halt =>
    cases halt with
    | refused e => simp
    | panicked e => simp

def oneToken (nft : BaseNFT) : GenesisState where
  collections := [⟨⟨str "kitty", str "Kitties", [], [], str "KIT", true, true, [], [], [], []⟩, [nft]⟩]

def Halt.isPanic : Except Halt Unit → Bool
  | .error (.panicked _) => true
  | _ => false

/-- A token id that is too short is refused. -/
theorem validateGenesis_refuses_short_id : ∃ data e e',
    initGenesis Sample.lowerX Sample.keeper KVStore.empty data = .error e ∧
      validateGenesisHalting Sample.lowerX data = .error (.refused e') := by
  let data := oneToken ⟨str "c", [], [], [], str "uptick1zyg3zyg3zyg3zyg3zyg3zyg3zyg3zyg3jmtet7", []⟩
  have hfails : ∃ e, initGenesis Sample.lowerX Sample.keeper KVStore.empty data = .error e := by
    have hbad : (initGenesis Sample.lowerX Sample.keeper KVStore.empty data).toBool = false := by decide +kernel
    cases hrun : initGenesis Sample.lowerX Sample.keeper KVStore.empty data with
    | error e => exact ⟨e, rfl⟩
    | ok B =>
      rw [hrun] at hbad
      cases hbad
  have hreads : ¬ReachesUnreadableOwner Sample.lowerX data := by
    rw [← validateGenesisHalting_panics_iff]
    rintro ⟨e, he⟩
    have hno : Halt.isPanic (validateGenesisHalting Sample.lowerX data) = false := by decide +kernel
    rw [he] at hno
    cases hno
  obtain ⟨e', he'⟩ := (validateGenesis_refuses_iff Sample.lowerX spellsLower_sample Sample.keeper (by decide) data
    (by decide) hfails).mpr hreads
  obtain ⟨e, he⟩ := hfails
  exact ⟨data, e, e', he, he'⟩

/-- A token without an owner. -/
theorem validateGenesis_panics_no_owner : ∃ data e e',
    initGenesis Sample.lowerX Sample.keeper KVStore.empty data = .error e ∧
      validateGenesisHalting Sample.lowerX data = .error (.panicked e') := by
  let data := oneToken ⟨str "cat1", [], [], [], [], []⟩
  have hbad : (initGenesis Sample.lowerX Sample.keeper KVStore.empty data).toBool = false := by decide +kernel
  have hpanic : Halt.isPanic (validateGenesisHalting Sample.lowerX data) = true := by decide +kernel
  cases hinit : initGenesis Sample.lowerX Sample.keeper KVStore.empty data with
  | ok B =>
    rw [hinit] at hbad
    cases hbad
  | error e =>
    cases hrun : validateGenesisHalting Sample.lowerX data with
    | ok u =>
      rw [hrun] at hpanic
      cases hpanic
    | error halt =>
      cases halt with
      | refused e' =>
        rw [hrun] at hpanic
        cases hpanic
      | panicked e' => exact ⟨data, e, e', hinit, hrun⟩

end Uptick.Collection
