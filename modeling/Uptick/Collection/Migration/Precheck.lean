import Uptick.Collection.Migration.Steps
import Uptick.SampleStore

/-!
# What the precheck predicts

The precheck reads every legacy record and tries its address. On a store of legacy keys where it reports nothing, the
migration still fails on a denom that `SaveDenom` refuses, on two records with the same denom id, and on a record that
cannot be stored under its keys; and on nothing else.
-/

namespace Uptick.Collection.Migration

open Text Outcome NftStore

variable {X : Extern} {K : Keeper} {cdc : LegacyCodec} {B B' : ByteStore}

/-- Every key has the legacy shape, a byte and a slash. -/
def LegacyStore (B : ByteStore) : Prop := ∀ k v, B.get? k = some v → k.tail.head? = some 47

/-- The entries that the rounds for a class range over. -/
def ownEntries (d : GoString) (entries : List (GoString × GoString)) : List (GoString × GoString) :=
  entries.filter fun e => hasPrefix e.1 (keyNFT d [])

/-- The NFT entries that the rounds for a class leave. -/
def leftEntries (X : Extern) (cdc : LegacyCodec) (d : GoString) (entries : List (GoString × GoString)) :
    List (GoString × GoString) :=
  entries.filter fun e => !decide (e.1 ∈ deletedKeys X cdc d (ownEntries d entries))

/-- The tokens of the classes can be stored, class after class, each class taking the entries that the ones before it
left under its keys. -/
def TokensFit (X : Extern) (R : Records) (cdc : LegacyCodec) : List GoString → List (GoString × GoString) → Prop
  | [], _ => True
  | d :: ds, entries => (∀ e ∈ ownEntries d entries, EntryFits X R cdc d e) ∧ (ownEntries d entries).length < 2 ^ 64 ∧
      TokensFit X R cdc ds (leftEntries X cdc d entries)

/-- The denoms of the store, in the order of their keys. -/
def denoms (cdc : LegacyCodec) (B : ByteStore) : List Denom :=
  (B.withPrefix (keyDenom [])).filterMap fun e => (cdc.unmarshalDenom e.2).toOption

/-- What the migration needs besides records that can be read. -/
structure Migratable (X : Extern) (R : Records) (cdc : LegacyCodec) (B : ByteStore) : Prop where
  denoms : ∀ d ∈ denoms cdc B, DenomFits R d
  distinct : ((Migration.denoms cdc B).map Denom.id).Nodup
  tokens : TokensFit X R cdc ((Migration.denoms cdc B).map Denom.id) (B.withPrefix (keyNFT [] []))

/-- The store between two rounds: the NFT entries left, the classes written, and no counter for a later class. -/
structure Between (B : ByteStore) (written : List GoString) (entries : List (GoString × GoString)) : Prop where
  entries : B.withPrefix (keyNFT [] []) = entries
  classes : ∀ c : GoString, c.head? ≠ some 47 → (hasClass B c = true ↔ c ∈ written)
  supply : ∀ c : GoString, c.head? ≠ some 47 → c ∉ written → getTotalSupply B c = 0

lemma LegacyStore.between (h : LegacyStore B) : Between B [] (B.withPrefix (keyNFT [] [])) where
  entries := rfl
  classes := by
    intro c hc
    have hnone : B.get? (classStoreKey c) = none := by
      by_contra hsome
      obtain ⟨v, hv⟩ := Option.ne_none_iff_exists'.mp hsome
      exact hc (h _ v hv)
    simp [hasClass, KVStore.has, hnone]
  supply := by
    intro c hc _
    have hnone : B.get? (classTotalSupply c) = none := by
      by_contra hsome
      obtain ⟨v, hv⟩ := Option.ne_none_iff_exists'.mp hsome
      exact hc (h _ v hv)
    simp [getTotalSupply, KVStore.get, hnone]

lemma withPrefix_keyNFT {d : GoString} (hd : d ≠ []) (B : ByteStore) :
    B.withPrefix (keyNFT d []) = ownEntries d (B.withPrefix (keyNFT [] [])) := by
  have hkey : keyNFT d [] = keyNFT [] [] ++ (d ++ [47]) := by simp [keyNFT, delimiter, hd]
  rw [ownEntries, hkey]
  exact B.withPrefix_append _ _

lemma slash_of_mem_deletedKeys {d k : GoString} {es : List (GoString × GoString)} (hd : d ≠ [])
    (h : k ∈ deletedKeys X cdc d es) : k.tail.head? = some 47 := by
  obtain ⟨e, -, hk⟩ := List.mem_filterMap.mp h
  obtain ⟨p, -, rfl⟩ := Option.map_eq_some_iff.mp hk
  rw [keyNFT_eq hd]
  rfl

section

variable {written : List GoString} {entries : List (GoString × GoString)} {denom : Denom} {creator : AccAddress}

lemma withPrefix_putDenom {R : Records} (hhead : denom.id.head? ≠ some 47) :
    (putDenom X R B denom creator).withPrefix (keyNFT [] []) = B.withPrefix (keyNFT [] []) := by
  have hsame : ∀ k, hasPrefix k (keyNFT [] []) = true → (putDenom X R B denom creator).get? k =
      if (fun _ => false) k then none else B.get? k := by
    intro k hk
    obtain ⟨rest, rfl⟩ := hasPrefix_iff.mp hk
    have hne : 47 :: rest ≠ denom.id := by
      intro h
      rw [← h] at hhead
      exact hhead rfl
    exact get?_putDenom_of_one hne
  rw [KVStore.withPrefix_eq_filter hsame]
  simp

lemma Between.exists_migrateToken (h : Between B written entries) (hfit : DenomFits K.toRecords denom)
    (hnew : denom.id ∉ written) :
    (∃ B', migrateToken X K cdc (putDenom X K.toRecords B denom creator) denom.id = .ok B') ↔
      (∀ e ∈ ownEntries denom.id entries, EntryFits X K.toRecords cdc denom.id e) ∧
        (ownEntries denom.id entries).length < 2 ^ 64 := by
  have hhead := head_of_validateDenomID hfit.id
  have hsupply : getTotalSupply (putDenom X K.toRecords B denom creator) denom.id = 0 := by
    rw [getTotalSupply_putDenom hhead, h.supply _ hhead hnew]
  unfold migrateToken
  rw [withPrefix_keyNFT (ne_nil_of_validateDenomID hfit.id), withPrefix_putDenom hhead, h.entries,
    exists_migrateNFTs (by rw [hsupply]; norm_num), hsupply, Nat.zero_add]

lemma Between.migrateToken (h : Between B written entries) (hfit : DenomFits K.toRecords denom)
    (hnew : denom.id ∉ written)
    (hrun : Migration.migrateToken X K cdc (putDenom X K.toRecords B denom creator) denom.id = .ok B') :
    Between B' (denom.id :: written) (leftEntries X cdc denom.id entries) := by
  have hhead := head_of_validateDenomID hfit.id
  have hne := ne_nil_of_validateDenomID hfit.id
  have hsupply : getTotalSupply (putDenom X K.toRecords B denom creator) denom.id = 0 := by
    rw [getTotalSupply_putDenom hhead, h.supply _ hhead hnew]
  unfold Migration.migrateToken at hrun
  rw [withPrefix_keyNFT hne, withPrefix_putDenom hhead, h.entries] at hrun
  -- A key with the first byte of the NFT keys is deleted or read as before the tokens.
  have hone := get?_migrateNFTs_of_one hrun
  constructor
  · have hgone : ∀ k, hasPrefix k (keyNFT [] []) = true → B'.get? k =
        if decide (k ∈ deletedKeys X cdc denom.id (ownEntries denom.id entries)) then none
        else (putDenom X K.toRecords B denom creator).get? k := by
      intro k hk
      obtain ⟨rest, rfl⟩ := hasPrefix_iff.mp hk
      rw [show keyNFT [] [] ++ rest = 0x01 :: 47 :: rest from rfl]
      simpa using hone (47 :: rest)
    have hbefore : (putDenom X K.toRecords B denom creator).withPrefix (keyNFT [] []) = entries := by
      rw [withPrefix_putDenom hhead, h.entries]
    rw [KVStore.withPrefix_eq_filter hgone, hbefore]
    rfl
  · intro c hc
    have hout : (0x01 : UInt8) :: c ∉ deletedKeys X cdc denom.id (ownEntries denom.id entries) := by
      intro hmem
      exact hc (slash_of_mem_deletedKeys hne hmem)
    have hsame : hasClass B' c = hasClass (putDenom X K.toRecords B denom creator) c := by
      unfold hasClass KVStore.has classStoreKey
      rw [hone, if_neg hout]
    rw [hsame, hasClass_putDenom, Bool.or_eq_true, decide_eq_true_eq, h.classes c hc, List.mem_cons]
  · intro c hc hout
    rw [List.mem_cons, not_or] at hout
    rw [getTotalSupply_migrateNFTs hrun (by rw [hsupply]; norm_num), if_neg hout.1, getTotalSupply_putDenom hc,
      h.supply c hc hout.2]

/-- All rounds: they pass when each denom fits and is new, and the tokens fit in turn. -/
lemma Between.exists_migrateDenoms (hmax : 515 ≤ K.maxKeyLength) {es : List (GoString × GoString)} {ds : List Denom}
    (hread : List.Forall₂ (ReadsDenom X cdc) es ds) (h : Between B written entries) :
    (∃ B', forEach (migrateDenom X K cdc) B es = .ok B') ↔
      (∀ d ∈ ds, DenomFits K.toRecords d ∧ d.id ∉ written) ∧ (ds.map Denom.id).Nodup ∧
        TokensFit X K.toRecords cdc (ds.map Denom.id) entries := by
  induction hread generalizing B written entries with
  | nil => simp [TokensFit]
  | @cons e d es ds hd _ ih =>
    obtain ⟨hdenom, creator, hcreator⟩ := hd
    simp only [forEach_cons_eq_ok, List.mem_cons, forall_eq_or_imp, List.map_cons, List.nodup_cons, TokensFit]
    constructor
    · rintro ⟨B', B₁, hone, hrest⟩
      obtain ⟨hfit, hno, htokens⟩ := (migrateDenom_eq_ok hmax hdenom hcreator).mp hone
      have hnew : d.id ∉ written := by
        rw [← h.classes _ (head_of_validateDenomID hfit.id), hno]
        exact Bool.false_ne_true
      obtain ⟨hown, hlen⟩ := (h.exists_migrateToken hfit hnew).mp ⟨B₁, htokens⟩
      obtain ⟨hall, hnodup, hfits⟩ := (ih (h.migrateToken hfit hnew htokens)).mp ⟨B', hrest⟩
      refine ⟨⟨⟨hfit, hnew⟩, ?_⟩, ⟨?_, hnodup⟩, hown, hlen, hfits⟩
      · intro x hx
        obtain ⟨hxfit, hxnew⟩ := hall x hx
        rw [List.mem_cons, not_or] at hxnew
        exact ⟨hxfit, hxnew.2⟩
      · intro hmem
        obtain ⟨x, hx, hid⟩ := List.mem_map.mp hmem
        apply (hall x hx).2
        rw [hid]
        exact List.mem_cons_self
    · rintro ⟨⟨⟨hfit, hnew⟩, hall⟩, ⟨hone, hnodup⟩, hown, hlen, hfits⟩
      have hexists : ∃ B₁, Migration.migrateToken X K cdc (putDenom X K.toRecords B d creator) d.id = .ok B₁ :=
        (h.exists_migrateToken hfit hnew).mpr ⟨hown, hlen⟩
      obtain ⟨B₁, htokens⟩ := hexists
      have hno : hasClass B d.id = false := by
        rw [Bool.eq_false_iff, ne_eq, h.classes _ (head_of_validateDenomID hfit.id)]
        exact hnew
      have hlater : ∀ x ∈ ds, DenomFits K.toRecords x ∧ x.id ∉ d.id :: written := by
        intro x hx
        refine ⟨(hall x hx).1, ?_⟩
        rw [List.mem_cons, not_or]
        refine ⟨fun hid => hone ?_, (hall x hx).2⟩
        rw [← hid]
        exact List.mem_map_of_mem hx
      obtain ⟨B', hrest⟩ := (ih (h.migrateToken hfit hnew htokens)).mpr ⟨hlater, hnodup, hfits⟩
      exact ⟨B', B₁, (migrateDenom_eq_ok hmax hdenom hcreator).mpr ⟨hfit, hno, htokens⟩, hrest⟩

end

lemma precheckDenom_eq_nil {e : GoString × GoString} (h : precheckDenom X cdc e = []) :
    ∃ d, ReadsDenom X cdc e d := by
  unfold precheckDenom at h
  cases hd : cdc.unmarshalDenom e.2 with
  | error err => simp [hd] at h
  | ok d =>
    cases hc : X.accAddressFromBech32 d.creator with
    | error text => simp [hd, hc] at h
    | ok acc => exact ⟨d, hd, acc, by rw [Extern.decodeAcc, hc]⟩

lemma forall₂_readsDenom (h : precheckLegacyStore X cdc B = []) :
    List.Forall₂ (ReadsDenom X cdc) (B.withPrefix (keyDenom [])) (denoms cdc B) := by
  have hall : ∀ e ∈ B.withPrefix (keyDenom []), ∃ d, ReadsDenom X cdc e d := by
    intro e he
    rw [precheckLegacyStore, List.append_eq_nil_iff] at h
    exact precheckDenom_eq_nil (List.flatMap_eq_nil_iff.mp h.1 e he)
  unfold denoms
  generalize B.withPrefix (keyDenom []) = es at hall
  induction es with
  | nil => exact .nil
  | cons e es ih =>
    obtain ⟨d, hd⟩ := hall e List.mem_cons_self
    rw [List.filterMap_cons_some (b := d) (by rw [hd.1]; rfl)]
    exact .cons hd (ih fun x hx => hall x (List.mem_cons_of_mem _ hx))

/-- On a store of legacy keys where the precheck finds nothing, the migration succeeds exactly when the denoms are ones
that `SaveDenom` takes, no two share an id, and each token can be stored under its keys. -/
theorem migrate_succeeds_iff_migratable (X : Extern) (K : Keeper) (hmax : 515 ≤ K.maxKeyLength) (cdc : LegacyCodec)
    (B : ByteStore) (hlegacy : LegacyStore B) (hcheck : precheckLegacyStore X cdc B = []) :
    (∃ B', migrate X K cdc B = .ok B') ↔ Migratable X K.toRecords cdc B := by
  unfold migrate
  rw [hlegacy.between.exists_migrateDenoms hmax (forall₂_readsDenom hcheck)]
  constructor
  · rintro ⟨hall, hdistinct, htokens⟩
    exact ⟨fun d hd => (hall d hd).1, hdistinct, htokens⟩
  · rintro ⟨hall, hdistinct, htokens⟩
    exact ⟨fun d hd => ⟨hall d hd, List.not_mem_nil⟩, hdistinct, htokens⟩

lemma legacyStore_of_entries (h : ∀ e ∈ B.entries, e.1.tail.head? = some 47) : LegacyStore B :=
  fun k v hget => h (k, v) (KVStore.mem_entries.mpr hget)

def sampleLegacy : ByteStore :=
  (((KVStore.empty.set (keyDenom (str "kitty")) (Sample.denomRecord (str "kitty"))).set
    (keyDenomName (str "Cats")) (str "kitty")).set (keyCollection (str "kitty")) [1]).set
    (keyNFT (str "kitty") (str "cat1")) (Sample.nftRecord (str "cat1"))

theorem migrate_succeeds_iff_migratable_sample : LegacyStore sampleLegacy ∧
    precheckLegacyStore Sample.X Sample.legacyCodec sampleLegacy = [] ∧
      Migratable Sample.X Sample.records Sample.legacyCodec sampleLegacy := by
  have hlegacy : LegacyStore sampleLegacy := legacyStore_of_entries (by decide +kernel)
  have hcheck : precheckLegacyStore Sample.X Sample.legacyCodec sampleLegacy = [] := by decide +kernel
  have hrun : ∃ B', migrate Sample.X Sample.keeper Sample.legacyCodec sampleLegacy = .ok B' :=
    exists_eq_ok (by decide +kernel)
  exact ⟨hlegacy, hcheck, (migrate_succeeds_iff_migratable Sample.X Sample.keeper (by decide) Sample.legacyCodec
    sampleLegacy hlegacy hcheck).mp hrun⟩

/-- A denom whose id has two letters: the precheck reads it and its creator, `SaveDenom` refuses the id. -/
theorem precheck_misses_denom_id : ∃ B : ByteStore, LegacyStore B ∧
    precheckLegacyStore Sample.X Sample.legacyCodec B = [] ∧
      ∀ B', migrate Sample.X Sample.keeper Sample.legacyCodec B ≠ .ok B' := by
  refine ⟨KVStore.empty.set (keyDenom (str "ab")) (Sample.denomRecord (str "ab")),
    legacyStore_of_entries (by decide +kernel), by decide +kernel, fun B' h => ?_⟩
  have hfails : (migrate Sample.X Sample.keeper Sample.legacyCodec
      (KVStore.empty.set (keyDenom (str "ab")) (Sample.denomRecord (str "ab")))).toBool = false := by decide +kernel
  rw [h] at hfails
  cases hfails

end Uptick.Collection.Migration
