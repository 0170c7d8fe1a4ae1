import Uptick.Collection.Migration.Content

/-!
# What the migration leaves

A migration of a well-formed store moves every token into its own class, with the right supply and nothing left behind,
exactly when no token lies under the keys of another denom: a denom whose id continues that of another behind a
delimiter, as `art/old` continues `art`, has its tokens visited for both.
-/

namespace Uptick.Collection.Migration

open Text Outcome NftStore

variable {X : Extern} {K : Keeper} {cdc : LegacyCodec} {B B' : ByteStore}

section

variable {written : List GoString} {entries : List (GoString × GoString)} {entry : GoString × GoString} {denom : Denom}

/-- What one round did, from its success. -/
structure Round (X : Extern) (K : Keeper) (cdc : LegacyCodec) (B : ByteStore) (written : List GoString)
    (entries : List (GoString × GoString)) (denom : Denom) (B' : ByteStore) : Prop where
  fits : DenomFits K.toRecords denom
  new : denom.id ∉ written
  tokens : ∀ e ∈ ownEntries denom.id entries, EntryFits X K.toRecords cdc denom.id e
  between : Between B' (denom.id :: written) (leftEntries X cdc denom.id entries)
  counted : getTotalSupply B' denom.id = (ownEntries denom.id entries).length
  others : ∀ c : GoString, c.head? ≠ some 47 → c ≠ denom.id → getTotalSupply B' c = getTotalSupply B c
  moves : ∃ creator, X.decodeAcc denom.creator = .ok creator ∧
    forEach (migrateNFT X K cdc denom.id) (putDenom X K.toRecords B denom creator)
      (ownEntries denom.id entries) = .ok B'

lemma Between.round (h : Between B written entries) (hmax : 515 ≤ K.maxKeyLength)
    (hread : cdc.unmarshalDenom entry.2 = .ok denom) (hrun : migrateDenom X K cdc B entry = .ok B') :
    Round X K cdc B written entries denom B' := by
  obtain ⟨creator, hcreator⟩ : ∃ creator, X.decodeAcc denom.creator = .ok creator := by
    unfold migrateDenom at hrun
    rw [hread, ok_bind] at hrun
    obtain ⟨creator, hcreator, -⟩ := bind_eq_ok.mp hrun
    exact ⟨creator, hcreator⟩
  obtain ⟨hfit, hno, htokens⟩ := (migrateDenom_eq_ok hmax hread hcreator).mp hrun
  have hhead := head_of_validateDenomID hfit.id
  have hnew : denom.id ∉ written := by
    rw [← h.classes _ hhead, hno]
    exact Bool.false_ne_true
  have hzero : getTotalSupply (putDenom X K.toRecords B denom creator) denom.id = 0 := by
    rw [getTotalSupply_putDenom hhead, h.supply _ hhead hnew]
  have hsteps := htokens
  unfold Migration.migrateToken at hsteps
  rw [withPrefix_keyNFT (ne_nil_of_validateDenomID hfit.id), withPrefix_putDenom hhead, h.entries] at hsteps
  have hsupply := getTotalSupply_migrateNFTs hsteps (by rw [hzero]; norm_num)
  refine ⟨hfit, hnew, ((h.exists_migrateToken hfit hnew).mp ⟨B', htokens⟩).1, h.migrateToken hfit hnew htokens, ?_, ?_,
    creator, hcreator, hsteps⟩
  · rw [hsupply, if_pos rfl, hzero, Nat.zero_add]
  · intro c hc hne
    rw [hsupply, if_neg hne, getTotalSupply_putDenom hc]

lemma Between.getTotalSupply_eq (hmax : 515 ≤ K.maxKeyLength) {es : List (GoString × GoString)} {ds : List Denom}
    (hread : List.Forall₂ (fun e d => cdc.unmarshalDenom e.2 = .ok d) es ds) (h : Between B written entries)
    (hrun : forEach (migrateDenom X K cdc) B es = .ok B') {c : GoString} (hc : c.head? ≠ some 47) (hmem : c ∈ written) :
    getTotalSupply B' c = getTotalSupply B c := by
  induction hread generalizing B written entries with
  | nil =>
    cases hrun
    rfl
  | cons hd _ ih =>
    obtain ⟨B₁, hone, hrest⟩ := forEach_cons_eq_ok.mp hrun
    have hround := h.round hmax hd hone
    rw [ih hround.between hrest (List.mem_cons_of_mem _ hmem)]
    apply hround.others c hc
    rintro rfl
    exact hround.new hmem

end

section

variable {B₀ : ByteStore} {c : Content} {written : List GoString}

lemma WellFormed.getTotalSupply_eq (hwf : WellFormed X cdc c B₀) (hmax : 515 ≤ K.maxKeyLength)
    {es : List (GoString × GoString)} {ds : List Denom}
    (hread : List.Forall₂ (fun e d => cdc.unmarshalDenom e.2 = .ok d) es ds)
    (h : Between B written (entriesLeft c B₀ written)) (hrun : forEach (migrateDenom X K cdc) B es = .ok B')
    {d : Denom} (hd : d ∈ ds) : ∃ before after, ds = before ++ d :: after ∧ ∃ ids : List GoString,
      (∀ i, i ∈ ids ↔ i ∈ written ∨ i ∈ before.map Denom.id) ∧ d.id ∉ ids ∧
        getTotalSupply B' d.id = (ownEntries d.id (entriesLeft c B₀ ids)).length := by
  induction hread generalizing B written with
  | nil => cases hd
  | @cons e d₀ es ds hone hrest ih =>
    obtain ⟨B₁, hstep, hrun⟩ := forEach_cons_eq_ok.mp hrun
    have hround := h.round hmax hone hstep
    have hbetween := hround.between
    rw [hwf.leftEntries_eq (ne_nil_of_validateDenomID hround.fits.id) hround.tokens] at hbetween
    by_cases heq : d = d₀
    · subst heq
      refine ⟨[], ds, rfl, written, by simp, hround.new, ?_⟩
      rw [hbetween.getTotalSupply_eq hmax hrest hrun (head_of_validateDenomID hround.fits.id) List.mem_cons_self,
        hround.counted]
    · have hd : d ∈ ds := (List.mem_cons.mp hd).resolve_left heq
      obtain ⟨before, after, hsplit, ids, hids, hnew, hsupply⟩ := ih hbetween hrun hd
      refine ⟨d₀ :: before, after, by rw [hsplit]; rfl, ids, ?_, hnew, hsupply⟩
      intro i
      rw [hids, List.mem_cons, List.map_cons, List.mem_cons, or_comm (a := i = d₀.id), or_assoc]

end

/-- The form of the legacy keys, which no key of x/nft has. -/
def LegacyShape (k : GoString) : Prop := k.tail.head? = some 47 ∧ (k.head? = some 0x03 → 0 ∉ k)

/-- The keys of x/nft together with the legacy ones. -/
def bothLayout : KeyLayout (Key ⊕ GoString) :=
  layout.withRaw LegacyShape (by
    rintro k ⟨h, -⟩ rfl
    cases h)

lemma plain_class {c : GoString} (hc : c.head? ≠ some 47) : bothLayout.Plain (.inl (.class_ c)) :=
  ⟨trivial, fun h => hc h.1⟩

lemma plain_supply {c : GoString} (hc : c.head? ≠ some 47) : bothLayout.Plain (.inl (.supply c)) :=
  ⟨trivial, fun h => hc h.1⟩

lemma head?_append_zero {c n : GoString} (hc : c.head? ≠ some 47) : (c ++ 0 :: n).head? ≠ some 47 := by
  cases c with
  | nil => simp
  | cons b c => simpa using hc

lemma plain_nft {c n : GoString} (hc : c.head? ≠ some 47) (hzero : 0 ∉ c) : bothLayout.Plain (.inl (.nft c n)) := by
  refine ⟨hzero, fun h => head?_append_zero (n := n) hc ?_⟩
  have hslash := h.1
  simpa [layout, Key.bytes, nftStoreKey, NftStore.delimiter] using hslash

lemma plain_owner {c n : GoString} (hc : c.head? ≠ some 47) (hzero : 0 ∉ c) :
    bothLayout.Plain (.inl (.owner c n)) := by
  refine ⟨hzero, fun h => head?_append_zero (n := n) hc ?_⟩
  have hslash := h.1
  simpa [layout, Key.bytes, ownerStoreKey, NftStore.delimiter] using hslash

lemma plain_byOwner {o c n : GoString} (ho : o.length ≤ 255) (hzero : 0 ∉ c) :
    bothLayout.Plain (.inl (.byOwner o c n)) := by
  refine ⟨⟨ho, hzero⟩, fun h => h.2 rfl ?_⟩
  simp [layout, Key.bytes, nftOfClassByOwnerStoreKey, NftStore.delimiter]

/-- A legacy key that the rounds so far have deleted. -/
def Gone (X : Extern) (written : List Denom) (moved : List (GoString × BaseNFT)) (k : GoString) : Prop :=
  LegacyKey X ⟨written, moved⟩ k

/-- The store in the middle of a migration: the records of the tokens moved so far, and what is left of the legacy
store. -/
structure Moved (X : Extern) (R : Records) (B₀ : ByteStore) (written : List Denom) (moved : List (GoString × BaseNFT))
    (T : Key → Option GoString) (T' : GoString → Option GoString) (B : ByteStore) : Prop where
  holds : bothLayout.Holds B (Sum.elim T T')
  nft : ∀ c n v, T (.nft c n) = some v ↔ ∃ p ∈ moved, p.1 = c ∧ p.2.id = n ∧ v = R.marshalNFT c n p.2.toNFT
  owner : ∀ c n o, T (.owner c n) = some o ↔ ∃ p ∈ moved, p.1 = c ∧ p.2.id = n ∧ X.decodeAcc p.2.owner = .ok o
  decodes : ∀ p ∈ moved, ∃ o, X.decodeAcc p.2.owner = .ok o
  left : ∀ k v, T' k = some v ↔ B₀.get? k = some v ∧ ¬ Gone X written moved k

lemma WellFormed.legacyShape {c : Content} (hwf : WellFormed X cdc c B) {k v : GoString} (hget : B.get? k = some v) :
    LegacyShape k := by
  refine ⟨hwf.legacyStore k v hget, fun hhead => ?_⟩
  cases hwf.keys k v hget with
  | @collection d hd =>
    have hzero := (regexpID_head (hwf.denomIDs d hd)).2.2
    simpa [keyCollection, delimiter] using hzero
  | denom => cases hhead
  | name => cases hhead
  | nft => cases hhead
  | owner => cases hhead

section

variable {R : Records} {B₀ : ByteStore} {written : List Denom} {moved : List (GoString × BaseNFT)}
  {T : Key → Option GoString} {T' : GoString → Option GoString}

lemma moved_start {c : Content} (hwf : WellFormed X cdc c B₀) : Moved X R B₀ [] [] (fun _ => none) B₀.get? B₀ where
  holds := by
    intro k v
    constructor
    · intro hget
      exact ⟨.inr k, hwf.legacyShape hget, rfl, hget⟩
    · rintro ⟨a | k', -, rfl, hv⟩
      · cases hv
      · exact hv
  nft := by simp
  owner := by simp
  decodes := by simp
  left := by
    intro k v
    have hnone : ¬ Gone X [] [] k := by
      intro h
      cases h with
      | denom h => cases h
      | name h => cases h
      | collection h => cases h
      | nft h => cases h
      | owner h => cases h
    simp [hnone]

lemma left_update {gone : GoString → Prop} (h : ∀ k v, T' k = some v ↔ B₀.get? k = some v ∧ ¬ gone k)
    (k₀ k : GoString) (v : GoString) :
    Function.update T' k₀ none k = some v ↔ B₀.get? k = some v ∧ ¬(gone k ∨ k = k₀) := by
  by_cases hk : k = k₀
  · simp [hk]
  · rw [Function.update_of_ne hk, h]
    simp [hk]

lemma gone_append_denom (d : Denom) (k : GoString) : Gone X (written ++ [d]) moved k ↔
    ((Gone X written moved k ∨ k = keyDenom d.id) ∨ k = keyDenomName d.name) ∨ k = keyCollection d.id := by
  constructor
  · intro h
    cases h with
    | @denom d' hd =>
      rcases List.mem_append.mp hd with hd | hd
      · exact .inl (.inl (.inl (.denom hd)))
      · rw [List.mem_singleton.mp hd]
        exact .inl (.inl (.inr rfl))
    | @name d' hd =>
      rcases List.mem_append.mp hd with hd | hd
      · exact .inl (.inl (.inl (.name hd)))
      · rw [List.mem_singleton.mp hd]
        exact .inl (.inr rfl)
    | @collection d' hd =>
      rcases List.mem_append.mp hd with hd | hd
      · exact .inl (.inl (.inl (.collection hd)))
      · rw [List.mem_singleton.mp hd]
        exact .inr rfl
    | nft hp => exact .inl (.inl (.inl (.nft hp)))
    | owner hp hacc => exact .inl (.inl (.inl (.owner hp hacc)))
  · have hlast : d ∈ written ++ [d] := by simp
    rintro (((h | rfl) | rfl) | rfl)
    · cases h with
      | denom hd => exact .denom (List.mem_append_left _ hd)
      | name hd => exact .name (List.mem_append_left _ hd)
      | collection hd => exact .collection (List.mem_append_left _ hd)
      | nft hp => exact .nft hp
      | owner hp hacc => exact .owner hp hacc
    · exact .denom hlast
    · exact .name hlast
    · exact .collection hlast

lemma gone_append_nft {d : GoString} {nft : BaseNFT} {owner : AccAddress} (howner : X.decodeAcc nft.owner = .ok owner)
    (k : GoString) : Gone X written (moved ++ [(d, nft)]) k ↔
      (Gone X written moved k ∨ k = keyNFT d nft.id) ∨ k = keyOwner X owner d nft.id := by
  constructor
  · intro h
    cases h with
    | denom hd => exact .inl (.inl (.denom hd))
    | name hd => exact .inl (.inl (.name hd))
    | collection hd => exact .inl (.inl (.collection hd))
    | nft hp =>
      rcases List.mem_append.mp hp with hp | hp
      · exact .inl (.inl (.nft hp))
      · rw [List.mem_singleton.mp hp]
        exact .inl (.inr rfl)
    | owner hp hacc =>
      rcases List.mem_append.mp hp with hp | hp
      · exact .inl (.inl (.owner hp hacc))
      · rw [List.mem_singleton.mp hp] at hacc ⊢
        rw [howner] at hacc
        cases hacc
        exact .inr rfl
  · have hlast : (d, nft) ∈ moved ++ [(d, nft)] := by simp
    rintro ((h | rfl) | rfl)
    · cases h with
      | denom hd => exact .denom hd
      | name hd => exact .name hd
      | collection hd => exact .collection hd
      | nft hp => exact .nft (List.mem_append_left _ hp)
      | owner hp hacc => exact .owner (List.mem_append_left _ hp) hacc
    · exact LegacyKey.nft (c := ⟨written, moved ++ [(d, nft)]⟩) (p := (d, nft)) hlast
    · exact LegacyKey.owner (c := ⟨written, moved ++ [(d, nft)]⟩) (p := (d, nft)) hlast howner

lemma Moved.putDenom (h : Moved X R B₀ written moved T T' B) {denom : Denom} (hid : validateDenomID denom.id = .ok ())
    (creator : AccAddress) : ∃ T₁ T₁', Moved X R B₀ (written ++ [denom]) moved T₁ T₁'
      (Migration.putDenom X R B denom creator) := by
  have hzero := (bounds_of_validateDenomID hid).1
  have hcollection : bothLayout.Plain (.inr (keyCollection denom.id)) :=
    ⟨rfl, fun _ => by simpa [keyCollection, delimiter] using hzero⟩
  have h₁ := h.holds.set (plain_class (head_of_validateDenomID hid))
    (R.marshalClass denom.id (denomClass X denom creator))
  have h₂ := h₁.delete (a := .inr (keyDenom denom.id)) ⟨rfl, fun hk => by cases hk⟩
  have h₃ := h₂.delete (a := .inr (keyDenomName denom.name)) ⟨rfl, fun hk => by cases hk⟩
  have h₄ := h₃.delete hcollection
  rw [Sum.update_elim_inl, Sum.update_elim_inr, Sum.update_elim_inr, Sum.update_elim_inr] at h₄
  refine ⟨_, _, h₄, ?_, ?_, h.decodes, ?_⟩
  · intro c n v
    rw [Function.update_of_ne (by simp), h.nft]
  · intro c n o
    rw [Function.update_of_ne (by simp), h.owner]
  · intro k v
    rw [gone_append_denom]
    exact left_update (left_update (left_update h.left _) _) _ k v

lemma exists_moved_append {d c n : GoString} {nft : BaseNFT} (hnew : ∀ p ∈ moved, ¬(p.1 = d ∧ p.2.id = nft.id))
    {Q : BaseNFT → Prop} : (∃ p ∈ moved ++ [(d, nft)], p.1 = c ∧ p.2.id = n ∧ Q p.2) ↔
      if d = c ∧ nft.id = n then Q nft else ∃ p ∈ moved, p.1 = c ∧ p.2.id = n ∧ Q p.2 := by
  simp only [List.mem_append, List.mem_singleton, or_and_right, exists_or, exists_eq_left]
  by_cases hcn : d = c ∧ nft.id = n
  · obtain ⟨rfl, rfl⟩ := hcn
    have hnone : ¬ ∃ p ∈ moved, p.1 = d ∧ p.2.id = nft.id ∧ Q p.2 := by
      rintro ⟨p, hp, hd, hn, -⟩
      exact hnew p hp ⟨hd, hn⟩
    simp [hnone]
  · rw [if_neg hcn, or_iff_left]
    rintro ⟨hd, hn, -⟩
    exact hcn ⟨hd, hn⟩

lemma Moved.putMigrated (h : Moved X R B₀ written moved T T' B) {d : GoString} (hid : validateDenomID d = .ok ())
    {nft : BaseNFT} {owner : AccAddress} (howner : X.decodeAcc nft.owner = .ok owner)
    (hnew : ∀ p ∈ moved, ¬(p.1 = d ∧ p.2.id = nft.id)) :
    ∃ T₁ T₁', Moved X R B₀ written (moved ++ [(d, nft)]) T₁ T₁' (Migration.putMigrated X R B d nft owner) := by
  have hzero := (bounds_of_validateDenomID hid).1
  have hhead := head_of_validateDenomID hid
  have hkey : bothLayout.Plain (.inr (keyNFT d nft.id)) := by
    have hshape : LegacyShape (keyNFT d nft.id) := by
      rw [keyNFT_eq (ne_nil_of_validateDenomID hid)]
      exact ⟨rfl, fun hk => by cases hk⟩
    exact hshape
  have h₁ := h.holds.set (plain_nft (n := nft.id) hhead hzero) (R.marshalNFT d nft.id nft.toNFT)
  have h₂ := h₁.set (plain_owner (n := nft.id) hhead hzero) owner
  have h₃ := h₂.set (plain_byOwner (n := nft.id) (X.decodeAcc_ok howner).2 hzero) placeholder
  have h₄ := h₃.set (plain_supply hhead) (BigEndian.encode 8 (getTotalSupply B d + 1))
  have h₅ := h₄.delete hkey
  have h₆ := h₅.delete (a := .inr (keyOwner X owner d nft.id)) ⟨rfl, fun hk => by cases hk⟩
  rw [Sum.update_elim_inl, Sum.update_elim_inl, Sum.update_elim_inl, Sum.update_elim_inl, Sum.update_elim_inr,
    Sum.update_elim_inr] at h₆
  refine ⟨_, _, h₆, ?_, ?_, ?_, ?_⟩
  · intro c n v
    rw [Function.update_of_ne (by simp), Function.update_of_ne (by simp), Function.update_of_ne (by simp),
      exists_moved_append (Q := fun t => v = R.marshalNFT c n t.toNFT) hnew]
    by_cases hcn : d = c ∧ nft.id = n
    · obtain ⟨rfl, rfl⟩ := hcn
      simp [eq_comm]
    · rw [if_neg hcn, ← h.nft, Function.update_of_ne]
      rintro ⟨⟩
      exact hcn ⟨rfl, rfl⟩
  · intro c n o
    rw [Function.update_of_ne (by simp), Function.update_of_ne (by simp),
      exists_moved_append (Q := fun t => X.decodeAcc t.owner = .ok o) hnew]
    by_cases hcn : d = c ∧ nft.id = n
    · obtain ⟨rfl, rfl⟩ := hcn
      simp [howner]
    · rw [if_neg hcn, ← h.owner, Function.update_of_ne, Function.update_of_ne (by simp)]
      rintro ⟨⟩
      exact hcn ⟨rfl, rfl⟩
  · intro p hp
    rcases List.mem_append.mp hp with hp | hp
    · exact h.decodes p hp
    · rw [List.mem_singleton.mp hp]
      exact ⟨owner, howner⟩
  · intro k v
    rw [gone_append_nft howner]
    exact left_update (left_update h.left _) _ k v

lemma Moved.migrateNFTs {d : GoString} (hid : validateDenomID d = .ok ()) {es : List (GoString × GoString)}
    {nfts : List BaseNFT} (hread : List.Forall₂ (fun e nft => cdc.unmarshalBaseNFT e.2 = .ok nft) es nfts)
    (h : Moved X K.toRecords B₀ written moved T T' B) (hnodup : (nfts.map BaseNFT.id).Nodup)
    (hnew : ∀ p ∈ moved, p.1 = d → p.2.id ∉ nfts.map BaseNFT.id)
    (hrun : forEach (migrateNFT X K cdc d) B es = .ok B') :
    ∃ T₁ T₁', Moved X K.toRecords B₀ written (moved ++ nfts.map (d, ·)) T₁ T₁' B' := by
  induction hread generalizing B moved T T' with
  | nil =>
    cases hrun
    exact ⟨T, T', by simpa using h⟩
  | @cons e nft es nfts hone _ ih =>
    obtain ⟨B₁, hstep, hrest⟩ := forEach_cons_eq_ok.mp hrun
    obtain ⟨q, hq, -, -, rfl⟩ := migrateNFT_eq_ok.mp hstep
    obtain ⟨hnft, howner⟩ := readNFT_eq_ok.mp hq
    obtain rfl : nft = q.1 := by
      rw [hone] at hnft
      exact Except.ok.inj hnft
    rw [List.map_cons, List.nodup_cons] at hnodup
    have hfresh : ∀ p ∈ moved, ¬(p.1 = d ∧ p.2.id = q.1.id) := by
      rintro p hp ⟨hd, hn⟩
      exact hnew p hp hd (by rw [hn]; exact List.mem_cons_self)
    obtain ⟨T₁, T₁', h₁⟩ := h.putMigrated hid howner hfresh
    have hnew₁ : ∀ p ∈ moved ++ [(d, q.1)], p.1 = d → p.2.id ∉ nfts.map BaseNFT.id := by
      intro p hp hd hmem
      rcases List.mem_append.mp hp with hp | hp
      · exact hnew p hp hd (List.mem_cons_of_mem _ hmem)
      · rw [List.mem_singleton.mp hp] at hmem
        exact hnodup.1 hmem
    obtain ⟨T₂, T₂', h₂⟩ := ih h₁ hnodup.2 hnew₁ hrest
    exact ⟨T₂, T₂', by simpa using h₂⟩

end

/-! ### Tokens in their own classes -/

/-- No token belongs to a denom whose id continues that of another behind a delimiter. -/
def Separate (c : Content) : Prop := ∀ d ∈ c.denoms, ∀ p ∈ c.nfts, hasPrefix p.1 (d.id ++ [47]) = false

/-- Every token of the content is in its class with its owner and its texts, nothing else is a token, the counters
count the tokens of each denom, and no legacy key is left. -/
structure MigratedExactly (X : Extern) (R : Records) (c : Content) (B B' : ByteStore) : Prop where
  nfts : ∀ k v, k.head? = some 0x02 → (B'.get? k = some v ↔
    ∃ p ∈ c.nfts, k = nftStoreKey p.1 ++ p.2.id ∧ v = R.marshalNFT p.1 p.2.id p.2.toNFT)
  owners : ∀ p ∈ c.nfts, X.decodeAcc p.2.owner = .ok (getOwner B' p.1 p.2.id)
  supply : ∀ d ∈ c.denoms, getTotalSupply B' d.id = (c.nfts.filter fun p => p.1 = d.id).length
  gone : ∀ k v, B.get? k = some v → B'.get? k = none

section

variable {B₀ : ByteStore} {c : Content}

lemma WellFormed.exists_ownNFTs (hwf : WellFormed X cdc c B₀) (hsep : Separate c) {d : Denom} (hd : d ∈ c.denoms)
    {ids : List GoString} (hnew : d.id ∉ ids) : ∃ nfts,
      List.Forall₂ (fun e nft => cdc.unmarshalBaseNFT e.2 = .ok nft) (ownEntries d.id (entriesLeft c B₀ ids)) nfts ∧
        (nfts.map BaseNFT.id).Nodup ∧ ∀ nft, nft ∈ nfts ↔ (d.id, nft) ∈ c.nfts := by
  have hdne := (regexpID_head (hwf.denomIDs d hd)).1
  have hown : ∀ e ∈ ownEntries d.id (entriesLeft c B₀ ids),
      ∃ nft, (d.id, nft) ∈ c.nfts ∧ e.1 = keyNFT d.id nft.id ∧ cdc.unmarshalBaseNFT e.2 = .ok nft := by
    intro e he
    obtain ⟨hleft, hpre⟩ := List.mem_filter.mp he
    obtain ⟨p, hp, -, hkey, -, hv⟩ := hwf.mem_entriesLeft.mp hleft
    rw [hkey, hasPrefix_keyNFT hdne (hwf.ne_nil hp) (hwf.slash_notMem hp), hsep d hd p hp] at hpre
    obtain ⟨d', nft⟩ := p
    obtain rfl : d' = d.id := by simpa using hpre
    exact ⟨nft, hp, hkey, hv⟩
  obtain ⟨nfts, hnfts⟩ := exists_mapM_eq_ok (f := fun e => cdc.unmarshalBaseNFT e.2) fun e he =>
    (hown e he).imp fun _ h => h.2.2
  have hpairs := mapM_eq_ok.mp hnfts
  have hkeys : List.Forall₂ (fun e nft => ((d.id, nft) ∈ c.nfts ∧ e.1 = keyNFT d.id nft.id) ∧
      cdc.unmarshalBaseNFT e.2 = .ok nft) (ownEntries d.id (entriesLeft c B₀ ids)) nfts := by
    refine ((List.forall₂_and_left _ _).mpr ⟨hown, hpairs⟩).imp ?_
    rintro e nft ⟨⟨nft', hmem, hkey, hv⟩, hv'⟩
    rw [hv] at hv'
    cases hv'
    exact ⟨⟨hmem, hkey⟩, hv⟩
  refine ⟨nfts, hpairs, ?_, fun nft => ⟨fun hmem => ?_, fun hmem => ?_⟩⟩
  · have hmap : (nfts.map BaseNFT.id).map (keyNFT d.id) = (ownEntries d.id (entriesLeft c B₀ ids)).map Prod.fst := by
      rw [List.map_map, ← List.forall₂_eq_eq_eq, List.forall₂_map_left_iff, List.forall₂_map_right_iff]
      exact hkeys.flip.imp fun _ _ h => h.1.2.symm
    apply List.Nodup.of_map (keyNFT d.id)
    rw [hmap]
    exact (B₀.nodup_withPrefix (keyNFT [] [])).sublist ((List.filter_sublist.trans List.filter_sublist).map Prod.fst)
  · obtain ⟨e, -, ⟨hin, -⟩, -⟩ := exists_of_mem_right hkeys hmem
    exact hin
  · obtain ⟨v, hget, hv⟩ := hwf.nftRecord _ hmem
    have hentry : (keyNFT d.id nft.id, v) ∈ ownEntries d.id (entriesLeft c B₀ ids) := by
      refine List.mem_filter.mpr ⟨hwf.mem_entriesLeft.mpr ⟨_, hmem, hnew, rfl, hget, hv⟩, ?_⟩
      rw [hasPrefix_keyNFT hdne hdne (hwf.slash_notMem hmem)]
      exact .inl rfl
    obtain ⟨nft', hmem', -, hv'⟩ := exists_of_mem_left hkeys hentry
    rw [hv] at hv'
    cases hv'
    exact hmem'

lemma Moved.migrateDenoms (hwf : WellFormed X cdc c B₀) (hsep : Separate c) (hmax : 515 ≤ K.maxKeyLength)
    {es : List (GoString × GoString)} {ds : List Denom}
    (hread : List.Forall₂ (fun e d => cdc.unmarshalDenom e.2 = .ok d) es ds) (hds : ∀ d ∈ ds, d ∈ c.denoms)
    {written : List Denom} {moved : List (GoString × BaseNFT)} {T : Key → Option GoString}
    {T' : GoString → Option GoString} {ids : List GoString} (h : Moved X K.toRecords B₀ written moved T T' B)
    (hbetween : Between B ids (entriesLeft c B₀ ids)) (hids : ∀ i, i ∈ ids ↔ i ∈ written.map Denom.id)
    (hmoved : ∀ p, p ∈ moved ↔ p ∈ c.nfts ∧ p.1 ∈ ids) (hrun : forEach (migrateDenom X K cdc) B es = .ok B') :
    ∃ moved' T₁ T₁', Moved X K.toRecords B₀ (written ++ ds) moved' T₁ T₁' B' ∧
      ∀ p, p ∈ moved' ↔ p ∈ c.nfts ∧ p.1 ∈ (written ++ ds).map Denom.id := by
  induction hread generalizing B written moved T T' ids with
  | nil =>
    cases hrun
    refine ⟨moved, T, T', by simpa using h, fun p => ?_⟩
    rw [hmoved, hids, List.append_nil]
  | @cons e d es ds hone _ ih =>
    obtain ⟨B₁, hstep, hrest⟩ := forEach_cons_eq_ok.mp hrun
    have hround := hbetween.round hmax hone hstep
    obtain ⟨nfts, hnfts, hnodup, hmem⟩ := hwf.exists_ownNFTs hsep (hds d List.mem_cons_self) hround.new
    obtain ⟨creator, -, hmoves⟩ := hround.moves
    obtain ⟨T₁, T₁', h₁⟩ := h.putDenom hround.fits.id creator
    have hfresh : ∀ p ∈ moved, p.1 = d.id → p.2.id ∉ nfts.map BaseNFT.id := by
      intro p hp hd
      exact absurd (hd ▸ ((hmoved p).mp hp).2) hround.new
    obtain ⟨T₂, T₂', h₂⟩ := h₁.migrateNFTs hround.fits.id hnfts hnodup hfresh hmoves
    have hnext := hround.between
    rw [hwf.leftEntries_eq (ne_nil_of_validateDenomID hround.fits.id) hround.tokens] at hnext
    have hmoved₂ : ∀ p, p ∈ moved ++ nfts.map (d.id, ·) ↔ p ∈ c.nfts ∧ p.1 ∈ d.id :: ids := by
      intro p
      rw [List.mem_append, hmoved, List.mem_map, List.mem_cons]
      constructor
      · rintro (⟨hp, hin⟩ | ⟨nft, hnft, rfl⟩)
        · exact ⟨hp, .inr hin⟩
        · exact ⟨(hmem nft).mp hnft, .inl rfl⟩
      · rintro ⟨hp, hd | hin⟩
        · obtain ⟨d', nft⟩ := p
          obtain rfl : d' = d.id := hd
          exact .inr ⟨nft, (hmem nft).mpr hp, rfl⟩
        · exact .inl ⟨hp, hin⟩
    have hids₂ : ∀ i, i ∈ d.id :: ids ↔ i ∈ (written ++ [d]).map Denom.id := by
      intro i
      rw [List.mem_cons, hids, List.map_append, List.mem_append, List.map_singleton, List.mem_singleton, or_comm]
    obtain ⟨moved', T₃, T₃', h₃, hfinal⟩ :=
      ih (fun x hx => hds x (List.mem_cons_of_mem _ hx)) h₂ hnext hids₂ hmoved₂ hrest
    rw [List.append_assoc, List.singleton_append] at h₃ hfinal
    exact ⟨moved', T₃, T₃', h₃, hfinal⟩

lemma lt_append {a : GoString} {b : UInt8} {s : GoString} : a < a ++ b :: s := by
  induction a with
  | nil => exact List.nil_lt_cons b s
  | cons x a ih => exact List.cons_lt_cons_self.mpr ih

lemma WellFormed.between (hwf : WellFormed X cdc c B) : Between B [] (entriesLeft c B []) := by
  have hall : entriesLeft c B [] = B.withPrefix (keyNFT [] []) := by
    simp [entriesLeft, nftKeys]
  rw [hall]
  exact hwf.legacyStore.between

/-- A denom whose id continues that of another comes later. -/
lemma notMem_of_continues {ds before after : List Denom} {d : Denom}
    (hsorted : ds.Pairwise fun a b => keyDenom a.id < keyDenom b.id)
    (hsplit : ds = before ++ d :: after) {id : GoString} (hid : hasPrefix id (d.id ++ [47]) = true) :
    id ∉ before.map Denom.id := by
  intro hmem
  obtain ⟨x, hx, rfl⟩ := List.mem_map.mp hmem
  rw [hsplit, List.pairwise_append] at hsorted
  have hlt : keyDenom x.id < keyDenom d.id := hsorted.2.2 x hx d List.mem_cons_self
  obtain ⟨rest, hrest⟩ := hasPrefix_iff.mp hid
  have hgt : keyDenom d.id < keyDenom x.id := by
    rw [hrest]
    have happend : keyDenom (d.id ++ [47] ++ rest) = keyDenom d.id ++ 47 :: rest := by
      simp [keyDenom]
    rw [happend]
    exact lt_append
  exact lt_asymm hlt hgt

/-- A token under the keys of another denom is counted for both. -/
lemma WellFormed.separate_of_exact (hwf : WellFormed X cdc c B) (hmax : 515 ≤ K.maxKeyLength)
    (hrun : migrate X K cdc B = .ok B') (hexact : MigratedExactly X K.toRecords c B B') : Separate c := by
  obtain ⟨ds, hread, hmem, hsorted⟩ := hwf.exists_denoms
  intro d hd p hp
  by_contra hover
  rw [Bool.not_eq_false] at hover
  obtain ⟨before, after, hsplit, ids, hids, hnew, hsupply⟩ :=
    hwf.getTotalSupply_eq hmax hread hwf.between hrun ((hmem d).mpr hd)
  have hlater : p.1 ∉ ids := by
    rw [hids]
    simpa using notMem_of_continues hsorted hsplit hover
  have hne : p.1 ≠ d.id := by
    intro heq
    obtain ⟨rest, hrest⟩ := hasPrefix_iff.mp hover
    have hlen := congrArg List.length hrest
    simp only [heq, List.length_append, List.length_singleton] at hlen
    omega
  rw [hexact.supply d hd, hwf.length_ownEntries (regexpID_head (hwf.denomIDs d hd)).1] at hsupply
  have hown : (c.nfts.filter fun q => q.1 = d.id) =
      (c.nfts.filter fun q => q.1 ∉ ids ∧ (q.1 = d.id ∨ hasPrefix q.1 (d.id ++ [47]) = true)).filter
        fun q => q.1 = d.id := by
    rw [List.filter_filter]
    apply List.filter_congr
    intro q _
    by_cases hq : q.1 = d.id
    · simp [hq, hnew]
    · simp [hq]
  have hlt : (c.nfts.filter fun q => q.1 = d.id).length <
      (c.nfts.filter fun q => q.1 ∉ ids ∧ (q.1 = d.id ∨ hasPrefix q.1 (d.id ++ [47]) = true)).length := by
    rw [hown, List.length_filter_lt_length_iff_exists]
    exact ⟨p, by simp [hp, hlater, hover], by simpa using hne⟩
  omega

lemma WellFormed.exact_of_separate (hwf : WellFormed X cdc c B) (hmax : 515 ≤ K.maxKeyLength)
    (hrun : migrate X K cdc B = .ok B') (hsep : Separate c) : MigratedExactly X K.toRecords c B B' := by
  obtain ⟨ds, hread, hmem, -⟩ := hwf.exists_denoms
  have hnil : ∀ p : GoString × BaseNFT, p ∈ ([] : List (GoString × BaseNFT)) ↔
      p ∈ c.nfts ∧ p.1 ∈ ([] : List GoString) := by
    simp
  obtain ⟨moved, T, T', h, hmoved⟩ := (moved_start hwf).migrateDenoms hwf hsep hmax hread
    (fun d hd => (hmem d).mp hd) hwf.between (by simp) hnil hrun
  rw [List.nil_append] at h hmoved
  have hall : ∀ p, p ∈ moved ↔ p ∈ c.nfts := by
    intro p
    rw [hmoved, and_iff_left_iff_imp]
    intro hp
    obtain ⟨d, hd, hid⟩ := List.mem_map.mp (hwf.denom p hp)
    exact List.mem_map.mpr ⟨d, (hmem d).mpr hd, hid⟩
  have hgone : ∀ k, LegacyKey X c k → Gone X ds moved k := by
    intro k hk
    cases hk with
    | denom hd => exact .denom ((hmem _).mpr hd)
    | name hd => exact .name ((hmem _).mpr hd)
    | collection hd => exact .collection ((hmem _).mpr hd)
    | nft hp => exact .nft ((hall _).mpr hp)
    | owner hp hacc => exact .owner ((hall _).mpr hp) hacc
  have hraw : ∀ k v, T' k ≠ some v := by
    intro k v hk
    obtain ⟨hget, hleft⟩ := (h.left k v).mp hk
    exact hleft (hgone k (hwf.keys k v hget))
  have hdenom : ∀ p ∈ c.nfts, p.1.head? ≠ some 47 ∧ 0 ∉ p.1 := by
    intro p hp
    obtain ⟨d, hd, hid⟩ := List.mem_map.mp (hwf.denom p hp)
    rw [← hid]
    exact (regexpID_head (hwf.denomIDs d hd)).2
  constructor
  · intro k v hhead
    constructor
    · intro hget
      obtain ⟨a | k', ha, hk, hv⟩ := (h.holds k v).mp hget
      · have hkind : a.kind = 0x02 := by
          apply Option.some.inj
          rw [← a.head?_bytes, show a.bytes = k from hk, hhead]
        cases a <;> try (simp [Key.kind] at hkind; done)
        case nft c' n =>
          obtain ⟨p, hp, rfl, rfl, rfl⟩ := (h.nft c' n v).mp hv
          exact ⟨p, (hall p).mp hp, hk.symm, rfl⟩
      · exact absurd hv (hraw k' v)
    · rintro ⟨p, hp, rfl, rfl⟩
      obtain ⟨hslash, hzero⟩ := hdenom p hp
      refine (h.holds _ _).mpr ⟨.inl (.nft p.1 p.2.id), plain_nft hslash hzero, rfl, ?_⟩
      exact (h.nft _ _ _).mpr ⟨p, (hall p).mpr hp, rfl, rfl, rfl⟩
  · intro p hp
    obtain ⟨hslash, hzero⟩ := hdenom p hp
    obtain ⟨o, ho⟩ := h.decodes p ((hall p).mpr hp)
    have hget : B'.get? (ownerStoreKey p.1 p.2.id) = T (.owner p.1 p.2.id) :=
      h.holds.get? (a := .inl (.owner p.1 p.2.id)) (plain_owner hslash hzero)
    rw [(h.owner _ _ o).mpr ⟨p, (hall p).mpr hp, rfl, rfl, ho⟩] at hget
    rw [getOwner, KVStore.get_of_get? hget, ho]
  · intro d hd
    obtain ⟨before, after, -, ids, -, hnew, hsupply⟩ :=
      hwf.getTotalSupply_eq hmax hread hwf.between hrun ((hmem d).mpr hd)
    rw [hsupply, hwf.length_ownEntries (regexpID_head (hwf.denomIDs d hd)).1]
    congr 1
    apply List.filter_congr
    intro p hp
    by_cases hid : p.1 = d.id
    · simp [hid, hnew]
    · simp [hid, hsep d hd p hp]
  · intro k v hget
    by_contra hsome
    obtain ⟨w, hw⟩ := Option.ne_none_iff_exists'.mp hsome
    obtain ⟨a | k', ha, hk, hv⟩ := (h.holds k w).mp hw
    · apply ha.2
      rw [show layout.bytes a = k from hk]
      exact hwf.legacyShape hget
    · exact hraw k' w hv

/-- A migration of a well-formed store that succeeds is exact if and only if no token lies under the keys of another
denom. -/
theorem migrate_exact_iff_separate (X : Extern) (K : Keeper) (hmax : 515 ≤ K.maxKeyLength) (cdc : LegacyCodec)
    (c : Content) (B B' : ByteStore) (hwf : WellFormed X cdc c B) (hrun : migrate X K cdc B = .ok B') :
    MigratedExactly X K.toRecords c B B' ↔ Separate c := by
  constructor
  · exact hwf.separate_of_exact hmax hrun
  · exact hwf.exact_of_separate hmax hrun

end

/-- The records of the denoms that Alice created with the given ids, and of one token of Bob. -/
def sampleContent (ids : List GoString) (denomID : GoString) : Content where
  denoms := ids.map fun id => ⟨id, str "Cats", [], str "uptick1zyg3zyg3zyg3zyg3zyg3zyg3zyg3zyg3jmtet7", str "CAT",
    false, false, [], [], [], []⟩
  nfts := [(denomID, ⟨str "cat1", str "Tom", [], [], str "uptick1yg3zyg3zyg3zyg3zyg3zyg3zyg3zyg3zaxwlrf", []⟩)]

def contentStore (ids : List GoString) (denomID : GoString) : ByteStore :=
  KVStore.empty.setAll (ids.flatMap (fun id => [(keyDenom id, Sample.denomRecord id), (keyCollection id, [1])]) ++
    [(keyDenomName (str "Cats"), []), (keyNFT denomID (str "cat1"), Sample.nftRecord (str "cat1")),
      (keyOwner Sample.X Sample.bob denomID (str "cat1"), str "cat1")])

lemma wellFormed_contentStore {ids : List GoString} {denomID : GoString}
    (hids : ∀ id ∈ ids, regexpID id = true) (hdistinct : ids.Nodup) (hdenom' : denomID ∈ ids)
    (hdenoms : ∀ id ∈ ids, (contentStore ids denomID).get? (keyDenom id) = some (Sample.denomRecord id))
    (hnft : (contentStore ids denomID).get? (keyNFT denomID (str "cat1")) = some (Sample.nftRecord (str "cat1")))
    (hkeys : ∀ e ∈ (contentStore ids denomID).entries, e.1 ∈ ids.map keyDenom ++ ids.map keyCollection ++
      [keyDenomName (str "Cats"), keyNFT denomID (str "cat1"), keyOwner Sample.X Sample.bob denomID (str "cat1")]) :
    WellFormed Sample.X Sample.legacyCodec (sampleContent ids denomID) (contentStore ids denomID) where
  denomIDs := by simpa [sampleContent] using hids
  distinct := by simpa [sampleContent, Function.comp_def] using hdistinct
  tokenIDs := by
    simp only [sampleContent, List.mem_singleton, forall_eq]
    rfl
  distinctNFTs := by simp [sampleContent]
  denom := by simpa [sampleContent, Function.comp_def] using hdenom'
  denomRecord := by
    intro d hd
    obtain ⟨id, hid, rfl⟩ := List.mem_map.mp hd
    exact ⟨_, hdenoms id hid, by simp [Sample.legacyCodec, Sample.denomRecord, Sample.unframe_frame]⟩
  nftRecord := by
    simp only [sampleContent, List.mem_singleton, forall_eq]
    exact ⟨_, hnft, by simp [Sample.legacyCodec, Sample.nftRecord, Sample.unframe_frame]⟩
  keys := by
    have hbob : Sample.X.decodeAcc (str "uptick1yg3zyg3zyg3zyg3zyg3zyg3zyg3zyg3zaxwlrf") = .ok Sample.bob := by
      decide +kernel
    intro k v hget
    have hdenom : ∀ id ∈ ids, ∃ d ∈ (sampleContent ids denomID).denoms, d.id = id ∧ d.name = str "Cats" := by
      intro id hid
      exact ⟨_, List.mem_map_of_mem hid, rfl, rfl⟩
    rcases List.mem_append.mp (hkeys (k, v) (KVStore.mem_entries.mpr hget)) with hk | hk
    · rcases List.mem_append.mp hk with hk | hk
      · obtain ⟨id, hid, rfl⟩ := List.mem_map.mp hk
        obtain ⟨d, hd, rfl, -⟩ := hdenom id hid
        exact .denom hd
      · obtain ⟨id, hid, rfl⟩ := List.mem_map.mp hk
        obtain ⟨d, hd, rfl, -⟩ := hdenom id hid
        exact .collection hd
    · simp only [List.mem_cons, List.not_mem_nil, or_false] at hk
      rcases hk with rfl | rfl | rfl
      · obtain ⟨d, hd, -, hname⟩ := hdenom denomID hdenom'
        rw [← hname]
        exact .name hd
      · exact LegacyKey.nft (c := sampleContent ids denomID) List.mem_cons_self
      · exact LegacyKey.owner (c := sampleContent ids denomID) List.mem_cons_self hbob

/-- Two denoms, of which one id starts with the other. -/
def siblings : List GoString := [str "art", str "artold"]

theorem migrate_exact_iff_separate_siblings : ∃ B', migrate Sample.X Sample.keeper Sample.legacyCodec
    (contentStore siblings (str "artold")) = .ok B' ∧
      MigratedExactly Sample.X Sample.records (sampleContent siblings (str "artold"))
        (contentStore siblings (str "artold")) B' := by
  obtain ⟨B', hrun⟩ := exists_eq_ok (x := migrate Sample.X Sample.keeper Sample.legacyCodec
    (contentStore siblings (str "artold"))) (by decide +kernel)
  have hwf : WellFormed Sample.X Sample.legacyCodec (sampleContent siblings (str "artold"))
      (contentStore siblings (str "artold")) :=
    wellFormed_contentStore (by decide +kernel) (by decide +kernel) (by decide +kernel) (by decide +kernel)
      (by decide +kernel) (by decide +kernel)
  have hsep : Separate (sampleContent siblings (str "artold")) := by
    unfold Separate
    decide +kernel
  exact ⟨B', hrun, (migrate_exact_iff_separate Sample.X Sample.keeper (by decide) Sample.legacyCodec _ _ B' hwf
    hrun).mpr hsep⟩

def nested : List GoString := [str "art", str "art/old"]

/-- The token `cat1` of `art/old` also appears in the class `art`, which had no token. -/
theorem migrate_copies_nested_token : ∃ B', WellFormed Sample.X Sample.legacyCodec
      (sampleContent nested (str "art/old")) (contentStore nested (str "art/old")) ∧
    migrate Sample.X Sample.keeper Sample.legacyCodec (contentStore nested (str "art/old")) = .ok B' ∧
    hasNFT B' (str "art") (str "cat1") = true ∧ getTotalSupply B' (str "art") = 1 ∧
    ¬ MigratedExactly Sample.X Sample.records (sampleContent nested (str "art/old"))
      (contentStore nested (str "art/old")) B' := by
  have hwf : WellFormed Sample.X Sample.legacyCodec (sampleContent nested (str "art/old"))
      (contentStore nested (str "art/old")) :=
    wellFormed_contentStore (by decide +kernel) (by decide +kernel) (by decide +kernel) (by decide +kernel)
      (by decide +kernel) (by decide +kernel)
  obtain ⟨B', hrun⟩ := exists_eq_ok (x := migrate Sample.X Sample.keeper Sample.legacyCodec
    (contentStore nested (str "art/old"))) (by decide +kernel)
  have hstate : (migrate Sample.X Sample.keeper Sample.legacyCodec
      (contentStore nested (str "art/old"))).toOption.any (fun B =>
        hasNFT B (str "art") (str "cat1") && decide (getTotalSupply B (str "art") = 1)) = true := by decide +kernel
  rw [hrun] at hstate
  simp only [Except.toOption, Option.any_some, Bool.and_eq_true, decide_eq_true_eq] at hstate
  refine ⟨B', hwf, hrun, hstate.1, hstate.2, fun hexact => ?_⟩
  have hsupply := hexact.supply _ (List.mem_cons_self : _ ∈ (sampleContent nested (str "art/old")).denoms)
  have hcount : ((sampleContent nested (str "art/old")).nfts.filter
      fun p => p.1 = str "art").length = 0 := by decide +kernel
  rw [hstate.2, hcount] at hsupply
  cases hsupply

end Uptick.Collection.Migration
