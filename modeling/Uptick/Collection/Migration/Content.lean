import Uptick.Collection.Migration.Precheck

/-!
# Well-formed legacy stores

A legacy store written by irismod/nft: its denoms with distinct ids, its tokens with distinct ids per denom, the index
keys of both, and nothing else. Denom ids may contain the delimiter of the keys, token ids do not; so a key belongs to
one token, but the keys under one denom need not all be its own.
-/

namespace Uptick.Collection.Migration

open Text Outcome NftStore

variable {X : Extern} {K : Keeper} {cdc : LegacyCodec} {B B' : ByteStore}

/-- The denoms of a legacy store, and its tokens with the denom of each. -/
structure Content where
  denoms : List Denom
  nfts : List (GoString × BaseNFT)

inductive LegacyKey (X : Extern) (c : Content) : GoString → Prop
  | denom {d : Denom} (h : d ∈ c.denoms) : LegacyKey X c (keyDenom d.id)
  | name {d : Denom} (h : d ∈ c.denoms) : LegacyKey X c (keyDenomName d.name)
  | collection {d : Denom} (h : d ∈ c.denoms) : LegacyKey X c (keyCollection d.id)
  | nft {p : GoString × BaseNFT} (h : p ∈ c.nfts) : LegacyKey X c (keyNFT p.1 p.2.id)
  | owner {p : GoString × BaseNFT} {acc : AccAddress} (h : p ∈ c.nfts) (hacc : X.decodeAcc p.2.owner = .ok acc) :
      LegacyKey X c (keyOwner X acc p.1 p.2.id)

structure WellFormed (X : Extern) (cdc : LegacyCodec) (c : Content) (B : ByteStore) : Prop where
  denomIDs : ∀ d ∈ c.denoms, regexpID d.id = true
  distinct : (c.denoms.map Denom.id).Nodup
  tokenIDs : ∀ p ∈ c.nfts, validateTokenID p.2.id = .ok ()
  distinctNFTs : (c.nfts.map fun p => (p.1, p.2.id)).Nodup
  denom : ∀ p ∈ c.nfts, p.1 ∈ c.denoms.map Denom.id
  denomRecord : ∀ d ∈ c.denoms, ∃ v, B.get? (keyDenom d.id) = some v ∧ cdc.unmarshalDenom v = .ok d
  nftRecord : ∀ p ∈ c.nfts, ∃ v, B.get? (keyNFT p.1 p.2.id) = some v ∧ cdc.unmarshalBaseNFT v = .ok p.2
  keys : ∀ k v, B.get? k = some v → LegacyKey X c k

lemma regexpID_head {id : GoString} (h : regexpID id = true) : id ≠ [] ∧ id.head? ≠ some 47 ∧ 0 ∉ id := by
  cases id with
  | nil => cases h
  | cons b rest =>
    simp only [regexpID, Bool.and_eq_true, List.all_eq_true, Bool.or_eq_true, beq_iff_eq] at h
    refine ⟨List.cons_ne_nil _ _, ?_, ?_⟩
    · intro hb
      obtain rfl : b = 47 := Option.some.inj hb
      exact absurd h.1.1 (by decide)
    · intro hmem
      rcases List.mem_cons.mp hmem with rfl | hmem
      · exact absurd h.1.1 (by decide)
      · have hzero := h.2 0 hmem
        revert hzero
        decide

/-- The last delimiter ends the denom id, since token ids have none. -/
lemma keyNFT_inj {d d' n n' : GoString} (hd : d ≠ []) (hd' : d' ≠ []) (hn : 47 ∉ n) (hn' : 47 ∉ n')
    (h : keyNFT d n = keyNFT d' n') : d = d' ∧ n = n' := by
  rw [keyNFT_eq hd, keyNFT_eq hd', List.cons.injEq, List.cons.injEq] at h
  have hcut := h.2.2
  have hlen : d.length = d'.length := by
    have hlast := congrArg (lastIndexByte 47) hcut
    rw [lastIndexByte_append_cons d hn, lastIndexByte_append_cons d' hn'] at hlast
    exact Option.some.inj hlast
  obtain ⟨rfl, hrest⟩ := List.append_inj hcut hlen
  exact ⟨rfl, List.tail_eq_of_cons_eq hrest⟩

/-- The entries under the keys of a denom are its own and those of denoms that continue its id behind a delimiter. -/
lemma hasPrefix_keyNFT {d d' n : GoString} (hd : d ≠ []) (hd' : d' ≠ []) (hn : 47 ∉ n) :
    hasPrefix (keyNFT d' n) (keyNFT d []) = true ↔ d' = d ∨ hasPrefix d' (d ++ [47]) = true := by
  rw [keyNFT_eq hd, keyNFT_eq hd']
  constructor
  · intro h
    obtain ⟨rest, hrest⟩ := hasPrefix_iff.mp h
    simp only [List.cons_append, List.cons.injEq, true_and, List.append_assoc, List.nil_append] at hrest
    rcases List.append_eq_append_iff.mp hrest with ⟨as, hdd, has⟩ | ⟨bs, hdd, hbs⟩
    · -- The denom of the key is not the longer one: its token id would contain the delimiter.
      cases as with
      | nil => exact .inl (by simpa using hdd.symm)
      | cons a as =>
        rw [List.cons_append, List.cons.injEq] at has
        exact absurd (by rw [has.2]; simp) hn
    · cases bs with
      | nil => exact .inl (by simpa using hdd)
      | cons b bs =>
        rw [List.cons_append, List.cons.injEq] at hbs
        rw [hdd, ← hbs.1]
        exact .inr (hasPrefix_iff.mpr ⟨bs, by simp⟩)
  · rintro (rfl | h)
    · rw [List.append_cons]
      exact hasPrefix_append (0x01 :: 47 :: (d' ++ [47])) n
    · obtain ⟨rest, rfl⟩ := hasPrefix_iff.mp h
      exact hasPrefix_iff.mpr ⟨rest ++ 47 :: n, by simp⟩

namespace WellFormed

variable {c : Content}

lemma slash_notMem (h : WellFormed X cdc c B) {p : GoString × BaseNFT} (hp : p ∈ c.nfts) : 47 ∉ p.2.id :=
  (validateTokenID_eq_ok.mp (h.tokenIDs p hp)).2.2

lemma ne_nil (h : WellFormed X cdc c B) {p : GoString × BaseNFT} (hp : p ∈ c.nfts) : p.1 ≠ [] := by
  obtain ⟨d, hd, hid⟩ := List.mem_map.mp (h.denom p hp)
  rw [← hid]
  exact (regexpID_head (h.denomIDs d hd)).1

lemma legacyStore (h : WellFormed X cdc c B) : LegacyStore B := by
  intro k v hget
  cases h.keys k v hget with
  | denom => rfl
  | name => rfl
  | collection => rfl
  | nft hp =>
    rw [keyNFT_eq (h.ne_nil hp)]
    rfl
  | owner => rfl

lemma mem_nftEntries (h : WellFormed X cdc c B) {e : GoString × GoString} :
    e ∈ B.withPrefix (keyNFT [] []) ↔
      ∃ p ∈ c.nfts, e.1 = keyNFT p.1 p.2.id ∧ B.get? e.1 = some e.2 ∧ cdc.unmarshalBaseNFT e.2 = .ok p.2 := by
  obtain ⟨k, v⟩ := e
  rw [KVStore.mem_withPrefix]
  constructor
  · rintro ⟨hget, hpre⟩
    obtain ⟨rest, hrest⟩ := hasPrefix_iff.mp hpre
    have hhead : k.head? = some 0x01 := by
      rw [hrest]
      rfl
    cases h.keys k v hget with
    | denom => cases hhead
    | name => cases hhead
    | collection => cases hhead
    | owner => cases hhead
    | @nft p hp =>
      obtain ⟨v', hget', hv'⟩ := h.nftRecord p hp
      rw [hget] at hget'
      cases hget'
      exact ⟨p, hp, rfl, hget, hv'⟩
  · rintro ⟨p, hp, rfl, hget, -⟩
    refine ⟨hget, ?_⟩
    rw [keyNFT_eq (h.ne_nil hp)]
    exact hasPrefix_append [0x01, 47] _

lemma eq_of_keyNFT (h : WellFormed X cdc c B) {p q : GoString × BaseNFT} (hp : p ∈ c.nfts) (hq : q ∈ c.nfts)
    (hkey : keyNFT p.1 p.2.id = keyNFT q.1 q.2.id) : p = q := by
  obtain ⟨hd, hn⟩ := keyNFT_inj (h.ne_nil hp) (h.ne_nil hq) (h.slash_notMem hp) (h.slash_notMem hq) hkey
  exact List.inj_on_of_nodup_map h.distinctNFTs hp hq (Prod.ext hd hn)

end WellFormed

/-- The NFT keys of the tokens of some denoms. -/
def nftKeys (c : Content) (ids : List GoString) : List GoString :=
  (c.nfts.filter fun p => p.1 ∈ ids).map fun p => keyNFT p.1 p.2.id

def entriesLeft (c : Content) (B : ByteStore) (ids : List GoString) : List (GoString × GoString) :=
  (B.withPrefix (keyNFT [] [])).filter fun e => !decide (e.1 ∈ nftKeys c ids)

namespace WellFormed

variable {c : Content} {ids : List GoString} {d : GoString}

lemma keyNFT_mem_nftKeys (h : WellFormed X cdc c B) {p : GoString × BaseNFT} (hp : p ∈ c.nfts) :
    keyNFT p.1 p.2.id ∈ nftKeys c ids ↔ p.1 ∈ ids := by
  unfold nftKeys
  rw [List.mem_map]
  constructor
  · rintro ⟨q, hq, hkey⟩
    rw [List.mem_filter, decide_eq_true_eq] at hq
    rw [← h.eq_of_keyNFT hq.1 hp hkey]
    exact hq.2
  · intro hid
    exact ⟨p, by simpa using ⟨hp, hid⟩, rfl⟩

lemma mem_entriesLeft (h : WellFormed X cdc c B) {e : GoString × GoString} : e ∈ entriesLeft c B ids ↔
    ∃ p ∈ c.nfts, p.1 ∉ ids ∧ e.1 = keyNFT p.1 p.2.id ∧ B.get? e.1 = some e.2 ∧
      cdc.unmarshalBaseNFT e.2 = .ok p.2 := by
  unfold entriesLeft
  rw [List.mem_filter, h.mem_nftEntries]
  constructor
  · rintro ⟨⟨p, hp, hkey, hget, hv⟩, hout⟩
    rw [hkey, Bool.not_eq_true', decide_eq_false_iff_not, h.keyNFT_mem_nftKeys hp] at hout
    exact ⟨p, hp, hout, hkey, hget, hv⟩
  · rintro ⟨p, hp, hout, hkey, hget, hv⟩
    refine ⟨⟨p, hp, hkey, hget, hv⟩, ?_⟩
    rw [hkey, Bool.not_eq_true', decide_eq_false_iff_not, h.keyNFT_mem_nftKeys hp]
    exact hout

/-- The rounds for a class delete the keys of its own tokens, whatever else they visit. -/
lemma leftEntries_eq (h : WellFormed X cdc c B) (hd : d ≠ []) {R : Records}
    (hfit : ∀ e ∈ ownEntries d (entriesLeft c B ids), EntryFits X R cdc d e) :
    leftEntries X cdc d (entriesLeft c B ids) = entriesLeft c B (d :: ids) := by
  have hdeleted : ∀ p ∈ c.nfts, p.1 ∉ ids →
      (keyNFT p.1 p.2.id ∈ deletedKeys X cdc d (ownEntries d (entriesLeft c B ids)) ↔ p.1 = d) := by
    intro p hp hout
    unfold deletedKeys
    rw [List.mem_filterMap]
    constructor
    · rintro ⟨e, he, hkey⟩
      obtain ⟨q, hq, hkey⟩ := Option.map_eq_some_iff.mp hkey
      have hq : readNFT X cdc e = .ok q := by
        cases hread : readNFT X cdc e with
        | error err => simp [hread, Except.toOption] at hq
        | ok q' => simpa [hread, Except.toOption] using hq
      obtain ⟨p', hp', -, -, -, hrecord⟩ := h.mem_entriesLeft.mp (List.mem_filter.mp he).1
      have hsame : q.1 = p'.2 := by
        have hdecoded := (readNFT_eq_ok.mp hq).1
        rw [hrecord] at hdecoded
        exact (Except.ok.inj hdecoded).symm
      rw [hsame] at hkey
      exact (keyNFT_inj hd (h.ne_nil hp) (h.slash_notMem hp') (h.slash_notMem hp) hkey).1.symm
    · rintro rfl
      obtain ⟨v, hget, hv⟩ := h.nftRecord p hp
      have hleft : (keyNFT p.1 p.2.id, v) ∈ entriesLeft c B ids :=
        h.mem_entriesLeft.mpr ⟨p, hp, hout, rfl, hget, hv⟩
      have hown : (keyNFT p.1 p.2.id, v) ∈ ownEntries p.1 (entriesLeft c B ids) := by
        refine List.mem_filter.mpr ⟨hleft, ?_⟩
        rw [keyNFT_eq hd, keyNFT_eq hd, List.append_cons]
        exact hasPrefix_append (0x01 :: 47 :: (p.1 ++ [47])) p.2.id
      obtain ⟨q, hq, -⟩ := hfit _ hown
      have hsame : q.1 = p.2 := by
        have hdecoded := (readNFT_eq_ok.mp hq).1
        rw [hv] at hdecoded
        exact (Except.ok.inj hdecoded).symm
      exact ⟨_, hown, by simp [hq, Except.toOption, hsame]⟩
  unfold leftEntries
  generalize deletedKeys X cdc d (ownEntries d (entriesLeft c B ids)) = gone at hdeleted
  unfold entriesLeft
  rw [List.filter_filter]
  apply List.filter_congr
  intro e he
  obtain ⟨p, hp, hkey, -⟩ := h.mem_nftEntries.mp he
  rw [hkey, Bool.eq_iff_iff, Bool.and_eq_true]
  simp only [Bool.not_eq_true', decide_eq_false_iff_not, h.keyNFT_mem_nftKeys hp, List.mem_cons, not_or]
  constructor
  · rintro ⟨hgone, hout⟩
    exact ⟨fun hid => hgone ((hdeleted p hp hout).mpr hid), hout⟩
  · rintro ⟨hid, hout⟩
    exact ⟨fun hgone => hid ((hdeleted p hp hout).mp hgone), hout⟩

lemma length_ownEntries (h : WellFormed X cdc c B) (hd : d ≠ []) : (ownEntries d (entriesLeft c B ids)).length =
    (c.nfts.filter fun p => p.1 ∉ ids ∧ (p.1 = d ∨ hasPrefix p.1 (d ++ [47]) = true)).length := by
  have hnodup : ((ownEntries d (entriesLeft c B ids)).map Prod.fst).Nodup :=
    (B.nodup_withPrefix (keyNFT [] [])).sublist ((List.filter_sublist.trans List.filter_sublist).map Prod.fst)
  have hnodup' : ((c.nfts.filter fun p => p.1 ∉ ids ∧ (p.1 = d ∨ hasPrefix p.1 (d ++ [47]) = true)).map
      fun p => keyNFT p.1 p.2.id).Nodup := by
    apply List.Nodup.map_on
    · intro p hp q hq hkey
      exact h.eq_of_keyNFT (List.mem_filter.mp hp).1 (List.mem_filter.mp hq).1 hkey
    · exact h.distinctNFTs.of_map.filter _
  have hperm := (List.perm_ext_iff_of_nodup hnodup hnodup').mpr (by
    intro k
    simp only [List.mem_map, ownEntries, List.mem_filter, h.mem_entriesLeft, decide_eq_true_eq]
    constructor
    · rintro ⟨e, ⟨⟨p, hp, hout, hkey, -, -⟩, hpre⟩, rfl⟩
      rw [hkey, hasPrefix_keyNFT hd (h.ne_nil hp) (h.slash_notMem hp)] at hpre
      exact ⟨p, ⟨hp, hout, hpre⟩, hkey.symm⟩
    · rintro ⟨p, ⟨hp, hout, hpre⟩, rfl⟩
      obtain ⟨v, hget, hv⟩ := h.nftRecord p hp
      refine ⟨(keyNFT p.1 p.2.id, v), ⟨⟨p, hp, hout, rfl, hget, hv⟩, ?_⟩, rfl⟩
      rw [hasPrefix_keyNFT hd (h.ne_nil hp) (h.slash_notMem hp)]
      exact hpre)
  have hlen := hperm.length_eq
  rwa [List.length_map, List.length_map] at hlen

lemma mem_denomEntries (h : WellFormed X cdc c B) {e : GoString × GoString} (he : e ∈ B.withPrefix (keyDenom [])) :
    ∃ d ∈ c.denoms, e.1 = keyDenom d.id ∧ cdc.unmarshalDenom e.2 = .ok d := by
  obtain ⟨k, v⟩ := e
  obtain ⟨hget, hpre⟩ := KVStore.mem_withPrefix.mp he
  obtain ⟨rest, hrest⟩ := hasPrefix_iff.mp hpre
  have hhead : k.head? = some 0x04 := by
    rw [hrest]
    rfl
  cases h.keys k v hget with
  | @denom d hd =>
    obtain ⟨v', hget', hv'⟩ := h.denomRecord d hd
    rw [hget] at hget'
    cases hget'
    exact ⟨d, hd, rfl, hv'⟩
  | name => cases hhead
  | collection => cases hhead
  | nft => cases hhead
  | owner => cases hhead

lemma exists_denoms (h : WellFormed X cdc c B) : ∃ ds : List Denom,
    List.Forall₂ (fun e d => cdc.unmarshalDenom e.2 = .ok d) (B.withPrefix (keyDenom [])) ds ∧
      (∀ d, d ∈ ds ↔ d ∈ c.denoms) ∧ ds.Pairwise fun a b => keyDenom a.id < keyDenom b.id := by
  have hread : ∀ e ∈ B.withPrefix (keyDenom []), ∃ d, cdc.unmarshalDenom e.2 = .ok d := by
    intro e he
    obtain ⟨d, -, -, hd⟩ := h.mem_denomEntries he
    exact ⟨d, hd⟩
  obtain ⟨ds, hds⟩ := exists_mapM_eq_ok hread
  have hpairs := mapM_eq_ok.mp hds
  have hkeys : List.Forall₂ (fun e d => (e.1 = keyDenom (Denom.id d) ∧ d ∈ c.denoms) ∧ cdc.unmarshalDenom e.2 = .ok d)
      (B.withPrefix (keyDenom [])) ds := by
    refine ((List.forall₂_and_left _ _).mpr ⟨fun e he => h.mem_denomEntries he, hpairs⟩).imp ?_
    rintro e d ⟨⟨d', hd', hkey, hv⟩, hv'⟩
    rw [hv] at hv'
    cases hv'
    exact ⟨⟨hkey, hd'⟩, hv⟩
  have hmap : ds.map (fun d => keyDenom d.id) = (B.withPrefix (keyDenom [])).map Prod.fst := by
    rw [← List.forall₂_eq_eq_eq, List.forall₂_map_left_iff, List.forall₂_map_right_iff]
    exact hkeys.flip.imp fun _ _ hd => hd.1.1.symm
  have hmem : ∀ d ∈ ds, d ∈ c.denoms := by
    intro d hd
    obtain ⟨e, -, ⟨-, hc⟩, -⟩ := exists_of_mem_right hkeys hd
    exact hc
  refine ⟨ds, hpairs, fun d => ⟨hmem d, fun hd => ?_⟩, ?_⟩
  · obtain ⟨v, hget, -⟩ := h.denomRecord d hd
    have he : (keyDenom d.id, v) ∈ B.withPrefix (keyDenom []) :=
      KVStore.mem_withPrefix.mpr ⟨hget, hasPrefix_append [0x04, 47] d.id⟩
    have hkey : keyDenom d.id ∈ ds.map fun d => keyDenom d.id := by
      rw [hmap]
      exact List.mem_map_of_mem he
    obtain ⟨d', hd', hsame⟩ := List.mem_map.mp hkey
    have hid : d'.id = d.id := by simpa [keyDenom, delimiter] using hsame
    rw [← List.inj_on_of_nodup_map h.distinct (hmem d' hd') hd hid]
    exact hd'
  · have hsorted : (ds.map fun d => keyDenom d.id).Pairwise (· < ·) := by
      rw [hmap]
      exact B.sorted.sublist (List.filter_sublist.map Prod.fst)
    exact List.pairwise_map.mp hsorted

end WellFormed

end Uptick.Collection.Migration
