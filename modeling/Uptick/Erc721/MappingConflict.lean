import Uptick.Erc721.HandlerSpec
import Uptick.Erc721.TokenIds
import Uptick.SampleChain

/-!
# The conflict check and the writes it stands for

`convertEvm2Cosmos` calls `validateNoMappingConflict` for the whole batch before anything moves, and
`SetNFTPairs` for one item after another at the end. The check reads the index as it was and compares
the stored token id as a text; a write sees the writes before it and compares values. The verdict of the
writes is stated here on the index before the batch, and with it batches on which the two agree.
-/

namespace Uptick.Erc721

open Text Numeral Evm Outcome

section

variable {X : Extern} {st : Store} {c K : GoString}

lemma tokenID_eq_of_createTokenUID {a b s t : GoString} (ha : a ∈ contractAddressKeyVariants X c)
    (hb : b ∈ contractAddressKeyVariants X c) (h : createTokenUID a s = createTokenUID b t) : s = t := by
  by_cases hc : isHexAddress c = true
  · exact (uid_inj (comma_notMem_contractVariants hc ha) (comma_notMem_contractVariants hc hb) h).1
  · have hone : contractAddressKeyVariants X c = [c] := by
      simp [contractAddressKeyVariants, checksumContractAddress, canonicalContractAddress, hc]
    rw [hone, List.mem_singleton] at ha hb
    subst ha hb
    exact List.append_cancel_right h

lemma variantUIDs_of_denotesValue {s t : GoString} {v : Nat} (hs : DenotesValue s v) (ht : DenotesValue t v) :
    variantUIDs X c s = variantUIDs X c t := by
  rw [variantUIDs, variantUIDs, keyVariants, keyVariants, evmTokenIDKeyVariants_of_denotesValue hs,
    evmTokenIDKeyVariants_of_denotesValue ht]

lemma value_eq_of_mem_variantUIDs {s t uid : GoString} {v w : Nat} (hs : DenotesValue s v)
    (ht : DenotesValue t w) (hus : uid ∈ variantUIDs X c s) (hut : uid ∈ variantUIDs X c t) : v = w := by
  obtain ⟨s', hs', a, ha, rfl⟩ := mem_variantUIDs.mp hus
  obtain ⟨t', ht', b, hb, heq⟩ := mem_variantUIDs.mp hut
  rw [evmTokenIDKeyVariants_of_denotesValue hs] at hs'
  rw [evmTokenIDKeyVariants_of_denotesValue ht] at ht'
  obtain rfl := tokenID_eq_of_createTokenUID ha hb heq
  exact eq_of_mem_tokenSpellings hs.1 ht.1 hs' ht'

lemma comma_notMem_getNFTFromUID (uid : GoString) : comma ∉ (getNFTFromUID uid).2 := by
  by_cases hb : (getNFTFromUID uid).2 = []
  · simp [hb]
  · exact (eq_of_getNFTFromUID rfl hb).2.1

lemma value_eq_of_equal {v w : Nat} (hv : v < 2 ^ 256) (hw : w < 2 ^ 256)
    (ht : equalEVMTokenID (getNFTFromUID (createTokenUID c (text 10 v))).1 (text 10 w) = true)
    (hc : equalContractAddress (getNFTFromUID (createTokenUID c (text 10 v))).2 c = true) : v = w := by
  by_cases hcomma : comma ∈ c
  · -- Such a text is no address, so it is compared letter by letter with a part that has no comma.
    have hhex : isHexAddress c = false := by
      by_contra hne
      exact comma_notMem_of_isHexAddress (by simpa using hne) hcomma
    have heq : (getNFTFromUID (createTokenUID c (text 10 v))).2 = c := by
      simpa [equalContractAddress, hhex] using hc
    have hfree := comma_notMem_getNFTFromUID (createTokenUID c (text 10 v))
    rw [heq] at hfree
    exact absurd hcomma hfree
  · by_cases hnil : c = []
    · have hparts : getNFTFromUID (createTokenUID c (text 10 v)) = ([], []) := by
        have hidx : lastIndexByte comma (createTokenUID c (text 10 v)) = some (text 10 v).length :=
          lastIndexByte_append_cons _ hcomma
        rw [getNFTFromUID, hidx]
        simp [hnil, createTokenUID]
      rw [hparts, equalEVMTokenID] at ht
      have hparse : parseEVMTokenIDValue [] true =
          .error (wrapf .invalidRequest "invalid ERC721 token id %q" [.q []]) := by decide
      simp [hparse, text_ne_nil] at ht
    · rw [getNFTFromUID_createTokenUID (text_ne_nil 10 v) hnil hcomma] at ht
      exact (equalEVMTokenID_iff (denotesValue_text hv) (denotesValue_text hw)).mp ht

/-- The item fits the index behind the items `before`, as told on the index before all of them: the token
id denotes `v`, every spelling of the token that is present is bound to the NFT asked for, a `0x` token id
names a token that is bound or comes up before, the NFT is not bound to another token, and among the items
before the same token goes with the same NFT. -/
structure FitsAs (X : Extern) (st : Store) (c K : GoString) (before : List (GoString × GoString))
    (ids : GoString × GoString) (v : Nat) : Prop where
  denotes : DenotesValue ids.1 v
  agree : Agree st (variantUIDs X c ids.1) (createNFTUID K ids.2)
  gate : has0xPrefix ids.1 = true →
    present st (variantUIDs X c ids.1) ≠ [] ∨ ∃ e ∈ before, DenotesValue e.1 v
  reverse : st.byNFTUID.get (createNFTUID K ids.2) = [] ∨
    st.byNFTUID.get (createNFTUID K ids.2) = createTokenUID (canonicalContractAddress c) (text 10 v) ∨
    (equalEVMTokenID (getNFTFromUID (st.byNFTUID.get (createNFTUID K ids.2))).1 (text 10 v) = true ∧
      equalContractAddress (getNFTFromUID (st.byNFTUID.get (createNFTUID K ids.2))).2
        (canonicalContractAddress c) = true)
  paired : ∀ e ∈ before, DenotesValue e.1 v ↔ e.2 = ids.2

def Fits (X : Extern) (st : Store) (c K : GoString) (before : List (GoString × GoString))
    (ids : GoString × GoString) : Prop :=
  ∃ v, FitsAs X st c K before ids v

lemma denotesValue_unique {t : GoString} {v w : Nat} (hv : DenotesValue t v) (hw : DenotesValue t w) : v = w := by
  have hp := denotesValue_iff_parse.mp hv
  rw [denotesValue_iff_parse.mp hw] at hp
  exact (Prod.mk.inj (Except.ok.inj hp)).1.symm

lemma fitsAs_nil {ids : GoString × GoString} {v : Nat} :
    FitsAs X st c K [] ids v ↔ Accepts X st c ids.1 K ids.2 v (has0xPrefix ids.1) := by
  constructor
  · intro h
    refine ⟨denotesValue_iff_parse.mp h.denotes, h.agree, fun hx => ?_, h.reverse⟩
    simpa using h.gate hx
  · intro h
    refine ⟨denotesValue_iff_parse.mpr h.parse, h.agree, fun hx => .inl (h.gate hx), h.reverse, ?_⟩
    simp

section Step

variable {x y : GoString × GoString} {v w : Nat}

lemma mem_staleKeys {t uid : GoString} : uid ∈ staleKeys X st c t v ↔
    uid ∈ variantUIDs X c t ∧ st.byTokenUID.get uid ≠ [] ∧
      uid ≠ createTokenUID (canonicalContractAddress c) (text 10 v) := by
  simp only [staleKeys, present, List.mem_filter, decide_eq_true_eq, and_assoc]

lemma get_rebind_of_ne (hx : DenotesValue x.1 v) (hy : DenotesValue y.1 w) (hne : v ≠ w) {uid : GoString}
    (huid : uid ∈ variantUIDs X c y.1) :
    (rebind X st c x.1 K x.2 v).byTokenUID.get uid = st.byTokenUID.get uid := by
  have hother : uid ∉ variantUIDs X c x.1 := fun h => hne (value_eq_of_mem_variantUIDs hx hy h huid)
  have hcanon : uid ≠ createTokenUID (canonicalContractAddress c) (text 10 v) := by
    rintro rfl
    exact hother (canonicalUID_mem X c (denotesValue_iff_parse.mp hx))
  have hstale : uid ∉ staleKeys X st c x.1 v := fun h => hother (mem_staleKeys.mp h).1
  rw [KVStore.get, KVStore.get, byTokenUID_rebind, if_neg hcanon, if_neg hstale]

lemma get_rebind_self {uid : GoString} (huid : uid ∈ variantUIDs X c x.1) :
    (rebind X st c x.1 K x.2 v).byTokenUID.get uid =
      if uid = createTokenUID (canonicalContractAddress c) (text 10 v) then createNFTUID K x.2 else [] := by
  rw [KVStore.get, byTokenUID_rebind]
  split
  · rfl
  · next hcanon =>
    split
    · rfl
    · next hstale =>
      by_contra hne
      exact hstale (mem_staleKeys.mpr ⟨huid, hne, hcanon⟩)

lemma createNFTUID_inj {n n' : GoString} : createNFTUID K n = createNFTUID K n' ↔ n = n' := by
  constructor
  · intro h
    exact List.append_cancel_right h
  · rintro rfl
    rfl

lemma get_byNFTUID_rebind (v : Nat) (uid : GoString) : (rebind X st c x.1 K x.2 v).byNFTUID.get uid =
    if uid = createNFTUID K x.2 then createTokenUID (canonicalContractAddress c) (text 10 v)
    else st.byNFTUID.get uid := by
  rw [KVStore.get, byNFTUID_rebind]
  split <;> rfl

/-- Behind a write of the same token an item passes exactly when it asks for the same NFT. -/
lemma fitsAs_rebind_same (hx : FitsAs X st c K [] x v) (hy : DenotesValue y.1 v)
    (before : List (GoString × GoString)) :
    FitsAs X (rebind X st c x.1 K x.2 v) c K before y v ↔ FitsAs X st c K (x :: before) y v := by
  have hkeys : variantUIDs X c y.1 = variantUIDs X c x.1 := variantUIDs_of_denotesValue hy hx.denotes
  have hmem := canonicalUID_mem X c (denotesValue_iff_parse.mp hx.denotes)
  have hcanon : (rebind X st c x.1 K x.2 v).byTokenUID.get
      (createTokenUID (canonicalContractAddress c) (text 10 v)) = createNFTUID K x.2 := by
    rw [get_rebind_self hmem, if_pos rfl]
  constructor
  · intro h
    have hsame : x.2 = y.2 := by
      rcases h.agree _ (hkeys ▸ hmem) with hnil | heq
      · exact absurd (hcanon.symm.trans hnil) (createNFTUID_ne_nil K x.2)
      · exact createNFTUID_inj.mp (hcanon.symm.trans heq)
    refine ⟨hy, ?_, fun _ => .inr ⟨x, List.mem_cons_self, hx.denotes⟩, ?_, ?_⟩
    · rw [hkeys, ← hsame]
      exact hx.agree
    · rw [← hsame]
      exact hx.reverse
    · intro e he
      rcases List.mem_cons.mp he with rfl | he
      · simp [hx.denotes, hsame]
      · exact h.paired e he
  · intro h
    have hsame : x.2 = y.2 := (h.paired x List.mem_cons_self).mp hx.denotes
    refine ⟨hy, ?_, fun _ => .inl ?_, .inr (.inl ?_), fun e he => h.paired e (List.mem_cons_of_mem _ he)⟩
    · intro uid huid
      rw [get_rebind_self (hkeys ▸ huid), hsame]
      split <;> simp
    · apply List.ne_nil_of_mem (a := createTokenUID (canonicalContractAddress c) (text 10 v))
      simp [present, hkeys, hmem, hcanon]
    · rw [get_byNFTUID_rebind, hsame, if_pos rfl]

/-- Behind a write of another token an item passes exactly when it asks for another NFT and passed before. -/
lemma fitsAs_rebind_other (hx : FitsAs X st c K [] x v) (hy : DenotesValue y.1 w) (hne : v ≠ w)
    (before : List (GoString × GoString)) :
    FitsAs X (rebind X st c x.1 K x.2 v) c K before y w ↔ FitsAs X st c K (x :: before) y w := by
  have hkept : ∀ uid ∈ variantUIDs X c y.1,
      (rebind X st c x.1 K x.2 v).byTokenUID.get uid = st.byTokenUID.get uid :=
    fun uid huid => get_rebind_of_ne hx.denotes hy hne huid
  have hpresent : present (rebind X st c x.1 K x.2 v) (variantUIDs X c y.1) =
      present st (variantUIDs X c y.1) := by
    apply List.filter_congr
    intro uid huid
    rw [hkept uid huid]
  have hagree : Agree (rebind X st c x.1 K x.2 v) (variantUIDs X c y.1) (createNFTUID K y.2) ↔
      Agree st (variantUIDs X c y.1) (createNFTUID K y.2) := by
    constructor
    · intro h uid huid
      rw [← hkept uid huid]
      exact h uid huid
    · intro h uid huid
      rw [hkept uid huid]
      exact h uid huid
  have hnot : ¬ DenotesValue x.1 w := fun h => hne (denotesValue_unique hx.denotes h)
  constructor
  · intro h
    have hapart : x.2 ≠ y.2 := by
      intro hsame
      have hrev := h.reverse
      rw [get_byNFTUID_rebind, hsame, if_pos rfl] at hrev
      rcases hrev with hnil | heq | ⟨ht, hc⟩
      · exact createTokenUID_ne_nil _ _ hnil
      · exact hne (text_injective (by decide) (by decide) (List.append_cancel_right heq))
      · exact hne (value_eq_of_equal hx.denotes.1 hy.1 ht hc)
    have hother : createNFTUID K y.2 ≠ createNFTUID K x.2 := fun h => hapart (createNFTUID_inj.mp h).symm
    refine ⟨hy, hagree.mp h.agree, fun h0x => ?_, ?_, ?_⟩
    · rcases h.gate h0x with hbound | ⟨e, he, hev⟩
      · exact .inl (hpresent ▸ hbound)
      · exact .inr ⟨e, List.mem_cons_of_mem _ he, hev⟩
    · have hrev := h.reverse
      rwa [get_byNFTUID_rebind, if_neg hother] at hrev
    · intro e he
      rcases List.mem_cons.mp he with rfl | he
      · simp [hnot, hapart]
      · exact h.paired e he
  · intro h
    have hapart : x.2 ≠ y.2 := fun hsame => hnot ((h.paired x List.mem_cons_self).mpr hsame)
    have hother : createNFTUID K y.2 ≠ createNFTUID K x.2 := fun h => hapart (createNFTUID_inj.mp h).symm
    refine ⟨hy, hagree.mpr h.agree, fun h0x => ?_, ?_, fun e he => h.paired e (List.mem_cons_of_mem _ he)⟩
    · rcases h.gate h0x with hbound | ⟨e, he, hev⟩
      · exact .inl (hpresent.symm ▸ hbound)
      · rcases List.mem_cons.mp he with rfl | he
        · exact absurd hev hnot
        · exact .inr ⟨e, he, hev⟩
    · rw [get_byNFTUID_rebind, if_neg hother]
      exact h.reverse

lemma fits_rebind_iff (hx : FitsAs X st c K [] x v) (before : List (GoString × GoString))
    (y : GoString × GoString) :
    Fits X (rebind X st c x.1 K x.2 v) c K before y ↔ Fits X st c K (x :: before) y := by
  apply exists_congr
  intro w
  by_cases hy : DenotesValue y.1 w
  · by_cases hvw : v = w
    · subst hvw
      exact fitsAs_rebind_same hx hy before
    · exact fitsAs_rebind_other hx hy hvw before
  · exact ⟨fun h => absurd h.denotes hy, fun h => absurd h.denotes hy⟩

end Step

/-- The token is bound to the NFT asked for, or to none. -/
def AskedFor (X : Extern) (st : Store) (c K : GoString) (ids : GoString × GoString) : Prop :=
  getNFTPairByContractTokenID X st c ids.1 = [] ∨ getNFTPairByContractTokenID X st c ids.1 = createNFTUID K ids.2

/-- An item that the check and the write see alike. Its token id is a `uint256`. If the token is bound, all its
keys are bound to the NFT asked for, whose record names the token with this very text. If it is not bound, the
token id is written in base 10 and the NFT asked for has no record. -/
structure Settled (X : Extern) (st : Store) (c K : GoString) (ids : GoString × GoString) : Prop where
  value : Parseable ids.1
  bound : getNFTPairByContractTokenID X st c ids.1 ≠ [] →
    Agree st (variantUIDs X c ids.1) (createNFTUID K ids.2) ∧
      ∃ a ∈ contractAddressKeyVariants X c, getNFTFromUID (st.byNFTUID.get (createNFTUID K ids.2)) = (ids.1, a)
  unbound : getNFTPairByContractTokenID X st c ids.1 = [] →
    has0xPrefix ids.1 = false ∧ st.byNFTUID.get (createNFTUID K ids.2) = []

/-- Every item is settled, and no value and no NFT comes up twice with different partners. -/
structure SettledBatch (X : Extern) (st : Store) (c K : GoString) (batch : List (GoString × GoString)) : Prop where
  items : ∀ ids ∈ batch, Settled X st c K ids
  partners : ∀ e ∈ batch, ∀ ids ∈ batch, ∀ v, DenotesValue ids.1 v → (DenotesValue e.1 v ↔ e.2 = ids.2)

lemma equalContractAddress_of_mem_variants {a : GoString} (ha : a ∈ contractAddressKeyVariants X c) :
    equalContractAddress a (canonicalContractAddress c) = true := by
  by_cases hc : isHexAddress c = true
  · have hcanon : isHexAddress (canonicalContractAddress c) = true := by
      rw [canonicalContractAddress, if_pos hc, isHexAddress_toLower, hc]
    rw [equalContractAddress_of_hex (isHexAddress_of_mem_variants hc ha) hcanon,
      hexToAddress_of_mem_variants hc ha, hexToAddress_of_mem_variants hc (canonicalContractAddress_mem X c)]
  · have hone : contractAddressKeyVariants X c = [canonicalContractAddress c] := by
      simp [contractAddressKeyVariants, checksumContractAddress, hc]
    rw [hone, List.mem_singleton] at ha
    exact equalContractAddress_of_canonical (congrArg _ ha)

lemma Settled.agree {ids : GoString × GoString} (h : Settled X st c K ids) :
    Agree st (variantUIDs X c ids.1) (createNFTUID K ids.2) := by
  by_cases hbound : getNFTPairByContractTokenID X st c ids.1 = []
  · exact fun uid huid => .inl (resolveNFTUIDPair_eq_nil_iff.mp hbound uid huid)
  · exact (h.bound hbound).1

lemma SettledBatch.fits {before after : List (GoString × GoString)} {ids : GoString × GoString}
    (h : SettledBatch X st c K (before ++ ids :: after)) : Fits X st c K before ids := by
  have hids := h.items ids (by simp)
  obtain ⟨v, hv⟩ := hids.value
  refine ⟨v, hv, hids.agree, fun h0x => ?_, ?_, fun e he => h.partners e (by simp [he]) ids (by simp) v hv⟩
  · by_cases hbound : getNFTPairByContractTokenID X st c ids.1 = []
    · rw [(hids.unbound hbound).1] at h0x
      cases h0x
    · obtain ⟨uid, huid, hget, -⟩ := exists_of_resolveNFTUIDPair rfl hbound
      have hheld : st.byTokenUID.get uid ≠ [] := fun h => hbound (hget.symm.trans h)
      exact .inl (List.ne_nil_of_mem (a := uid) (by simp [present, huid, hheld]))
  · by_cases hbound : getNFTPairByContractTokenID X st c ids.1 = []
    · exact .inl (hids.unbound hbound).2
    · obtain ⟨-, a, ha, hrecord⟩ := hids.bound hbound
      rw [hrecord]
      exact .inr (.inr ⟨(equalEVMTokenID_iff hv (denotesValue_text hv.1)).mpr rfl,
        equalContractAddress_of_mem_variants ha⟩)

lemma FitsAs.askedFor {before : List (GoString × GoString)} {ids : GoString × GoString} {v : Nat}
    (h : FitsAs X st c K before ids v) : AskedFor X st c K ids := by
  by_cases hbound : getNFTPairByContractTokenID X st c ids.1 = []
  · exact .inl hbound
  · obtain ⟨uid, huid, hget, -⟩ := exists_of_resolveNFTUIDPair rfl hbound
    right
    rcases h.agree uid huid with hnil | heq
    · exact absurd (hget.symm.trans hnil) hbound
    · exact hget.symm.trans heq

end

variable {C : Chain} {st : Store}

lemma bindPairs_eq_ok_iff (c K : GoString) (batch : List (GoString × GoString)) :
    (∃ st', bindPairs (C := C) st c K batch = .ok st') ↔
      ∀ before ids after, batch = before ++ ids :: after → Fits C.toExtern st c K before ids := by
  apply forEach_fits
  · intro st ids
    constructor
    · rintro ⟨st', h⟩
      obtain ⟨v, legacy, hacc, -⟩ := bindPair_eq_ok.mp h
      have hlegacy : legacy = has0xPrefix ids.1 := by simpa using (parseEVMTokenIDValue_eq_ok.mp hacc.parse).1
      exact ⟨v, fitsAs_nil.mpr (hlegacy ▸ hacc)⟩
    · rintro ⟨v, h⟩
      exact ⟨_, bindPair_eq_ok.mpr ⟨v, _, fitsAs_nil.mp h, rfl⟩⟩
  · intro st ids st' before next h
    obtain ⟨v, legacy, hacc, rfl⟩ := bindPair_eq_ok.mp h
    have hlegacy : legacy = has0xPrefix ids.1 := by simpa using (parseEVMTokenIDValue_eq_ok.mp hacc.parse).1
    exact fits_rebind_iff (fitsAs_nil.mpr (hlegacy ▸ hacc)) before next

def MsgConvertERC721.withBatch (msg : MsgConvertERC721) (batch : List (GoString × GoString)) : MsgConvertERC721 :=
  { msg with
    evmTokenIds := batch.map Prod.fst
    cosmosTokenIds := batch.map Prod.snd }

lemma validateNoMappingConflict_withBatch (msg : MsgConvertERC721) (batch : List (GoString × GoString)) :
    validateNoMappingConflict (C := C) st (msg.withBatch batch) = .ok () ↔
      ∀ ids ∈ batch, checkNoMappingConflict (C := C) st msg ids = .ok () := by
  have hitems : (msg.withBatch batch).evmTokenIds.zip (msg.withBatch batch).cosmosTokenIds = batch := by
    simp [MsgConvertERC721.withBatch, List.zip_map']
  rw [validateNoMappingConflict_eq_ok, hitems]
  rfl

lemma Settled.check {msg : MsgConvertERC721} {ids : GoString × GoString}
    (h : Settled C.toExtern st msg.evmContractAddress msg.classId ids) :
    checkNoMappingConflict (C := C) st msg ids = .ok () := by
  rw [checkNoMappingConflict_eq_ok]
  by_cases hbound : getNFTPairByContractTokenID C.toExtern st msg.evmContractAddress ids.1 = []
  · exact .inl hbound
  · obtain ⟨hagree, a, -, hrecord⟩ := h.bound hbound
    obtain ⟨uid, huid, hget, -⟩ := exists_of_resolveNFTUIDPair rfl hbound
    right
    constructor
    · rcases hagree uid huid with hnil | heq
      · exact absurd (hget.symm.trans hnil) hbound
      · exact hget.symm.trans heq
    · right
      rw [getTokenUIDPairByNFTUID, hrecord]

/-- The check and the writes reach the same verdict about a batch when some token of it is bound to another NFT
than the one asked for (both refuse), and when the batch is settled (both accept). -/
theorem validateNoMappingConflict_agrees (C : Chain) (st : Store) (msg : MsgConvertERC721)
    (batch : List (GoString × GoString))
    (h : (∃ ids ∈ batch, ¬ AskedFor C.toExtern st msg.evmContractAddress msg.classId ids) ∨
      SettledBatch C.toExtern st msg.evmContractAddress msg.classId batch) :
    validateNoMappingConflict (C := C) st (msg.withBatch batch) = .ok () ↔
      ∃ st', bindPairs (C := C) st msg.evmContractAddress msg.classId batch = .ok st' := by
  rw [validateNoMappingConflict_withBatch, bindPairs_eq_ok_iff]
  rcases h with ⟨ids, hids, helse⟩ | hbatch
  · refine iff_of_false (fun hcheck => helse ?_) fun hfits => helse ?_
    · exact (checkNoMappingConflict_eq_ok.mp (hcheck ids hids)).imp_right And.left
    · obtain ⟨before, after, rfl⟩ := List.append_of_mem hids
      obtain ⟨v, hv⟩ := hfits before ids after rfl
      exact hv.askedFor
  · refine iff_of_true (fun ids hids => (hbatch.items ids hids).check) ?_
    rintro before ids after rfl
    exact hbatch.fits

/-- Bob's message about the sample contract and the class `kitty`. -/
def kittyMsg : MsgConvertERC721 :=
  ⟨Sample.contract, [], Sample.accString Sample.bob, Sample.accString Sample.bob, str "kitty", []⟩

lemma settledBatch_as_stored : SettledBatch Sample.X legacyStore Sample.contract (str "kitty")
    [(str "0x05", str "cat1"), (str "7", str "cat2")] := by
  have hfive : DenotesValue (str "0x05") 5 := denotesValue_iff_parse.mpr (by decide +kernel)
  have hseven : DenotesValue (str "7") 7 := denotesValue_iff_parse.mpr (by decide +kernel)
  have h57 : ¬ DenotesValue (str "0x05") 7 := fun h => absurd (denotesValue_unique hfive h) (by decide)
  have h75 : ¬ DenotesValue (str "7") 5 := fun h => absurd (denotesValue_unique hseven h) (by decide)
  constructor
  · intro ids hids
    rcases List.mem_pair.mp hids with rfl | rfl
    · refine ⟨⟨5, hfive⟩, fun _ => ⟨?_, Sample.contract, by decide +kernel, by decide +kernel⟩, fun h => ?_⟩
      · unfold Agree
        decide +kernel
      · exact absurd h (by decide +kernel)
    · exact ⟨⟨7, hseven⟩, fun h => absurd (show _ = _ by decide +kernel) h, fun _ => by decide +kernel⟩
  · intro e he ids hids v hv
    rcases List.mem_pair.mp hids with rfl | rfl
    · obtain rfl := denotesValue_unique hfive hv
      rcases List.mem_pair.mp he with rfl | rfl
      · exact iff_of_true hfive rfl
      · exact iff_of_false h75 (by decide)
    · obtain rfl := denotesValue_unique hseven hv
      rcases List.mem_pair.mp he with rfl | rfl
      · exact iff_of_false h57 (by decide)
      · exact iff_of_true hseven rfl

/-- Both accept the settled batch, and both refuse to bind token 5 to another NFT. -/
theorem validateNoMappingConflict_agrees_as_stored :
    ExactInverse legacyStore ∧
    (validateNoMappingConflict (C := Sample.chain) legacyStore
        (kittyMsg.withBatch [(str "0x05", str "cat1"), (str "7", str "cat2")])).toBool = true ∧
    (validateNoMappingConflict (C := Sample.chain) legacyStore
        (kittyMsg.withBatch [(str "0x05", str "cat1"), (str "7", str "cat2")]) = .ok () ↔
      ∃ st', bindPairs (C := Sample.chain) legacyStore kittyMsg.evmContractAddress kittyMsg.classId
        [(str "0x05", str "cat1"), (str "7", str "cat2")] = .ok st') ∧
    (validateNoMappingConflict (C := Sample.chain) legacyStore
        (kittyMsg.withBatch [(str "0x05", str "cat2")]) = .ok () ↔
      ∃ st', bindPairs (C := Sample.chain) legacyStore kittyMsg.evmContractAddress kittyMsg.classId
        [(str "0x05", str "cat2")] = .ok st') := by
  refine ⟨wellFormed_legacyStore.exact, by decide +kernel, ?_, ?_⟩
  · exact validateNoMappingConflict_agrees Sample.chain legacyStore kittyMsg _ (.inr settledBatch_as_stored)
  · refine validateNoMappingConflict_agrees Sample.chain legacyStore kittyMsg _
      (.inl ⟨_, List.mem_singleton_self _, ?_⟩)
    unfold AskedFor
    decide +kernel

/-- Two batches on the index in which token 5 is stored as `0x05` and bound to `cat1`. The unbound token 7
for `cat1` passes the check and is refused by the write; token 5 in base 10 for `cat1` is refused by the
check and accepted by the write. -/
theorem validateNoMappingConflict_disagrees :
    ExactInverse legacyStore ∧
    (validateNoMappingConflict (C := Sample.chain) legacyStore
        (kittyMsg.withBatch [(str "7", str "cat1")])).toBool = true ∧
      (bindPairs (C := Sample.chain) legacyStore kittyMsg.evmContractAddress kittyMsg.classId
        [(str "7", str "cat1")]).toBool = false ∧
    (validateNoMappingConflict (C := Sample.chain) legacyStore
        (kittyMsg.withBatch [(str "5", str "cat1")])).toBool = false ∧
      (bindPairs (C := Sample.chain) legacyStore kittyMsg.evmContractAddress kittyMsg.classId
        [(str "5", str "cat1")]).toBool = true :=
  ⟨wellFormed_legacyStore.exact, by decide +kernel, by decide +kernel, by decide +kernel, by decide +kernel⟩

end Uptick.Erc721
