import Uptick.Erc721.Pairs

/-!
# Reading and writing the pair index

What `ResolveNFTUIDPair`, `SetNFTPairs` and `DeleteNFTPairByTokenID` do on an arbitrary store: the
probing loop of a write accepts the store when all spellings of the token that are present are bound
to one NFT, and an accepted write leaves that NFT under the canonical spelling alone.
-/

namespace Uptick.Erc721

open Text Numeral Evm Outcome

/-- The keys probed for a token. -/
def variantUIDs (X : Extern) (contractAddress tokenID : GoString) : List GoString :=
  (keyVariants X contractAddress tokenID).map Prod.snd

section

variable {X : Extern} {st : Store} {contractAddress tokenID classID nftID : GoString}

lemma mem_variantUIDs {uid : GoString} : uid ∈ variantUIDs X contractAddress tokenID ↔
    ∃ t ∈ evmTokenIDKeyVariants tokenID, ∃ c ∈ contractAddressKeyVariants X contractAddress,
      uid = createTokenUID c t := by
  simp only [variantUIDs, keyVariants, List.mem_map, List.mem_flatMap]
  constructor
  · rintro ⟨k, ⟨t, ht, c, hc, rfl⟩, rfl⟩
    exact ⟨t, ht, c, hc, rfl⟩
  · rintro ⟨t, ht, c, hc, rfl⟩
    exact ⟨_, ⟨t, ht, c, hc, rfl⟩, rfl⟩

lemma canonicalContractAddress_mem (X : Extern) (contractAddress : GoString) :
    canonicalContractAddress contractAddress ∈ contractAddressKeyVariants X contractAddress := by
  unfold contractAddressKeyVariants
  dsimp only
  split
  · split <;> simp
  · simp

lemma keyVariants_of_parse {v : Nat} {legacy : Bool}
    (h : parseEVMTokenIDValue tokenID true = .ok (v, legacy)) :
    keyVariants X contractAddress (text 10 v) = keyVariants X contractAddress tokenID := by
  have hv : v < 2 ^ 256 := (parseEVMTokenIDValue_eq_ok.mp h).2.1
  rw [keyVariants, keyVariants, evmTokenIDKeyVariants_of_parse h,
    evmTokenIDKeyVariants_of_parse (parse_text hv true)]

lemma canonicalUID_mem (X : Extern) (contractAddress : GoString) {v : Nat} {legacy : Bool}
    (h : parseEVMTokenIDValue tokenID true = .ok (v, legacy)) :
    createTokenUID (canonicalContractAddress contractAddress) (text 10 v) ∈
      variantUIDs X contractAddress tokenID := by
  refine mem_variantUIDs.mpr ⟨text 10 v, ?_, _, canonicalContractAddress_mem X contractAddress, rfl⟩
  rw [evmTokenIDKeyVariants_of_parse h]
  simp [tokenSpellings]

lemma resolveNFTUIDPair_eq_nil_iff :
    (resolveNFTUIDPair X st contractAddress tokenID).1 = [] ↔
      ∀ uid ∈ variantUIDs X contractAddress tokenID, st.byTokenUID.get uid = [] := by
  unfold resolveNFTUIDPair
  cases hfind : (keyVariants X contractAddress tokenID).find?
      (fun k => getNFTUIDPairByTokenUID st k.2 ≠ []) with
  | none =>
    simp only [List.find?_eq_none, decide_eq_true_eq, ne_eq, not_not] at hfind
    simp only [true_iff, variantUIDs, List.mem_map]
    rintro uid ⟨k, hk, rfl⟩
    exact hfind k hk
  | some k =>
    have hne := List.find?_some hfind
    simp only [decide_eq_true_eq] at hne
    constructor
    · intro h
      exact absurd h hne
    · intro h
      exact absurd (h k.2 (List.mem_map_of_mem (List.mem_of_find?_eq_some hfind))) hne

lemma exists_of_resolveNFTUIDPair {nftUID matched : GoString}
    (h : resolveNFTUIDPair X st contractAddress tokenID = (nftUID, matched)) (hne : nftUID ≠ []) :
    ∃ uid ∈ variantUIDs X contractAddress tokenID, st.byTokenUID.get uid = nftUID ∧
      st.byTokenUID.get? uid = some nftUID := by
  unfold resolveNFTUIDPair at h
  split at h
  · rename_i t uid hfind
    obtain ⟨rfl, rfl⟩ := Prod.mk.inj h
    refine ⟨uid, List.mem_map_of_mem (f := Prod.snd) (List.mem_of_find?_eq_some hfind), rfl, ?_⟩
    exact KVStore.get?_of_get rfl hne
  · exact absurd (Prod.mk.inj h).1.symm hne

lemma byTokenUID_foldl_delete (st : Store) (uids : List GoString) :
    uids.foldl deleteNFTUIDPairByTokenUID st = { st with byTokenUID := st.byTokenUID.deleteAll uids } := by
  induction uids generalizing st with
  | nil => rfl
  | cons uid uids ih =>
    rw [List.foldl_cons, ih]
    rfl

lemma deleteNFTPairByTokenID_eq (X : Extern) (st : Store) (contractAddress tokenID : GoString) :
    deleteNFTPairByTokenID X st contractAddress tokenID =
      { st with byTokenUID := st.byTokenUID.deleteAll (variantUIDs X contractAddress tokenID) } := by
  rw [← byTokenUID_foldl_delete, variantUIDs, List.foldl_map]
  rfl

def present (st : Store) (uids : List GoString) : List GoString :=
  uids.filter fun uid => st.byTokenUID.get uid ≠ []

/-- All probed keys that hold an NFT hold this one. -/
def Agree (st : Store) (uids : List GoString) (nftUID : GoString) : Prop :=
  ∀ uid ∈ uids, st.byTokenUID.get uid = [] ∨ st.byTokenUID.get uid = nftUID

lemma probeVariant_eq_ok {tokenUID ct uid : GoString} {p q : Probe} :
    probeVariant st tokenUID ct contractAddress p uid = .ok q ↔
      (st.byTokenUID.get uid = [] ∧ q = p) ∨
      (st.byTokenUID.get uid ≠ [] ∧ st.byTokenUID.get uid = p.boundNFT.getD (st.byTokenUID.get uid) ∧
        q = ⟨some (p.boundNFT.getD (st.byTokenUID.get uid)),
          if uid ≠ tokenUID then p.staleKeys ++ [uid] else p.staleKeys, p.foundForms + 1⟩) := by
  unfold probeVariant getNFTUIDPairByTokenUID
  dsimp only
  split
  · rename_i h
    constructor
    · intro hq
      exact Or.inl ⟨h, (Except.ok.inj hq).symm⟩
    · rintro (⟨-, rfl⟩ | ⟨hne, -⟩)
      · rfl
      · exact absurd h hne
  · rename_i h
    rw [require_bind_eq_ok]
    constructor
    · rintro ⟨hsame, hq⟩
      exact Or.inr ⟨h, hsame, (Except.ok.inj hq).symm⟩
    · rintro (⟨hnil, -⟩ | ⟨-, hsame, rfl⟩)
      · exact absurd hnil h
      · exact ⟨hsame, rfl⟩

lemma probe_of_agree {tokenUID ct nftUID : GoString} {uids : List GoString} (p : Probe)
    (h : Agree st uids nftUID) (hp : p.boundNFT = none ∨ p.boundNFT = some nftUID) :
    forEach (probeVariant st tokenUID ct contractAddress) p uids =
      .ok ⟨if present st uids = [] then p.boundNFT else some nftUID,
        p.staleKeys ++ (present st uids).filter (· ≠ tokenUID), p.foundForms + (present st uids).length⟩ := by
  induction uids generalizing p with
  | nil => simp [present]
  | cons uid uids ih =>
    have htail : Agree st uids nftUID := fun u hu => h u (by simp [hu])
    by_cases hget : st.byTokenUID.get uid = []
    · have hstep : probeVariant st tokenUID ct contractAddress p uid = .ok p := by
        exact probeVariant_eq_ok.mpr (Or.inl ⟨hget, rfl⟩)
      have hpres : present st (uid :: uids) = present st uids := by simp [present, hget]
      rw [forEach, hstep, ok_bind, ih p htail hp, hpres]
    · have hstored : st.byTokenUID.get uid = nftUID := (h uid (by simp)).resolve_left hget
      have hnil : nftUID ≠ [] := hstored ▸ hget
      have hbound : p.boundNFT.getD nftUID = nftUID := by
        rcases hp with hp | hp <;> simp [hp]
      let q : Probe := ⟨some nftUID, if uid ≠ tokenUID then p.staleKeys ++ [uid] else p.staleKeys,
        p.foundForms + 1⟩
      have hstep : probeVariant st tokenUID ct contractAddress p uid = .ok q := by
        exact probeVariant_eq_ok.mpr (Or.inr ⟨hget, by rw [hstored, hbound], by rw [hstored, hbound]⟩)
      have hpres : present st (uid :: uids) = uid :: present st uids := by simp [present, hget]
      rw [forEach, hstep, ok_bind, ih q htail (Or.inr rfl), hpres]
      congr 2
      · simp [q]
      · by_cases huid : uid = tokenUID <;> simp [q, huid]
      · simp only [q, List.length_cons]
        omega

lemma agree_of_probe {tokenUID ct : GoString} {uids : List GoString} {p q : Probe}
    (h : forEach (probeVariant st tokenUID ct contractAddress) p uids = .ok q) :
    ∃ nftUID, Agree st uids nftUID ∧ (p.boundNFT = none ∨ p.boundNFT = some nftUID) := by
  induction uids generalizing p with
  | nil =>
    cases hb : p.boundNFT with
    | none => exact ⟨[], by simp [Agree], Or.inl rfl⟩
    | some b => exact ⟨b, by simp [Agree], Or.inr rfl⟩
  | cons uid uids ih =>
    obtain ⟨r, hr, hrest⟩ := forEach_cons_eq_ok.mp h
    obtain ⟨nftUID, hagree, hbound⟩ := ih hrest
    rcases probeVariant_eq_ok.mp hr with ⟨hget, rfl⟩ | ⟨hget, hsame, rfl⟩
    · refine ⟨nftUID, fun u hu => ?_, hbound⟩
      rcases List.mem_cons.mp hu with rfl | hu
      · exact Or.inl hget
      · exact hagree u hu
    · have hnft : p.boundNFT.getD (st.byTokenUID.get uid) = nftUID := by simpa using hbound
      refine ⟨nftUID, fun u hu => ?_, ?_⟩
      · rcases List.mem_cons.mp hu with rfl | hu
        · exact Or.inr (hsame.trans hnft)
        · exact hagree u hu
      · cases hb : p.boundNFT with
        | none => exact Or.inl rfl
        | some b =>
          rw [hb, Option.getD_some] at hnft
          exact Or.inr (by rw [hnft])

/-- The conditions under which `SetNFTPairs` writes: the token id denotes `v`, every spelling of the
token that is present is bound to this very NFT, a `0x` token id names a binding that exists, and the
NFT is not bound to another token. -/
structure Accepts (X : Extern) (st : Store) (contractAddress tokenID classID nftID : GoString)
    (v : Nat) (legacy : Bool) : Prop where
  parse : parseEVMTokenIDValue tokenID true = .ok (v, legacy)
  agree : Agree st (variantUIDs X contractAddress tokenID) (createNFTUID classID nftID)
  gate : legacy = true → present st (variantUIDs X contractAddress tokenID) ≠ []
  reverse : st.byNFTUID.get (createNFTUID classID nftID) = [] ∨
    st.byNFTUID.get (createNFTUID classID nftID) =
      createTokenUID (canonicalContractAddress contractAddress) (text 10 v) ∨
    (equalEVMTokenID (getNFTFromUID (st.byNFTUID.get (createNFTUID classID nftID))).1 (text 10 v) = true ∧
      equalContractAddress (getNFTFromUID (st.byNFTUID.get (createNFTUID classID nftID))).2
        (canonicalContractAddress contractAddress) = true)

/-- The stale spellings that a write of token `v` drops. -/
def staleKeys (X : Extern) (st : Store) (contractAddress tokenID : GoString) (v : Nat) : List GoString :=
  (present st (variantUIDs X contractAddress tokenID)).filter
    (· ≠ createTokenUID (canonicalContractAddress contractAddress) (text 10 v))

def rebind (X : Extern) (st : Store) (contractAddress tokenID classID nftID : GoString) (v : Nat) : Store :=
  { st with
    byTokenUID := (st.byTokenUID.set (createTokenUID (canonicalContractAddress contractAddress) (text 10 v))
      (createNFTUID classID nftID)).deleteAll (staleKeys X st contractAddress tokenID v)
    byNFTUID := st.byNFTUID.set (createNFTUID classID nftID)
      (createTokenUID (canonicalContractAddress contractAddress) (text 10 v)) }

lemma checkNFTPairs_of_accepts {v : Nat} {legacy : Bool}
    (h : Accepts X st contractAddress tokenID classID nftID v legacy) :
    checkNFTPairs X st contractAddress tokenID classID nftID =
      .ok (canonicalContractAddress contractAddress, text 10 v, staleKeys X st contractAddress tokenID v) := by
  have hcanon : canonicalEVMTokenID tokenID = .ok (text 10 v, legacy) :=
    canonicalEVMTokenID_eq_ok.mpr ⟨v, h.parse, rfl⟩
  have hkeys : (keyVariants X contractAddress (text 10 v)).map Prod.snd =
      variantUIDs X contractAddress tokenID := by
    rw [keyVariants_of_parse h.parse]
    rfl
  unfold checkNFTPairs
  rw [hcanon, ok_bind]
  dsimp only
  rw [hkeys, probe_of_agree _ h.agree (Or.inl rfl), ok_bind]
  dsimp only
  rw [require_of, ok_bind, require_of, ok_bind, require_of]
  · rfl
  · exact h.reverse
  · rintro ⟨hnone, hleg⟩
    refine h.gate hleg (List.eq_nil_of_length_eq_zero ?_)
    omega
  · by_cases hp : present st (variantUIDs X contractAddress tokenID) = []
    · simp [hp]
    · simp [hp]

lemma accepts_of_checkNFTPairs {r : GoString × GoString × List GoString}
    (h : checkNFTPairs X st contractAddress tokenID classID nftID = .ok r) :
    ∃ v legacy, Accepts X st contractAddress tokenID classID nftID v legacy := by
  unfold checkNFTPairs at h
  obtain ⟨⟨canonical, legacy⟩, hcanon, h⟩ := bind_eq_ok.mp h
  obtain ⟨v, hparse, rfl⟩ := canonicalEVMTokenID_eq_ok.mp hcanon
  have hkeys : (keyVariants X contractAddress (text 10 v)).map Prod.snd =
      variantUIDs X contractAddress tokenID := by
    rw [keyVariants_of_parse hparse]
    rfl
  dsimp only at h
  rw [hkeys] at h
  obtain ⟨probe, hprobe, h⟩ := bind_eq_ok.mp h
  obtain ⟨bound, hagree, -⟩ := agree_of_probe hprobe
  rw [probe_of_agree _ hagree (Or.inl rfl)] at hprobe
  obtain rfl := Except.ok.inj hprobe
  obtain ⟨hbound, h⟩ := require_bind_eq_ok.mp h
  obtain ⟨hgate, h⟩ := require_bind_eq_ok.mp h
  obtain ⟨hreverse, -⟩ := require_bind_eq_ok.mp h
  refine ⟨v, legacy, hparse, ?_, ?_, hreverse⟩
  · by_cases hp : present st (variantUIDs X contractAddress tokenID) = []
    · intro uid huid
      left
      by_contra hne
      have hmem : uid ∈ present st (variantUIDs X contractAddress tokenID) := by
        simp [present, huid, hne]
      rw [hp] at hmem
      exact List.not_mem_nil hmem
    · rw [if_neg hp, Option.getD_some] at hbound
      obtain ⟨uid, huid⟩ := List.exists_mem_of_ne_nil _ hp
      simp only [present, List.mem_filter, decide_eq_true_eq] at huid
      have hboundNe : bound ≠ [] := (hagree uid huid.1).resolve_left huid.2 ▸ huid.2
      rw [← hbound.resolve_left hboundNe]
      exact hagree
  · intro hleg hp
    exact hgate ⟨by simp [hp], hleg⟩

/-- `SetNFTPairs` writes exactly when its conditions hold, and then rebinds the token. -/
theorem setNFTPairs_eq_ok {st' : Store} :
    setNFTPairs X st contractAddress tokenID classID nftID = (.ok (), st') ↔
      ∃ v legacy, Accepts X st contractAddress tokenID classID nftID v legacy ∧
        st' = rebind X st contractAddress tokenID classID nftID v := by
  have hwrite : ∀ {v legacy}, Accepts X st contractAddress tokenID classID nftID v legacy →
      setNFTPairs X st contractAddress tokenID classID nftID =
        (.ok (), rebind X st contractAddress tokenID classID nftID v) := by
    intro v legacy hacc
    rw [setNFTPairs, checkNFTPairs_of_accepts hacc]
    dsimp only
    rw [byTokenUID_foldl_delete]
    rfl
  constructor
  · intro h
    cases hcheck : checkNFTPairs X st contractAddress tokenID classID nftID with
    | error e =>
      rw [setNFTPairs, hcheck] at h
      cases h
    | ok r =>
      obtain ⟨v, legacy, hacc⟩ := accepts_of_checkNFTPairs hcheck
      rw [hwrite hacc] at h
      exact ⟨v, legacy, hacc, (Prod.mk.inj h).2.symm⟩
  · rintro ⟨v, legacy, hacc, rfl⟩
    exact hwrite hacc

lemma setNFTPairs_error {e : Error} {st' : Store}
    (h : setNFTPairs X st contractAddress tokenID classID nftID = (.error e, st')) : st' = st := by
  unfold setNFTPairs at h
  split at h
  · exact (Prod.mk.inj h).2.symm
  · cases (Prod.mk.inj h).1

lemma byTokenUID_rebind (v : Nat) (uid : GoString) :
    (rebind X st contractAddress tokenID classID nftID v).byTokenUID.get? uid =
      if uid = createTokenUID (canonicalContractAddress contractAddress) (text 10 v) then
        some (createNFTUID classID nftID)
      else if uid ∈ staleKeys X st contractAddress tokenID v then none
      else st.byTokenUID.get? uid := by
  simp only [rebind, KVStore.get?_deleteAll, KVStore.get?_set _ (createTokenUID_ne_nil _ _)]
  by_cases huid : uid = createTokenUID (canonicalContractAddress contractAddress) (text 10 v)
  · have hnot : uid ∉ staleKeys X st contractAddress tokenID v := by
      simp [staleKeys, huid]
    rw [if_neg hnot, if_pos huid, if_pos huid]
  · rw [if_neg huid, if_neg huid]

lemma byNFTUID_rebind (v : Nat) (uid : GoString) :
    (rebind X st contractAddress tokenID classID nftID v).byNFTUID.get? uid =
      if uid = createNFTUID classID nftID then
        some (createTokenUID (canonicalContractAddress contractAddress) (text 10 v))
      else st.byNFTUID.get? uid := by
  simp only [rebind, KVStore.get?_set _ (createNFTUID_ne_nil _ _)]

end

end Uptick.Erc721
