import Uptick.Erc721.Bindings
import Uptick.Erc721.Genesis
import Uptick.Erc721.HandlerSpec
import Uptick.Erc721.Registry
import Uptick.Erc721.SpellingAgreement

/-!
# Uniqueness by value after an import

The validation tells contracts and tokens apart by their texts. The maps that an import fills are keyed by
addresses, and the pair index is read through spellings. Two texts of one address or of one token pass the
validation, and then the maps and the index hold one of them twice.
-/

namespace Uptick.Erc721

open Text Numeral Evm Outcome Genesis

/-- A key of the pair index denotes the token number `v` of the contract at `a`. -/
def Denotes (uid : GoString) (v : Nat) (a : Address) : Prop :=
  parseEVMTokenID (getNFTFromUID uid).1 = .ok v ∧ isHexAddress (getNFTFromUID uid).2 = true ∧
    hexToAddress (getNFTFromUID uid).2 = a

/-- The forward index binds the token, under some spelling. -/
def TokenHolds (st : Store) (v : Nat) (a : Address) (n : GoString) : Prop :=
  ∃ uid, Denotes uid v a ∧ st.byTokenUID.get? uid = some n

/-- What an import should give: contracts are told apart by their bytes, each pair is found by its contract
and by its class, the index relates tokens and NFTs one to one, and no two spellings of a token are answered
with two NFTs. -/
structure UniqueByValue (X : Extern) (data : GenesisState) (st : Store) : Prop where
  contracts : ∀ id id' p p', st.tokenPair.get? id = some p → st.tokenPair.get? id' = some p' →
    p.getERC721Contract = p'.getERC721Contract → p = p'
  byEVM : ∀ p ∈ data.tokenPairs, getPairByEVM X st p.erc721Address = .ok p
  byClass : ∀ p ∈ data.tokenPairs, getPairByClass st p.classId = .ok p
  inverse : ∀ uid n, st.byTokenUID.get? uid = some n ↔ st.byNFTUID.get? n = some uid
  nft : ∀ v a n n', TokenHolds st v a n → TokenHolds st v a n' → n = n'
  token : ∀ v a v' a' n, TokenHolds st v a n → TokenHolds st v' a' n → v = v' ∧ a = a'
  resolve : ∀ c t c' t' v, isHexAddress c = true → isHexAddress c' = true → hexToAddress c = hexToAddress c' →
    parseEVMTokenID t = .ok v → parseEVMTokenID t' = .ok v → (resolveNFTUIDPair X st c t).1 ≠ [] →
    (resolveNFTUIDPair X st c' t').1 ≠ [] → (resolveNFTUIDPair X st c t).1 = (resolveNFTUIDPair X st c' t').1

/-- Every spelling of a bound token is answered with its NFT. -/
def ResolvesEverySpelling (X : Extern) (st : Store) : Prop :=
  ∀ v a n, TokenHolds st v a n → ∀ c t, isHexAddress c = true → hexToAddress c = a → parseEVMTokenID t = .ok v →
    (resolveNFTUIDPair X st c t).1 = n

/-- No two pairs have one address, and no two bindings one token. -/
structure DistinctByValue (data : GenesisState) : Prop where
  contracts : ∀ p ∈ data.tokenPairs, ∀ q ∈ data.tokenPairs, p.getERC721Contract = q.getERC721Contract → p = q
  tokens : ∀ p ∈ data.nftUidPairs, ∀ q ∈ data.nftUidPairs, ∀ v a, Denotes p.tokenUid v a →
    Denotes q.tokenUid v a → p = q

/-- Every binding is written under the one contract text that lookups with and without `0x` share. -/
def ChecksumSpelled (X : Extern) (data : GenesisState) : Prop :=
  ∀ p ∈ data.nftUidPairs, ∀ v a, Denotes p.tokenUid v a →
    ∃ t ∈ tokenSpellings v, p.tokenUid = createTokenUID (a.hex X.keccak256) t

section Validated

variable {X : Extern} {validateDenom : GoString → Except Error Unit} {data : GenesisState}

lemma validateTokenPair_eq_ok {seen seen' : List GoString × List GoString} {b : TokenPair} :
    validateTokenPair validateDenom seen b = .ok seen' ↔
      (b.validate validateDenom = .ok () ∧ ¬ (toLower b.erc721Address ∈ seen.1 ∨ b.classId ∈ seen.2)) ∧
        seen' = (toLower b.erc721Address :: seen.1, b.classId :: seen.2) := by
  unfold validateTokenPair
  rw [require_bind_eq_ok, require_bind_eq_ok, check_bind_eq_ok, Except.ok.injEq, not_or]
  constructor
  · rintro ⟨haddr, hclass, hvalid, rfl⟩
    exact ⟨⟨hvalid, haddr, hclass⟩, rfl⟩
  · rintro ⟨⟨hvalid, haddr, hclass⟩, rfl⟩
    exact ⟨haddr, hclass, hvalid, rfl⟩

/-- What the validation of a genesis state accepts. -/
theorem validate_eq_ok : data.validate validateDenom = .ok () ↔
    ((∀ b ∈ data.tokenPairs, b.validate validateDenom = .ok ()) ∧ data.tokenPairs.Pairwise fun p q =>
      ¬ (toLower p.erc721Address = toLower q.erc721Address ∨ p.classId = q.classId)) ∧
    validateGenesisPairs data.nftUidPairs data.refundReceivers data.tokenPairs = .ok () := by
  have hpairs := @forEach_unseen _ _ _ (validateTokenPair validateDenom)
    (fun b => b.validate validateDenom = .ok ())
    (fun s b => toLower b.erc721Address ∈ s.1 ∨ b.classId ∈ s.2)
    (fun p q => toLower p.erc721Address = toLower q.erc721Address ∨ p.classId = q.classId)
    (fun s b => by simp [validateTokenPair_eq_ok])
    (fun s p t q h => by
      rw [(validateTokenPair_eq_ok.mp h).2]
      simp only [List.mem_cons, eq_comm]
      tauto) ([], []) data.tokenPairs
  simp only [List.not_mem_nil, or_self, not_false_eq_true, and_true] at hpairs
  unfold GenesisState.validate
  rw [bind_eq_ok, ← hpairs]
  constructor
  · rintro ⟨seen, hseen, hrest⟩
    exact ⟨⟨seen, hseen⟩, hrest⟩
  · rintro ⟨⟨seen, hseen⟩, hrest⟩
    exact ⟨seen, hseen, hrest⟩

lemma text_inj_of_hex {p q : TokenPair} (hp : isHexAddress p.erc721Address = true)
    (hq : isHexAddress q.erc721Address = true) (h : p.text = q.text) : p = q := by
  -- the separator is no byte of an address text, so the texts are cut at their first one
  have hcut : ∀ {r : TokenPair}, isHexAddress r.erc721Address = true →
      r.text.takeWhile (· ≠ 124) = r.erc721Address := by
    intro r hr
    have hbar : (124 : UInt8) ∉ r.erc721Address := notMem_of_isHexAddress hr (by decide) (by decide)
    have hsep : str "|" = [124] := by decide
    rw [TokenPair.text, hsep, List.append_assoc, List.takeWhile_append_of_pos]
    · simp
    · intro b hb
      simp only [ne_eq, decide_not, Bool.not_eq_true', decide_eq_false_iff_not]
      rintro rfl
      exact hbar hb
  have haddr : p.erc721Address = q.erc721Address := by rw [← hcut hp, h, hcut hq]
  have hK : p.classId = q.classId := by
    unfold TokenPair.text at h
    rw [haddr] at h
    exact List.append_cancel_left h
  cases p
  cases q
  simp_all

/-- What the proofs need of a genesis state that is accepted. -/
structure Accepted (data : GenesisState) : Prop where
  hex : ∀ p ∈ data.tokenPairs, isHexAddress p.erc721Address = true
  classes : ∀ p ∈ data.tokenPairs, p.classId ≠ []
  pairs : data.tokenPairs.Pairwise fun p q => p ≠ q ∧ p.classId ≠ q.classId
  uids : ∀ p ∈ data.nftUidPairs, p.tokenUid ≠ [] ∧ p.nftUid ≠ []
  bindings : data.nftUidPairs.Pairwise fun p q => p.tokenUid ≠ q.tokenUid ∧ p.nftUid ≠ q.nftUid

lemma accepted_of_validate (hdenom : ∀ s, validateDenom s = .ok () → s ≠ [])
    (h : data.validate validateDenom = .ok ()) : Accepted data := by
  obtain ⟨⟨hvalid, hpairs⟩, hrest⟩ := validate_eq_ok.mp h
  have hparts : ∀ p ∈ data.tokenPairs, validateDenom p.classId = .ok () ∧ isHexAddress p.erc721Address = true := by
    intro p hp
    have hv := hvalid p hp
    unfold TokenPair.validate validateAddress at hv
    rwa [check_bind_eq_ok, require_eq_ok] at hv
  obtain ⟨⟨huids, hbindings⟩, -⟩ := validateGenesisPairs_eq_ok.mp hrest
  refine ⟨fun p hp => (hparts p hp).2, fun p hp => hdenom _ (hparts p hp).1, ?_, fun p hp => ?_, ?_⟩
  · refine hpairs.imp fun {p q} hne => ⟨?_, fun hK => hne (.inr hK)⟩
    rintro rfl
    exact hne (.inl rfl)
  · obtain ⟨htoken, hnft, -⟩ := huids p hp
    exact ⟨htoken, hnft⟩
  · exact hbindings.imp fun hne => not_or.mp hne

end Validated

section Imported

variable {X : Extern} {data : GenesisState}

lemma get?_imported_forward (h : Accepted data) (uid n : GoString) :
    (imported X data).byTokenUID.get? uid = some n ↔ (⟨uid, n⟩ : NFTUIDPair) ∈ data.nftUidPairs := by
  rw [imported, KVStore.get?_empty_setAll (h.bindings.imp And.left) fun p hp => (h.uids p hp).1]
  constructor
  · rintro ⟨p, hp, rfl, rfl⟩
    exact hp
  · intro hp
    exact ⟨_, hp, rfl, rfl⟩

lemma get?_imported_reverse (h : Accepted data) (n uid : GoString) :
    (imported X data).byNFTUID.get? n = some uid ↔ (⟨uid, n⟩ : NFTUIDPair) ∈ data.nftUidPairs := by
  rw [imported, KVStore.get?_empty_setAll (h.bindings.imp And.right) fun p hp => (h.uids p hp).2]
  constructor
  · rintro ⟨p, hp, rfl, rfl⟩
    exact hp
  · intro hp
    exact ⟨_, hp, rfl, rfl⟩

/-- The pairs are stored, each under its own id. -/
lemma get?_imported_pair (h : Accepted data) (hne : ∀ s, X.tmhash s ≠ [])
    (hinj : Set.InjOn X.tmhash {s | ∃ p ∈ data.tokenPairs, s = p.text}) (id : GoString) (p : TokenPair) :
    (imported X data).tokenPair.get? id = some p ↔ p ∈ data.tokenPairs ∧ id = p.getID X := by
  have hids : data.tokenPairs.Pairwise fun p q => p.getID X ≠ q.getID X := by
    refine (List.Pairwise.and_mem.mp h.pairs).imp fun {p q} hpq hid => ?_
    obtain ⟨hp, hq, hne, -⟩ := hpq
    have htext : p.text = q.text := hinj ⟨p, hp, rfl⟩ ⟨q, hq, rfl⟩ hid
    exact hne (text_inj_of_hex (h.hex p hp) (h.hex q hq) htext)
  rw [imported, KVStore.get?_empty_setAll hids fun _ _ => hne _]
  constructor
  · rintro ⟨q, hq, rfl, rfl⟩
    exact ⟨hq, rfl⟩
  · rintro ⟨hp, rfl⟩
    exact ⟨p, hp, rfl, rfl⟩

lemma getPairByClass_imported (h : Accepted data) (hne : ∀ s, X.tmhash s ≠ [])
    (hinj : Set.InjOn X.tmhash {s | ∃ p ∈ data.tokenPairs, s = p.text}) {p : TokenPair}
    (hp : p ∈ data.tokenPairs) : getPairByClass (imported X data) p.classId = .ok p := by
  have hmap : (imported X data).tokenPairByClass.get? p.classId = some (p.getID X) :=
    (KVStore.get?_empty_setAll (h.pairs.imp And.right) h.classes _ _).mpr ⟨p, hp, rfl, rfl⟩
  have hget : getClassMap (imported X data) p.classId = p.getID X := KVStore.get_of_get? hmap
  unfold getPairByClass
  rw [hget, pairById_eq_ok, get?_imported_pair h hne hinj]
  exact ⟨hne _, hp, rfl⟩

lemma getPairByEVM_imported (h : Accepted data) (hne : ∀ s, X.tmhash s ≠ [])
    (hinj : Set.InjOn X.tmhash {s | ∃ p ∈ data.tokenPairs, s = p.text}) (hdist : DistinctByValue data)
    {p : TokenPair} (hp : p ∈ data.tokenPairs) :
    getPairByEVM X (imported X data) p.erc721Address = .ok p := by
  have hkeys : data.tokenPairs.Pairwise fun p q =>
      p.getERC721Contract.lowerHex ≠ q.getERC721Contract.lowerHex := by
    refine (List.Pairwise.and_mem.mp h.pairs).imp fun {p q} hpq hkey => ?_
    obtain ⟨hp, hq, hne, -⟩ := hpq
    exact hne (hdist.contracts p hp q hq (lowerHex_injective hkey))
  have hmap : (imported X data).tokenPairByERC721.get? p.getERC721Contract.lowerHex = some (p.getID X) :=
    (KVStore.get?_empty_setAll hkeys (fun p _ => ne_nil_of_isHexAddress (isHexAddress_lowerHex _)) _ _).mpr
      ⟨p, hp, rfl, rfl⟩
  have hget : getERC721Map X (imported X data) (hexToAddress p.erc721Address) = p.getID X := by
    have hval : (imported X data).tokenPairByERC721.get (hexToAddress p.erc721Address).lowerHex = p.getID X :=
      KVStore.get_of_get? hmap
    unfold getERC721Map
    rw [toLower_hex, hval]
    exact if_neg (hne _)
  rw [getPairByEVM_eq_ok, hget, get?_imported_pair h hne hinj]
  exact ⟨hne _, hp, rfl⟩

lemma denotes_of_mem_variantUIDs {c t uid : GoString} {v : Nat} (hc : isHexAddress c = true)
    (ht : parseEVMTokenID t = .ok v) (huid : uid ∈ variantUIDs X c t) : Denotes uid v (hexToAddress c) := by
  obtain ⟨legacy, hp⟩ := parse_of_parseEVMTokenID ht
  have hv : v < 2 ^ 256 := (parseEVMTokenIDValue_eq_ok.mp hp).2.1
  obtain ⟨t', ht', c', hc', rfl⟩ := mem_variantUIDs.mp huid
  rw [evmTokenIDKeyVariants_of_parse hp] at ht'
  obtain ⟨_, hp'⟩ := parse_of_mem_tokenSpellings hv ht'
  have hhex : isHexAddress c' = true := isHexAddress_of_mem_variants hc hc'
  have hcut := getNFTFromUID_createTokenUID (ne_nil_of_mem_tokenSpellings ht') (ne_nil_of_isHexAddress hhex)
    (comma_notMem_of_isHexAddress hhex)
  refine ⟨?_, ?_, ?_⟩
  · rw [hcut]
    exact parseEVMTokenID_of_parse hp'
  · rw [hcut]
    exact hhex
  · rw [hcut]
    exact hexToAddress_of_mem_variants hc hc'

lemma denotes_unique {uid : GoString} {v v' : Nat} {a a' : Address} (h : Denotes uid v a)
    (h' : Denotes uid v' a') : v = v' ∧ a = a' := by
  have hv : v = v' := Except.ok.inj (h.1.symm.trans h'.1)
  exact ⟨hv, h.2.2.symm.trans h'.2.2⟩

lemma tokenHolds_of_resolve {st : Store} {c t : GoString} {v : Nat} (hc : isHexAddress c = true)
    (ht : parseEVMTokenID t = .ok v) (hne : (resolveNFTUIDPair X st c t).1 ≠ []) :
    TokenHolds st v (hexToAddress c) (resolveNFTUIDPair X st c t).1 := by
  obtain ⟨uid, huid, -, hget⟩ := @exists_of_resolveNFTUIDPair X st c t _ _ rfl hne
  exact ⟨uid, denotes_of_mem_variantUIDs hc ht huid, hget⟩

lemma eq_of_nftUid (h : Accepted data) {p q : NFTUIDPair} (hp : p ∈ data.nftUidPairs)
    (hq : q ∈ data.nftUidPairs) (hn : p.nftUid = q.nftUid) : p = q := by
  by_contra hne
  have hsymm : Std.Symm fun p q : NFTUIDPair => p.nftUid ≠ q.nftUid := ⟨fun _ _ => Ne.symm⟩
  exact (h.bindings.imp And.right).forall hp hq hne hn

lemma tokenHolds_imported (h : Accepted data) {v : Nat} {a : Address} {n : GoString} :
    TokenHolds (imported X data) v a n ↔ ∃ p ∈ data.nftUidPairs, Denotes p.tokenUid v a ∧ p.nftUid = n := by
  constructor
  · rintro ⟨uid, hden, hget⟩
    exact ⟨_, (get?_imported_forward h uid n).mp hget, hden, rfl⟩
  · rintro ⟨p, hp, hden, rfl⟩
    exact ⟨p.tokenUid, hden, (get?_imported_forward h _ _).mpr hp⟩

/-- The index of an import is one to one exactly when no two bindings denote one token. -/
lemma oneNFT_imported_iff (h : Accepted data) :
    (∀ v a n n', TokenHolds (imported X data) v a n → TokenHolds (imported X data) v a n' → n = n') ↔
      ∀ p ∈ data.nftUidPairs, ∀ q ∈ data.nftUidPairs, ∀ v a, Denotes p.tokenUid v a →
        Denotes q.tokenUid v a → p = q := by
  simp only [tokenHolds_imported h]
  constructor
  · intro hone p hp q hq v a hdp hdq
    exact eq_of_nftUid h hp hq (hone v a _ _ ⟨p, hp, hdp, rfl⟩ ⟨q, hq, hdq, rfl⟩)
  · rintro hdist v a n n' ⟨p, hp, hdp, rfl⟩ ⟨q, hq, hdq, rfl⟩
    rw [hdist p hp q hq v a hdp hdq]

theorem uniqueByValue_imported_iff (h : Accepted data) (hne : ∀ s, X.tmhash s ≠ [])
    (hinj : Set.InjOn X.tmhash {s | ∃ p ∈ data.tokenPairs, s = p.text}) :
    UniqueByValue X data (imported X data) ↔ DistinctByValue data := by
  constructor
  · intro hu
    refine ⟨fun p hp q hq ha => ?_, (oneNFT_imported_iff h).mp hu.nft⟩
    exact hu.contracts _ _ p q ((get?_imported_pair h hne hinj _ _).mpr ⟨hp, rfl⟩)
      ((get?_imported_pair h hne hinj _ _).mpr ⟨hq, rfl⟩) ha
  · intro hd
    have hnft := (oneNFT_imported_iff (X := X) h).mpr hd.tokens
    refine ⟨fun id id' p p' hp hp' ha => ?_, fun p hp => getPairByEVM_imported h hne hinj hd hp,
      fun p hp => getPairByClass_imported h hne hinj hp, fun uid n => ?_, hnft, fun v a v' a' n hn hn' => ?_,
      fun c t c' t' v hc hc' ha ht ht' hf hf' => ?_⟩
    · exact hd.contracts p ((get?_imported_pair h hne hinj _ _).mp hp).1 p'
        ((get?_imported_pair h hne hinj _ _).mp hp').1 ha
    · rw [get?_imported_forward h, get?_imported_reverse h]
    · obtain ⟨p, hp, hden, rfl⟩ := (tokenHolds_imported h).mp hn
      obtain ⟨q, hq, hden', hname⟩ := (tokenHolds_imported h).mp hn'
      obtain rfl : q = p := eq_of_nftUid h hq hp hname
      exact denotes_unique hden hden'
    · have hfound := tokenHolds_of_resolve hc ht hf
      rw [ha] at hfound
      exact hnft v _ _ _ hfound (tokenHolds_of_resolve hc' ht' hf')

/-- Under an index with one NFT for each token, a bound key that a lookup probes is what the lookup finds. -/
lemma resolve_of_mem_variantUIDs {st : Store} {c t uid n : GoString} {v : Nat}
    (hone : ∀ v a n n', TokenHolds st v a n → TokenHolds st v a n' → n = n') (hc : isHexAddress c = true)
    (ht : parseEVMTokenID t = .ok v) (huid : uid ∈ variantUIDs X c t) (hn : n ≠ [])
    (hget : st.byTokenUID.get? uid = some n) : (resolveNFTUIDPair X st c t).1 = n := by
  have hfound : (resolveNFTUIDPair X st c t).1 ≠ [] := by
    intro hnil
    have hall := resolveNFTUIDPair_eq_nil_iff.mp hnil uid huid
    rw [KVStore.get_of_get? hget] at hall
    exact hn hall
  exact hone v _ _ _ (tokenHolds_of_resolve hc ht hfound) ⟨uid, denotes_of_mem_variantUIDs hc ht huid, hget⟩

lemma mem_variantUIDs_of_resolve (h : Accepted data) {p : NFTUIDPair} (hp : p ∈ data.nftUidPairs) {c t : GoString}
    (hfind : (resolveNFTUIDPair X (imported X data) c t).1 = p.nftUid) :
    p.tokenUid ∈ variantUIDs X c t := by
  have hne : (resolveNFTUIDPair X (imported X data) c t).1 ≠ [] := by
    rw [hfind]
    exact (h.uids p hp).2
  obtain ⟨uid, huid, -, hget⟩ := @exists_of_resolveNFTUIDPair X (imported X data) c t _ _ rfl hne
  have hmem := (get?_imported_forward h _ _).mp hget
  have hp' : p = ⟨uid, (resolveNFTUIDPair X (imported X data) c t).1⟩ := eq_of_nftUid h hp hmem hfind.symm
  rw [hp']
  exact huid

/-- All spellings find the bindings exactly when these stand under the checksummed contract text: a lookup
with `0x` does not probe the bare digits, and one without does not probe the lower-case text with it. -/
lemma resolvesEverySpelling_imported_iff (h : Accepted data) (hd : DistinctByValue data) :
    ResolvesEverySpelling X (imported X data) ↔ ChecksumSpelled X data := by
  have hone := (oneNFT_imported_iff (X := X) h).mpr hd.tokens
  constructor
  · intro hall p hp v a hden
    obtain ⟨legacy, hparse⟩ := parse_of_parseEVMTokenID hden.1
    have hv : v < 2 ^ 256 := (parseEVMTokenIDValue_eq_ok.mp hparse).2.1
    have htext : parseEVMTokenID (text 10 v) = .ok v := parseEVMTokenID_of_parse (parse_text hv true)
    have hholds : TokenHolds (imported X data) v a p.nftUid := (tokenHolds_imported h).mpr ⟨p, hp, hden, rfl⟩
    have hmarked := mem_variantUIDs_of_resolve h hp (hall v a _ hholds a.lowerHex (text 10 v)
      (isHexAddress_lowerHex a) (hexToAddress_lowerHex a) htext)
    have hplain := mem_variantUIDs_of_resolve h hp (hall v a _ hholds a.digits (text 10 v)
      (isHexAddress_digits a) (hexToAddress_digits a) htext)
    obtain ⟨t, ht, c, hc, huid⟩ := exists_of_mem_variantUIDs hv hmarked
    obtain ⟨t', ht', c', hc', huid'⟩ := exists_of_mem_variantUIDs hv hplain
    have hsame : c = c' := (uid_inj
      (comma_notMem_contractVariants (isHexAddress_lowerHex a) hc)
      (comma_notMem_contractVariants (isHexAddress_digits a) hc')
      (huid.symm.trans huid')).2
    have hmark : has0xPrefix a.lowerHex = true := has0xPrefix_append_0x _
    have hbare : has0xPrefix a.digits = false := has0xPrefix_of_digits fun _ => isHexDigit_of_mem_digits
    rw [contractAddressKeyVariants_of_0x (isHexAddress_lowerHex a) hmark, hexToAddress_lowerHex,
      mem_addressSpellings] at hc
    rw [contractAddressKeyVariants_of_plain (isHexAddress_digits a) hbare, hexToAddress_digits] at hc'
    rcases List.mem_cons.mp hc' with hdig | hhex
    · -- the digits carry no mark, and both texts probed with `0x` do
      exfalso
      rw [← hsame] at hdig
      rcases hc with rfl | rfl
      · rw [hdig, hbare] at hmark
        cases hmark
      · exact hex_ne_digits a hdig
    · rw [List.mem_singleton.mp hhex] at hsame
      exact ⟨t, ht, hsame ▸ huid⟩
  · intro hspelled v a n hholds c t hc ha ht
    obtain ⟨p, hp, hden, rfl⟩ := (tokenHolds_imported h).mp hholds
    obtain ⟨t', ht', huid⟩ := hspelled p hp v a hden
    obtain ⟨legacy, hparse⟩ := parse_of_parseEVMTokenID ht
    have hprobed : p.tokenUid ∈ variantUIDs X c t := by
      refine mem_variantUIDs.mpr ⟨t', ?_, a.hex X.keccak256, ?_, huid⟩
      · rwa [evmTokenIDKeyVariants_of_parse hparse]
      · exact hex_mem_contractAddressKeyVariants hc ha
    exact resolve_of_mem_variantUIDs hone hc ht hprobed (h.uids p hp).2 ((get?_imported_forward h _ _).mpr hp)

end Imported

/-- An import of an accepted state succeeds. Contracts, pairs and tokens are unique by value exactly when no
two pairs have one address and no two bindings one token, and then every spelling finds the NFT of a token
exactly when the bindings stand under the checksummed contract text. -/
theorem initGenesis_uniqueByValue_iff (X : Extern) (validateDenom : GoString → Except Error Unit)
    (data : GenesisState) (hdenom : ∀ s, validateDenom s = .ok () → s ≠ []) (hne : ∀ s, X.tmhash s ≠ [])
    (hinj : Set.InjOn X.tmhash {s | ∃ p ∈ data.tokenPairs, s = p.text})
    (hvalid : data.validate validateDenom = .ok ()) :
    ∃ st, initGenesis X .empty data = .ok st ∧
      (UniqueByValue X data st ↔ DistinctByValue data) ∧
      (UniqueByValue X data st ∧ ResolvesEverySpelling X st ↔ DistinctByValue data ∧ ChecksumSpelled X data) := by
  have hacc := accepted_of_validate hdenom hvalid
  have hunique := uniqueByValue_imported_iff hacc hne hinj
  refine ⟨imported X data, initGenesis_eq_ok.mpr ⟨(validate_eq_ok.mp hvalid).2, rfl⟩, hunique, ?_⟩
  rw [hunique]
  exact and_congr_right fun hd => resolvesEverySpelling_imported_iff hacc hd

def genesisOf (pairs : List TokenPair) (bindings : List NFTUIDPair) : GenesisState where
  enableErc721 := true
  tokenPairs := pairs
  nftUidPairs := bindings
  refundReceivers := []

/-- The `sdk.ValidateDenom` of the samples: a class id has at least three bytes. -/
def threeBytes (s : GoString) : Except Error Unit :=
  require (3 ≤ s.length) (wrapf (.external []) "invalid denom: %s" [.s s])

/-- Two contracts, and two tokens of the first. -/
def distinctTokens : GenesisState :=
  genesisOf [⟨Sample.contract, str "kitty"⟩, ⟨str "0x5555555555555555555555555555555555555555", str "lion"⟩]
    [⟨createTokenUID Sample.contract (str "7"), str "cat,kitty"⟩,
      ⟨createTokenUID Sample.contract (str "0x08"), str "dog,kitty"⟩]

lemma distinctByValue_distinctTokens : DistinctByValue distinctTokens where
  contracts := by decide +kernel
  tokens := by
    have hvalues : ∀ p ∈ distinctTokens.nftUidPairs, ∀ q ∈ distinctTokens.nftUidPairs,
        (parseEVMTokenID (getNFTFromUID p.tokenUid).1).toOption =
          (parseEVMTokenID (getNFTFromUID q.tokenUid).1).toOption → p = q := by decide +kernel
    intro p hp q hq v a hpv hqv
    exact hvalues p hp q hq (by rw [hpv.1, hqv.1])

theorem initGenesis_uniqueByValue_distinct : ∃ st, initGenesis Sample.X .empty distinctTokens = .ok st ∧
    UniqueByValue Sample.X distinctTokens st := by
  obtain ⟨st, hst, hiff, -⟩ := initGenesis_uniqueByValue_iff Sample.X threeBytes distinctTokens
    (by
      intro s hs hnil
      rw [threeBytes, require_eq_ok, hnil] at hs
      exact absurd hs (by decide))
    Sample.tmhash_ne_nil Sample.tmhash_injective.injOn (by decide +kernel)
  exact ⟨st, hst, hiff.mpr distinctByValue_distinctTokens⟩

/-- One contract with `0x` and without, and one token in base 10 and in base 16. -/
def twiceSpelled : GenesisState :=
  genesisOf [⟨Sample.contract, str "kitty"⟩, ⟨unmarkedContract, str "lion"⟩]
    [⟨createTokenUID Sample.contract (str "7"), str "cat,kitty"⟩,
      ⟨createTokenUID Sample.contract (str "0x07"), str "dog,kitty"⟩]

/-- The state is accepted and imported. The first pair is no longer found by its contract, both pairs have one
address, and two keys of one token name two NFTs. -/
theorem initGenesis_twiceSpelled : twiceSpelled.validate threeBytes = .ok () ∧
    ∃ st, initGenesis Sample.X .empty twiceSpelled = .ok st ∧
      getPairByEVM Sample.X st Sample.contract = .ok ⟨unmarkedContract, str "lion"⟩ ∧
      hexToAddress Sample.contract = hexToAddress unmarkedContract ∧
      (getTokenPairs st).length = 2 ∧
      st.byTokenUID.get? (createTokenUID Sample.contract (str "7")) = some (str "cat,kitty") ∧
      st.byTokenUID.get? (createTokenUID Sample.contract (str "0x07")) = some (str "dog,kitty") ∧
      parseEVMTokenID (str "7") = .ok 7 ∧ parseEVMTokenID (str "0x07") = .ok 7 ∧
      ¬ UniqueByValue Sample.X twiceSpelled st := by
  refine ⟨by decide +kernel, imported Sample.X twiceSpelled, initGenesis_eq_ok.mpr ⟨by decide +kernel, rfl⟩,
    by decide +kernel, by decide +kernel, by decide +kernel, by decide +kernel, by decide +kernel,
    by decide +kernel, by decide +kernel, fun hu => ?_⟩
  have hfirst := hu.byEVM ⟨Sample.contract, str "kitty"⟩ (by decide +kernel)
  exact absurd hfirst (by decide +kernel)

end Uptick.Erc721
