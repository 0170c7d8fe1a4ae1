import Uptick.DerivedIds

/-!
# The contract of a batch

For a class with a registered pair both modules look for the contract of a batch in the bindings of its
NFTs. Where none of them is bound, and the caller names none either, the contract is derived from the
text of the class id, and compared with the one of the pair.
-/

namespace Uptick

open Text Outcome Evm

variable {C : Chain}

/-- A guard between two computations that never fail with its error: that error is reported when the first one goes
through and the guard does not. -/
lemma error_of_guard_iff {α β : Type} {x : Except Error α} {p : Prop} [Decidable p] {guard : Error}
    {rest : α → Except Error β} (hx : ∀ e, x = .error e → e.root ≠ guard.root)
    (hrest : ∀ a e, rest a = .error e → e.root ≠ guard.root) :
    (∃ e, (x >>= fun a => require p guard >>= fun _ => rest a) = .error e ∧ e.root = guard.root) ↔
      (∃ a, x = .ok a) ∧ ¬ p := by
  constructor
  · rintro ⟨e, he, hroot⟩
    rcases bind_eq_error.mp he with hfirst | ⟨a, ha, he⟩
    · exact absurd hroot (hx e hfirst)
    · rcases bind_eq_error.mp he with hguard | ⟨-, -, he⟩
      · exact ⟨⟨a, ha⟩, (require_eq_error.mp hguard).1⟩
      · exact absurd hroot (hrest a e he)
  · rintro ⟨⟨a, ha⟩, hp⟩
    rw [ha, ok_bind]
    exact ⟨guard, bind_eq_error.mpr (.inl (require_eq_error.mpr ⟨hp, rfl⟩)), rfl⟩

namespace Erc721

def boundUID (st : Store) (K n : GoString) : GoString := getTokenUIDPairByNFTUID st (createNFTUID K n)

/-- The binding is well formed and its contract is the given one. -/
def NamesContract (uid contract : GoString) : Prop :=
  (getNFTFromUID uid).2 ≠ [] ∧ equalContractAddress (getNFTFromUID uid).2 contract = true

lemma savedTokens_contract (st : Store) (K : GoString) (ns : List GoString) (last : GoString) :
    ((∀ n ∈ ns, (getNFTFromUID (boundUID st K n)).2 = []) ∧ (savedTokens st K ns last).2 = last) ∨
      ∃ n ∈ ns, (getNFTFromUID (boundUID st K n)).2 ≠ [] ∧
        (savedTokens st K ns last).2 = (getNFTFromUID (boundUID st K n)).2 := by
  induction ns generalizing last with
  | nil => exact Or.inl ⟨by simp, rfl⟩
  | cons n ns ih =>
    have hstep : (savedTokens st K (n :: ns) last).2 =
        (savedTokens st K ns (if (getNFTFromUID (boundUID st K n)).2 ≠ [] then
          (getNFTFromUID (boundUID st K n)).2 else last)).2 := rfl
    rw [hstep]
    by_cases hn : (getNFTFromUID (boundUID st K n)).2 = []
    · rw [if_neg (by simp [hn])]
      rcases ih last with ⟨hall, hlast⟩ | ⟨m, hm, hne, hlast⟩
      · exact Or.inl ⟨by simp only [List.forall_mem_cons]; exact ⟨hn, hall⟩, hlast⟩
      · exact Or.inr ⟨m, List.mem_cons_of_mem _ hm, hne, hlast⟩
    · rw [if_pos hn]
      rcases ih (getNFTFromUID (boundUID st K n)).2 with ⟨-, hlast⟩ | ⟨m, hm, hne, hlast⟩
      · exact Or.inr ⟨n, List.mem_cons_self, hn, hlast⟩
      · exact Or.inr ⟨m, List.mem_cons_of_mem _ hm, hne, hlast⟩

lemma root_of_getNftDatasFrom_error {X : Extern} {saved : GoString} {orgs saveds ids : List GoString} {e : Error}
    (h : getNftDatasFrom X .tokenId saved orgs saveds ids = .error e) : e.root = .tokenIdNotCorrect := by
  induction ids generalizing saved orgs saveds with
  | nil => cases h
  | cons id ids ih =>
    rw [getNftDatasFrom] at h
    rcases bind_eq_error.mp h with hfirst | ⟨r, -, h⟩
    · unfold getNftData at hfirst
      split_ifs at hfirst
      obtain rfl := Except.error.inj hfirst
      rfl
    · rcases bind_eq_error.mp h with hrest | ⟨rs, -, hok⟩
      · exact ih hrest
      · cases hok

def comparedContract (st : Store) (K : GoString) (ns : List GoString) (pairContract : GoString) : GoString :=
  let saved := (savedTokens st K ns []).2
  let c := if saved = [] then createContractAddressFromClassID K else saved
  if c = [] then pairContract else c

lemma getContractAddressAndTokenIds_of_pair {w : World C} {msg : MsgConvertNFT} {pair : TokenPair}
    (hpair : getPairByClass w.erc721 msg.classId = .ok pair) (hnone : msg.evmContractAddress = []) :
    getContractAddressAndTokenIds w msg = (do
      let ids ← getNftDatas C.toExtern msg.evmTokenIds msg.cosmosTokenIds
        (savedTokens w.erc721 msg.classId msg.cosmosTokenIds []).1 .tokenId
      let c := comparedContract w.erc721 msg.classId msg.cosmosTokenIds pair.erc721Address
      require (c = [] ∨ equalContractAddress c pair.erc721Address = true)
        (wrapf .contractAddressNotCorrect "contract address is not correct, expect %s got %s"
          [.s pair.erc721Address, .s c])
      forEach (fun _ i => checkForward (C := C) w.erc721 pair msg.classId i) () (ids.zip msg.cosmosTokenIds)
      .ok (w, pair.erc721Address, ids)) := by
  have hdata : ∀ saved, getNftData C.toExtern msg.evmContractAddress msg.classId saved .contractAddress =
      .ok (if saved = [] then createContractAddressFromClassID msg.classId else saved) := by
    intro saved
    rw [hnone, getNftData]
    by_cases hs : saved = []
    · simp [hs, createNftDataByType]
    · simp [hs]
  unfold getContractAddressAndTokenIds
  rw [hpair]
  simp only [hdata, ok_bind, comparedContract]
  rfl

lemma mismatch_iff {w : World C} {msg : MsgConvertNFT} {pair : TokenPair}
    (hpair : getPairByClass w.erc721 msg.classId = .ok pair) (hnone : msg.evmContractAddress = []) :
    (∃ e, getContractAddressAndTokenIds w msg = .error e ∧ e.root = .contractAddressNotCorrect) ↔
      (∃ ids, getNftDatas C.toExtern msg.evmTokenIds msg.cosmosTokenIds
        (savedTokens w.erc721 msg.classId msg.cosmosTokenIds []).1 .tokenId = .ok ids) ∧
      ¬ (comparedContract w.erc721 msg.classId msg.cosmosTokenIds pair.erc721Address = [] ∨
        equalContractAddress (comparedContract w.erc721 msg.classId msg.cosmosTokenIds pair.erc721Address)
          pair.erc721Address = true) := by
  rw [getContractAddressAndTokenIds_of_pair hpair hnone]
  refine error_of_guard_iff (fun e he => ?_) fun ids e he => ?_
  · rw [root_of_getNftDatasFrom_error he]
    rintro ⟨⟩
  · rcases bind_eq_error.mp he with hloop | ⟨u, -, hok⟩
    · obtain ⟨-, i, -, hcheck⟩ := exists_of_forEach_eq_error hloop
      obtain ⟨-, rfl⟩ := require_eq_error.mp hcheck
      rintro ⟨⟩
    · cases hok

lemma contract_of_getContractAddressAndTokenIds {w w' : World C} {msg : MsgConvertNFT} {pair : TokenPair}
    {c : GoString} {ids : List GoString} (hpair : getPairByClass w.erc721 msg.classId = .ok pair)
    (hnone : msg.evmContractAddress = []) (h : getContractAddressAndTokenIds w msg = .ok (w', c, ids)) :
    c = pair.erc721Address := by
  rw [getContractAddressAndTokenIds_of_pair hpair hnone] at h
  obtain ⟨ids', -, h⟩ := bind_eq_ok.mp h
  obtain ⟨-, h⟩ := require_bind_eq_ok.mp h
  obtain ⟨-, h⟩ := check_bind_eq_ok.mp h
  cases h
  rfl

lemma no_mismatch_iff {w : World C} {msg : MsgConvertNFT} {pair : TokenPair}
    (hpair : getPairByClass w.erc721 msg.classId = .ok pair) (hnone : msg.evmContractAddress = [])
    (hnames : ∀ n, boundUID w.erc721 msg.classId n ≠ [] →
      NamesContract (boundUID w.erc721 msg.classId n) pair.erc721Address) :
    (¬ ∃ e, getContractAddressAndTokenIds w msg = .error e ∧ e.root = .contractAddressNotCorrect) ↔
      (∃ n ∈ msg.cosmosTokenIds, boundUID w.erc721 msg.classId n ≠ []) ∨
        createContractAddressFromClassID msg.classId = [] ∨
        equalContractAddress (createContractAddressFromClassID msg.classId) pair.erc721Address = true := by
  have hself : ∀ c, equalContractAddress c c = true := fun c => by simp [equalContractAddress]
  rw [mismatch_iff hpair hnone]
  rcases savedTokens_contract w.erc721 msg.classId msg.cosmosTokenIds [] with ⟨hall, hlast⟩ | ⟨n, hn, hne, hlast⟩
  · -- No NFT of the batch is bound, so the ids are resolved and the class id decides.
    have hunbound : ∀ n ∈ msg.cosmosTokenIds, boundUID w.erc721 msg.classId n = [] := by
      intro n hn
      by_contra hb
      exact (hnames n hb).1 (hall n hn)
    have hids : ∃ ids, getNftDatas C.toExtern msg.evmTokenIds msg.cosmosTokenIds
        (savedTokens w.erc721 msg.classId msg.cosmosTokenIds []).1 .tokenId = .ok ids :=
      exists_getNftDatas_of_unsaved (erc721_savedTokens_unbound hunbound)
    have hcompared : comparedContract w.erc721 msg.classId msg.cosmosTokenIds pair.erc721Address =
        if createContractAddressFromClassID msg.classId = [] then pair.erc721Address
        else createContractAddressFromClassID msg.classId := by
      simp only [comparedContract, hlast, if_true]
    have hnobody : ¬ ∃ n ∈ msg.cosmosTokenIds, boundUID w.erc721 msg.classId n ≠ [] := by
      rintro ⟨n, hn, hb⟩
      exact hb (hunbound n hn)
    rw [hcompared]
    simp only [hids, true_and, not_not, hnobody, false_or]
    by_cases hd : createContractAddressFromClassID msg.classId = []
    · simp [hd, hself]
    · simp [hd]
  · -- Some NFT is bound: its contract is the one compared, and it is the one of the pair.
    have hb : boundUID w.erc721 msg.classId n ≠ [] := by
      intro h
      rw [h] at hne
      exact hne rfl
    have hcompared : comparedContract w.erc721 msg.classId msg.cosmosTokenIds pair.erc721Address =
        (getNFTFromUID (boundUID w.erc721 msg.classId n)).2 := by
      simp only [comparedContract, hlast, if_neg hne]
    rw [hcompared]
    constructor
    · intro _
      exact Or.inl ⟨n, hn, hb⟩
    · rintro - ⟨-, hother⟩
      exact hother (Or.inr (hnames n hb).2)

end Erc721

/-! ### x/cw721 -/

namespace Cw721

def boundUID (st : Store) (K n : GoString) : GoString := getTokenUIDPairByNFTUID st (createNFTUID K n)

/-- Contracts are compared as texts, up to the case of their letters. -/
def NamesContract (uid contract : GoString) : Prop :=
  (getNFTFromUID uid).2 ≠ [] ∧ equalFold (getNFTFromUID uid).2 contract = true

/-- What one round of the loop leaves for the next: the parts of the binding, or those it was given. -/
def carriedParts (st : Store) (K : GoString) (previous : GoString × GoString) (n : GoString) : GoString × GoString :=
  if boundUID st K n = [] then previous else getNFTFromUID (boundUID st K n)

lemma savedTokens_cons_eq_ok {st : Store} {K n : GoString} {ns saved : List GoString}
    {previous : GoString × GoString} {carried last : GoString} :
    savedTokens st K (n :: ns) previous carried = .ok (saved, last) ↔
      (boundUID st K n = [] ∨
        (getNFTFromUID (boundUID st K n)).1 ≠ [] ∧ (getNFTFromUID (boundUID st K n)).2 ≠ []) ∧
      ∃ rest, savedTokens st K ns (carriedParts st K previous n)
          (if (carriedParts st K previous n).2 ≠ [] then (carriedParts st K previous n).2 else carried) =
          .ok (rest, last) ∧ saved = (carriedParts st K previous n).1 :: rest := by
  have hround : savedTokens st K (n :: ns) previous carried = (do
      require (boundUID st K n = [] ∨ (carriedParts st K previous n).1 ≠ [] ∧ (carriedParts st K previous n).2 ≠ [])
        (wrapf .invalidRequest "invalid CW721 token UID pair for nft %s" [.s (createNFTUID K n)])
      let r ← savedTokens st K ns (carriedParts st K previous n)
        (if (carriedParts st K previous n).2 ≠ [] then (carriedParts st K previous n).2 else carried)
      .ok ((carriedParts st K previous n).1 :: r.1, r.2)) := rfl
  rw [hround, require_bind_eq_ok, bind_eq_ok]
  apply and_congr
  · by_cases hn : boundUID st K n = []
    · simp [hn]
    · rw [carriedParts, if_neg hn]
  · constructor
    · rintro ⟨⟨rest, last'⟩, hrest, h⟩
      cases h
      exact ⟨rest, hrest, rfl⟩
    · rintro ⟨rest, hrest, rfl⟩
      exact ⟨(rest, last), hrest, rfl⟩

lemma savedTokens_contract {st : Store} {K : GoString} {ns saved : List GoString} {t carried last : GoString}
    (h : savedTokens st K ns (t, carried) carried = .ok (saved, last)) :
    ((∀ n ∈ ns, boundUID st K n = []) ∧ last = carried) ∨
      ∃ n ∈ ns, boundUID st K n ≠ [] ∧ last = (getNFTFromUID (boundUID st K n)).2 := by
  induction ns generalizing saved t carried with
  | nil =>
    cases h
    exact Or.inl ⟨by simp, rfl⟩
  | cons n ns ih =>
    obtain ⟨hwf, rest, hrest, -⟩ := savedTokens_cons_eq_ok.mp h
    by_cases hn : boundUID st K n = []
    · rw [carriedParts, if_pos hn, ite_self] at hrest
      rcases ih hrest with ⟨hall, hlast⟩ | ⟨m, hm, hb, hlast⟩
      · exact Or.inl ⟨by simp only [List.forall_mem_cons]; exact ⟨hn, hall⟩, hlast⟩
      · exact Or.inr ⟨m, List.mem_cons_of_mem _ hm, hb, hlast⟩
    · have hparts := hwf.resolve_left hn
      rw [carriedParts, if_neg hn, if_pos hparts.2] at hrest
      rcases ih hrest with ⟨-, hlast⟩ | ⟨m, hm, hb, hlast⟩
      · exact Or.inr ⟨n, List.mem_cons_self, hn, hlast⟩
      · exact Or.inr ⟨m, List.mem_cons_of_mem _ hm, hb, hlast⟩

lemma savedTokens_of_unbound {st : Store} {K : GoString} {ns : List GoString}
    (hunbound : ∀ n ∈ ns, boundUID st K n = []) :
    savedTokens st K ns ([], []) [] = .ok (ns.map fun _ => [], []) := by
  induction ns with
  | nil => rfl
  | cons n ns ih =>
    have hn : getTokenUIDPairByNFTUID st (createNFTUID K n) = [] := hunbound n List.mem_cons_self
    have hrest := ih fun m hm => hunbound m (List.mem_cons_of_mem _ hm)
    rw [savedTokens]
    simp only [hn, if_true, ne_eq, not_true_eq_false, if_false, hrest, ok_bind, List.map_cons]
    rfl

lemma root_of_savedTokens_error {st : Store} {K : GoString} {ns : List GoString} {previous : GoString × GoString}
    {carried : GoString} {e : Error} (h : savedTokens st K ns previous carried = .error e) :
    e.root = .invalidRequest := by
  induction ns generalizing previous carried with
  | nil => cases h
  | cons n ns ih =>
    rw [savedTokens] at h
    rcases bind_eq_error.mp h with hreq | ⟨u, -, h⟩
    · obtain ⟨-, rfl⟩ := require_eq_error.mp hreq
      rfl
    · rcases bind_eq_error.mp h with hrest | ⟨r, -, hok⟩
      · exact ih hrest
      · cases hok

lemma root_of_getNftDatasFrom_error {saved : GoString} {orgs saveds ids : List GoString} {e : Error}
    (h : getNftDatasFrom .tokenId saved orgs saveds ids = .error e) : e.root = .cw721TokenIdNotCorrect := by
  induction ids generalizing saved orgs saveds with
  | nil => cases h
  | cons id ids ih =>
    rw [getNftDatasFrom] at h
    rcases bind_eq_error.mp h with hfirst | ⟨r, -, h⟩
    · unfold getNftData at hfirst
      split_ifs at hfirst
      obtain rfl := Except.error.inj hfirst
      rfl
    · rcases bind_eq_error.mp h with hrest | ⟨rs, -, hok⟩
      · exact ih hrest
      · cases hok

/-- The contract that is compared with the one of the pair, when the caller names none. -/
def comparedContract (K saved pairContract : GoString) : GoString :=
  let c := if saved = [] then createContractAddressFromClassID K else saved
  if c = [] then pairContract else c

/-- What follows once the saved ids and the saved contract are found. -/
def resolveSaved (w : World C) (msg : MsgConvertNFT) (pair : TokenPair) (saved : List GoString × GoString) :
    Except Error (World C × GoString × List GoString) := do
  let ids ← getNftDatas msg.tokenIds msg.nftIds saved.1 .tokenId
  let c := comparedContract msg.classId saved.2 pair.cw721Address
  require (c = [] ∨ equalFold c pair.cw721Address = true)
    (wrapf .cw721ContractAddressNotCorrect "contract address is not correct, expect %s got %s"
      [.s pair.cw721Address, .s c])
  forEach (fun _ i => checkForward w.cw721 pair msg.classId i) () (ids.zip msg.nftIds)
  .ok (w, pair.cw721Address, ids)

lemma getContractAddressAndTokenIds_of_pair {w : World C} {msg : MsgConvertNFT} {pair : TokenPair}
    (hpair : getPairByClass w.cw721 msg.classId = .ok pair) (hnone : msg.contractAddress = []) :
    getContractAddressAndTokenIds w msg =
      (savedTokens w.cw721 msg.classId msg.nftIds ([], []) [] >>= resolveSaved w msg pair) := by
  have hdata : ∀ saved, getNftData msg.contractAddress msg.classId saved .contractAddress =
      .ok (if saved = [] then createContractAddressFromClassID msg.classId else saved) := by
    intro saved
    rw [hnone, getNftData]
    by_cases hs : saved = []
    · simp [hs, createNftDataByType]
    · simp [hs]
  unfold getContractAddressAndTokenIds
  rw [hpair]
  simp only [hdata, ok_bind]
  rfl

lemma mismatch_of_resolveSaved {w : World C} {msg : MsgConvertNFT} {pair : TokenPair}
    {saved : List GoString × GoString} :
    (∃ e, resolveSaved w msg pair saved = .error e ∧ e.root = .cw721ContractAddressNotCorrect) ↔
      (∃ ids, getNftDatas msg.tokenIds msg.nftIds saved.1 .tokenId = .ok ids) ∧
      ¬ (comparedContract msg.classId saved.2 pair.cw721Address = [] ∨
        equalFold (comparedContract msg.classId saved.2 pair.cw721Address) pair.cw721Address = true) := by
  unfold resolveSaved
  refine error_of_guard_iff (fun e he => ?_) fun ids e he => ?_
  · rw [root_of_getNftDatasFrom_error he]
    rintro ⟨⟩
  · rcases bind_eq_error.mp he with hloop | ⟨u, -, hok⟩
    · obtain ⟨-, i, -, hcheck⟩ := exists_of_forEach_eq_error hloop
      obtain ⟨-, rfl⟩ := require_eq_error.mp hcheck
      rintro ⟨⟩
    · cases hok

lemma mismatch_iff {w : World C} {msg : MsgConvertNFT} {pair : TokenPair}
    (hpair : getPairByClass w.cw721 msg.classId = .ok pair) (hnone : msg.contractAddress = []) :
    (∃ e, getContractAddressAndTokenIds w msg = .error e ∧ e.root = .cw721ContractAddressNotCorrect) ↔
      ∃ saved, savedTokens w.cw721 msg.classId msg.nftIds ([], []) [] = .ok saved ∧
        ∃ e, resolveSaved w msg pair saved = .error e ∧ e.root = .cw721ContractAddressNotCorrect := by
  rw [getContractAddressAndTokenIds_of_pair hpair hnone]
  constructor
  · rintro ⟨e, he, hroot⟩
    rcases bind_eq_error.mp he with hsaved | ⟨saved, hsaved, he⟩
    · have := root_of_savedTokens_error hsaved
      rw [hroot] at this
      cases this
    · exact ⟨saved, hsaved, e, he, hroot⟩
  · rintro ⟨saved, hsaved, e, he, hroot⟩
    exact ⟨e, bind_eq_error.mpr (Or.inr ⟨saved, hsaved, he⟩), hroot⟩

lemma contract_of_getContractAddressAndTokenIds {w w' : World C} {msg : MsgConvertNFT} {pair : TokenPair}
    {c : GoString} {ids : List GoString} (hpair : getPairByClass w.cw721 msg.classId = .ok pair)
    (hnone : msg.contractAddress = []) (h : getContractAddressAndTokenIds w msg = .ok (w', c, ids)) :
    c = pair.cw721Address := by
  rw [getContractAddressAndTokenIds_of_pair hpair hnone] at h
  obtain ⟨saved, -, h⟩ := bind_eq_ok.mp h
  obtain ⟨ids', -, h⟩ := bind_eq_ok.mp h
  obtain ⟨-, h⟩ := require_bind_eq_ok.mp h
  obtain ⟨-, h⟩ := check_bind_eq_ok.mp h
  cases h
  rfl

lemma no_mismatch_iff {w : World C} {msg : MsgConvertNFT} {pair : TokenPair}
    (hpair : getPairByClass w.cw721 msg.classId = .ok pair) (hnone : msg.contractAddress = [])
    (hnames : ∀ n, boundUID w.cw721 msg.classId n ≠ [] →
      NamesContract (boundUID w.cw721 msg.classId n) pair.cw721Address) :
    (¬ ∃ e, getContractAddressAndTokenIds w msg = .error e ∧ e.root = .cw721ContractAddressNotCorrect) ↔
      (∃ n ∈ msg.nftIds, boundUID w.cw721 msg.classId n ≠ []) ∨
        createContractAddressFromClassID msg.classId = [] ∨
        equalFold (createContractAddressFromClassID msg.classId) pair.cw721Address = true := by
  have hself : ∀ c, equalFold c c = true := fun c => by simp [equalFold]
  rw [mismatch_iff hpair hnone]
  by_cases hbound : ∃ n ∈ msg.nftIds, boundUID w.cw721 msg.classId n ≠ []
  · constructor
    · intro _
      exact Or.inl hbound
    · -- The contract that is compared is the one of some bound NFT, hence the one of the pair.
      rintro - ⟨⟨saved, last⟩, hsaved, hfail⟩
      have hother := (mismatch_of_resolveSaved.mp hfail).2
      rcases savedTokens_contract hsaved with ⟨hall, -⟩ | ⟨m, -, hb, hlast⟩
      · obtain ⟨n, hn, hne⟩ := hbound
        exact hne (hall n hn)
      · have hname := hnames m hb
        have hcompared : comparedContract msg.classId last pair.cw721Address =
            (getNFTFromUID (boundUID w.cw721 msg.classId m)).2 := by
          rw [hlast, comparedContract, if_neg hname.1, if_neg hname.1]
        dsimp only at hother
        rw [hcompared] at hother
        exact hother (Or.inr hname.2)
  · have hunbound : ∀ n ∈ msg.nftIds, boundUID w.cw721 msg.classId n = [] := by
      intro n hn
      by_contra hb
      exact hbound ⟨n, hn, hb⟩
    have hsaved := savedTokens_of_unbound hunbound
    have hids : ∃ ids, getNftDatas msg.tokenIds msg.nftIds (msg.nftIds.map fun _ => []) .tokenId = .ok ids :=
      exists_getNftDatas_of_unsaved (by simp)
    have hcompared : comparedContract msg.classId [] pair.cw721Address =
        if createContractAddressFromClassID msg.classId = [] then pair.cw721Address
        else createContractAddressFromClassID msg.classId := by
      simp only [comparedContract, if_true]
    have honly : (∃ saved, savedTokens w.cw721 msg.classId msg.nftIds ([], []) [] = .ok saved ∧
        ∃ e, resolveSaved w msg pair saved = .error e ∧ e.root = .cw721ContractAddressNotCorrect) ↔
        ∃ e, resolveSaved w msg pair (msg.nftIds.map fun _ => [], []) = .error e ∧
          e.root = .cw721ContractAddressNotCorrect := by
      rw [hsaved]
      simp only [Except.ok.injEq, exists_eq_left']
    rw [honly, mismatch_of_resolveSaved]
    dsimp only
    rw [hcompared]
    simp only [hids, true_and, not_not, hbound, false_or]
    by_cases hd : createContractAddressFromClassID msg.classId = []
    · simp [hd, hself]
    · simp [hd]

end Cw721

/-- For a class with a registered pair, whose bindings all name the contract of the pair, and a caller
that names none: no batch is refused for its contract, and the contract of the pair is returned,
exactly when some NFT of the batch is bound already or the class id spells the contract. -/
theorem pair_contract_resolved_iff (C : Chain) :
    (∀ (w : World C) (msg : Erc721.MsgConvertNFT) (pair : Erc721.TokenPair),
      Erc721.getPairByClass w.erc721 msg.classId = .ok pair → msg.evmContractAddress = [] →
      (∀ n, Erc721.boundUID w.erc721 msg.classId n ≠ [] →
        Erc721.NamesContract (Erc721.boundUID w.erc721 msg.classId n) pair.erc721Address) →
      (((∀ e, Erc721.getContractAddressAndTokenIds w msg = .error e → e.root ≠ .contractAddressNotCorrect) ∧
        (∀ w' c ids, Erc721.getContractAddressAndTokenIds w msg = .ok (w', c, ids) → c = pair.erc721Address)) ↔
        (∃ n ∈ msg.cosmosTokenIds, Erc721.boundUID w.erc721 msg.classId n ≠ []) ∨
          Erc721.createContractAddressFromClassID msg.classId = [] ∨
          Erc721.equalContractAddress (Erc721.createContractAddressFromClassID msg.classId)
            pair.erc721Address = true)) ∧
    (∀ (w : World C) (msg : Cw721.MsgConvertNFT) (pair : Cw721.TokenPair),
      Cw721.getPairByClass w.cw721 msg.classId = .ok pair → msg.contractAddress = [] →
      (∀ n, Cw721.boundUID w.cw721 msg.classId n ≠ [] →
        Cw721.NamesContract (Cw721.boundUID w.cw721 msg.classId n) pair.cw721Address) →
      (((∀ e, Cw721.getContractAddressAndTokenIds w msg = .error e →
          e.root ≠ .cw721ContractAddressNotCorrect) ∧
        (∀ w' c ids, Cw721.getContractAddressAndTokenIds w msg = .ok (w', c, ids) → c = pair.cw721Address)) ↔
        (∃ n ∈ msg.nftIds, Cw721.boundUID w.cw721 msg.classId n ≠ []) ∨
          Cw721.createContractAddressFromClassID msg.classId = [] ∨
          equalFold (Cw721.createContractAddressFromClassID msg.classId) pair.cw721Address = true)) := by
  constructor
  · intro w msg pair hpair hnone hnames
    rw [← Erc721.no_mismatch_iff hpair hnone hnames]
    constructor
    · rintro ⟨hno, -⟩ ⟨e, he, hroot⟩
      exact hno e he hroot
    · intro hno
      exact ⟨fun e he hroot => hno ⟨e, he, hroot⟩,
        fun w' c ids => Erc721.contract_of_getContractAddressAndTokenIds hpair hnone⟩
  · intro w msg pair hpair hnone hnames
    rw [← Cw721.no_mismatch_iff hpair hnone hnames]
    constructor
    · rintro ⟨hno, -⟩ ⟨e, he, hroot⟩
      exact hno e he hroot
    · intro hno
      exact ⟨fun e he hroot => hno ⟨e, he, hroot⟩,
        fun w' c ids => Cw721.contract_of_getContractAddressAndTokenIds hpair hnone⟩

def cwAddress : GoString := Sample.accString Sample.cwContract

/-- Both modules with a registered contract and without bindings. -/
def pairedWorld (erc721Contract : Address) (erc721Class cw721Class : GoString) : World Sample.chain where
  erc721 := Erc721.putPair Sample.X .empty erc721Contract erc721Class
  cw721 := Cw721.putPair Sample.X .empty cwAddress cw721Class
  nft := Sample.kittyLedger
  evm := Sample.EvmState.empty
  wasm := Sample.WasmState.empty

def cwBatch (K : GoString) (ids : List GoString) : Cw721.MsgConvertNFT := ⟨K, ids, [], [], [], []⟩

def ercBatch (K : GoString) (ids : List GoString) : Erc721.MsgConvertNFT := ⟨K, ids, [], [], [], []⟩

def kittyPaired : World Sample.chain := pairedWorld Sample.deployed (str "kitty") (str "kitty")

/-- One NFT of the class is bound in both modules. -/
def boundPaired : World Sample.chain :=
  { kittyPaired with
    erc721 := { kittyPaired.erc721 with
      byNFTUID := KVStore.empty.set (str "cat1,kitty") (str "7,0xa92ca1f63c993f2dd1ec18209579e3b263fdb09c") }
    cw721 := { kittyPaired.cw721 with byNFTUID := KVStore.empty.set (str "cat1,kitty") (str "7," ++ cwAddress) } }

/-- A batch with the bound NFT goes through, although the class id is not the contract. -/
theorem pair_contract_resolved_bound :
    (∃ w' ids, Erc721.getContractAddressAndTokenIds boundPaired (ercBatch (str "kitty") [str "cat2", str "cat1"]) =
      .ok (w', str "0xa92ca1f63c993f2dd1ec18209579e3b263fdb09c", ids)) ∧
    (∃ w' ids, Cw721.getContractAddressAndTokenIds boundPaired (cwBatch (str "kitty") [str "cat2", str "cat1"]) =
      .ok (w', cwAddress, ids)) := by
  have herc : Erc721.getPairByClass boundPaired.erc721 (str "kitty") =
      .ok ⟨str "0xa92ca1f63c993f2dd1ec18209579e3b263fdb09c", str "kitty"⟩ := by decide +kernel
  have hcw : Cw721.getPairByClass boundPaired.cw721 (str "kitty") = .ok ⟨cwAddress, str "kitty"⟩ := by
    decide +kernel
  constructor
  · have hvalues : ∀ e ∈ boundPaired.erc721.byNFTUID.entries, (Erc721.getNFTFromUID e.2).2 ≠ [] ∧
        Erc721.equalContractAddress (Erc721.getNFTFromUID e.2).2
          (str "0xa92ca1f63c993f2dd1ec18209579e3b263fdb09c") = true := by decide +kernel
    have hmain := ((pair_contract_resolved_iff Sample.chain).1 boundPaired
      (ercBatch (str "kitty") [str "cat2", str "cat1"]) _ herc rfl
      fun n hn => hvalues _ (KVStore.mem_entries.mpr (KVStore.get?_of_get rfl hn))).mpr (.inl (by decide +kernel))
    obtain ⟨⟨w', c, ids⟩, hok⟩ := exists_eq_ok (x := Erc721.getContractAddressAndTokenIds boundPaired
      (ercBatch (str "kitty") [str "cat2", str "cat1"])) (by decide +kernel)
    rw [hmain.2 w' c ids hok] at hok
    exact ⟨w', ids, hok⟩
  · have hvalues : ∀ e ∈ boundPaired.cw721.byNFTUID.entries, (Cw721.getNFTFromUID e.2).2 ≠ [] ∧
        equalFold (Cw721.getNFTFromUID e.2).2 cwAddress = true := by decide +kernel
    have hmain := ((pair_contract_resolved_iff Sample.chain).2 boundPaired
      (cwBatch (str "kitty") [str "cat2", str "cat1"]) _ hcw rfl
      fun n hn => hvalues _ (KVStore.mem_entries.mpr (KVStore.get?_of_get rfl hn))).mpr (.inl (by decide +kernel))
    obtain ⟨⟨w', c, ids⟩, hok⟩ := exists_eq_ok (x := Cw721.getContractAddressAndTokenIds boundPaired
      (cwBatch (str "kitty") [str "cat2", str "cat1"])) (by decide +kernel)
    rw [hmain.2 w' c ids hok] at hok
    exact ⟨w', ids, hok⟩

/-- The class `kitty` is registered, and a batch without bindings is refused since `kitty` is not the
contract of its pair. -/
theorem pair_contract_refused_for_kitty :
    Erc721.getPairByClass kittyPaired.erc721 (str "kitty") =
      .ok ⟨str "0xa92ca1f63c993f2dd1ec18209579e3b263fdb09c", str "kitty"⟩ ∧
    Cw721.getPairByClass kittyPaired.cw721 (str "kitty") = .ok ⟨cwAddress, str "kitty"⟩ ∧
    (∀ n, Erc721.boundUID kittyPaired.erc721 (str "kitty") n = []) ∧
    (∀ n, Cw721.boundUID kittyPaired.cw721 (str "kitty") n = []) ∧
    (∃ e, Erc721.getContractAddressAndTokenIds kittyPaired (ercBatch (str "kitty") [str "cat2"]) = .error e ∧
      e.root = .contractAddressNotCorrect) ∧
    (∃ e, Cw721.getContractAddressAndTokenIds kittyPaired (cwBatch (str "kitty") [str "cat2"]) = .error e ∧
      e.root = .cw721ContractAddressNotCorrect) := by
  have herc : Erc721.getPairByClass kittyPaired.erc721 (str "kitty") =
      .ok ⟨str "0xa92ca1f63c993f2dd1ec18209579e3b263fdb09c", str "kitty"⟩ := by decide +kernel
  have hcw : Cw721.getPairByClass kittyPaired.cw721 (str "kitty") = .ok ⟨cwAddress, str "kitty"⟩ := by
    decide +kernel
  refine ⟨herc, hcw, fun _ => rfl, fun _ => rfl, ?_, ?_⟩
  · by_contra hno
    have hnone : (ercBatch (str "kitty") [str "cat2"]).evmContractAddress = [] := rfl
    have hcond := (Erc721.no_mismatch_iff herc hnone fun n hn => absurd rfl hn).mp hno
    exact absurd hcond (by decide +kernel)
  · by_contra hno
    have hnone : (cwBatch (str "kitty") [str "cat2"]).contractAddress = [] := rfl
    have hcond := (Cw721.no_mismatch_iff hcw hnone fun n hn => absurd rfl hn).mp hno
    exact absurd hcond (by decide +kernel)

end Uptick
