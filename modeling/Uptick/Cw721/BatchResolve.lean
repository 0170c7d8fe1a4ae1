import Mathlib.Data.List.GetD
import Uptick.PairContract

/-!
# A batch and its NFTs alone

`GetContractAddressAndTokenIds` of x/cw721 looks up the binding of one NFT after the other and keeps the
token id and the contract of the last one it found. An NFT without a binding is therefore resolved with
the token id of a bound NFT in front of it.
-/

namespace Uptick.Cw721

open Text Outcome

section Rounds

variable (st : Store) (K : GoString)

/-- The binding of an NFT is absent or has both parts. -/
def WellBound (n : GoString) : Prop :=
  boundUID st K n = [] ∨
    (getNFTFromUID (boundUID st K n)).1 ≠ [] ∧ (getNFTFromUID (boundUID st K n)).2 ≠ []

/-- The parts of an NFT's own binding, empty without one. -/
def ownParts (n : GoString) : GoString × GoString := carriedParts st K ([], []) n

/-- The parts that the loop holds behind the NFT at a position. -/
def carriedAt (previous : GoString × GoString) (ns : List GoString) (i : Nat) : GoString × GoString :=
  (ns.take (i + 1)).foldl (carriedParts st K) previous

end Rounds

/-- A caller's token id does not contradict the saved one. -/
def Agrees (org saved : GoString) : Prop := org = [] ∨ saved = [] ∨ saved = org

instance (org saved : GoString) : Decidable (Agrees org saved) := inferInstanceAs (Decidable (_ ∨ _ ∨ _))

/-- The caller's value, the saved one, or the derived one. -/
def choose (org saved derived : GoString) : GoString :=
  if org ≠ [] then org else if saved ≠ [] then saved else derived

def pick (org nft saved : GoString) : GoString := choose org saved (createTokenIDFromNFTID nft)

def ForwardFree (st : Store) (pair : TokenPair) (K t n : GoString) : Prop :=
  t = [] ∨ getNFTPairByContractTokenID st pair.cw721Address t = [] ∨
    getNFTPairByContractTokenID st pair.cw721Address t = createNFTUID K n

/-- The contract that the caller names agrees with the saved one, and what they give, or the class id
gives without them, is the contract of the pair. -/
def ContractPasses (pair : TokenPair) (K caller saved : GoString) : Prop :=
  Agrees caller saved ∧
    (choose caller saved (createContractAddressFromClassID K) = [] ∨
      equalFold (choose caller saved (createContractAddressFromClassID K)) pair.cw721Address = true)

instance (pair : TokenPair) (K caller saved : GoString) : Decidable (ContractPasses pair K caller saved) :=
  inferInstanceAs (Decidable (_ ∧ (_ ∨ _)))

/-- An NFT is accepted when it is resolved with the given saved id. -/
def Accepts (st : Store) (pair : TokenPair) (K org n saved : GoString) : Prop :=
  Agrees org saved ∧ ForwardFree st pair K (pick org n saved) n

lemma getNftData_eq_choose {org n saved r : GoString} {nftType : NftType} :
    getNftData org n saved nftType = .ok r ↔
      Agrees org saved ∧ r = choose org saved (createNftDataByType n nftType) := by
  unfold getNftData Agrees choose
  by_cases ho : org = []
  · by_cases hs : saved = []
    · simp [ho, hs, eq_comm]
    · simp [ho, hs, eq_comm]
  · rw [if_neg fun h => ho h.1, if_neg ho, if_pos ho]
    by_cases hs : saved = [] ∨ saved = org
    · rw [if_pos hs, Except.ok.injEq]
      exact ⟨fun h => ⟨Or.inr hs, h.symm⟩, fun h => h.2.symm⟩
    · simp [ho, hs]

lemma getNftData_tokenId_eq_ok {org n saved r : GoString} :
    getNftData org n saved .tokenId = .ok r ↔ Agrees org saved ∧ r = pick org n saved :=
  getNftData_eq_choose

/-- The loop over the bindings, started with one contract in both places. -/
lemma savedTokens_eq_ok {st : Store} {K : GoString} {ns saved : List GoString} {previous : GoString × GoString}
    {last : GoString} :
    savedTokens st K ns previous previous.2 = .ok (saved, last) ↔
      (∀ n ∈ ns, WellBound st K n) ∧
      saved = (List.range ns.length).map (fun i => (carriedAt st K previous ns i).1) ∧
      last = (ns.foldl (carriedParts st K) previous).2 := by
  induction ns generalizing saved previous with
  | nil =>
    constructor
    · intro h
      cases h
      exact ⟨by simp, rfl, rfl⟩
    · rintro ⟨-, rfl, rfl⟩
      rfl
  | cons n ns ih =>
    rw [savedTokens_cons_eq_ok, List.forall_mem_cons, and_assoc]
    refine and_congr_right fun hwf => ?_
    -- Both copies of the carried contract stay equal.
    have hcarried : (if (carriedParts st K previous n).2 ≠ [] then (carriedParts st K previous n).2
        else previous.2) = (carriedParts st K previous n).2 := by
      by_cases hn : boundUID st K n = []
      · rw [carriedParts, if_pos hn, ite_self]
      · rw [carriedParts, if_neg hn, if_pos (hwf.resolve_left hn).2]
    have hrange : (List.range (n :: ns).length).map (fun i => (carriedAt st K previous (n :: ns) i).1) =
        (carriedParts st K previous n).1 ::
          (List.range ns.length).map fun i => (carriedAt st K (carriedParts st K previous n) ns i).1 := by
      rw [List.length_cons, List.range_succ_eq_map, List.map_cons, List.map_map]
      rfl
    rw [hcarried, hrange, List.foldl_cons]
    simp only [ih]
    constructor
    · rintro ⟨rest, ⟨hall, rfl, hlast⟩, rfl⟩
      exact ⟨hall, rfl, hlast⟩
    · rintro ⟨hall, rfl, hlast⟩
      exact ⟨_, ⟨hall, rfl, hlast⟩, rfl⟩

lemma getNftDatasFrom_eq_ok {prev : GoString} {orgs saveds ns ids : List GoString}
    (hlen : saveds.length = ns.length) :
    getNftDatasFrom .tokenId prev orgs saveds ns = .ok ids ↔
      (∀ i < ns.length, Agrees (orgs.getD i []) (saveds.getD i [])) ∧
      ids = (List.range ns.length).map fun i => pick (orgs.getD i []) (ns.getD i []) (saveds.getD i []) := by
  induction ns generalizing prev orgs saveds ids with
  | nil =>
    constructor
    · intro h
      cases h
      exact ⟨by simp, rfl⟩
    · rintro ⟨-, rfl⟩
      rfl
  | cons n ns ih =>
    cases saveds with
    | nil => simp at hlen
    | cons s saveds =>
      have hlen' : saveds.length = ns.length := by simpa using hlen
      have htail : ∀ i, orgs.tail.getD i [] = orgs.getD (i + 1) [] := by
        intro i
        cases orgs <;> rfl
      have hhead : orgs.headD [] = orgs.getD 0 [] := by
        cases orgs <;> rfl
      rw [getNftDatasFrom]
      simp only [bind_eq_ok, List.headD_cons, List.tail_cons, getNftData_tokenId_eq_ok, ih hlen', htail, hhead,
        Except.ok.injEq]
      rw [List.length_cons, List.range_succ_eq_map, List.map_cons, List.map_map]
      constructor
      · rintro ⟨r, ⟨hagree, rfl⟩, rs, ⟨hall, rfl⟩, rfl⟩
        refine ⟨fun i hi => ?_, rfl⟩
        cases i with
        | zero => exact hagree
        | succ i => exact hall i (by omega)
      · rintro ⟨hall, rfl⟩
        exact ⟨_, ⟨hall 0 (by omega), rfl⟩, _, ⟨fun i hi => hall (i + 1) (by omega), rfl⟩, rfl⟩

lemma getNftDatasFrom_range_eq_ok {prev : GoString} {orgs ns ids : List GoString} {saved : Nat → GoString} :
    getNftDatasFrom .tokenId prev orgs ((List.range ns.length).map saved) ns = .ok ids ↔
      (∀ i < ns.length, Agrees (orgs.getD i []) (saved i)) ∧
      ids = (List.range ns.length).map fun i => pick (orgs.getD i []) (ns.getD i []) (saved i) := by
  have hsaved : ∀ i < ns.length, ((List.range ns.length).map saved).getD i [] = saved i := by
    intro i hi
    rw [List.getD_eq_getElem _ _ (by simpa using hi)]
    simp
  rw [getNftDatasFrom_eq_ok (by simp)]
  apply and_congr
  · apply forall₂_congr
    intro i hi
    rw [hsaved i hi]
  · have hids : ((List.range ns.length).map fun i => pick (orgs.getD i []) (ns.getD i [])
        (((List.range ns.length).map saved).getD i [])) =
        (List.range ns.length).map fun i => pick (orgs.getD i []) (ns.getD i []) (saved i) := by
      apply List.map_congr_left
      intro i hi
      rw [hsaved i (List.mem_range.mp hi)]
    rw [hids]

lemma contractPasses_iff {pair : TokenPair} {K caller saved : GoString} : ContractPasses pair K caller saved ↔
    ∃ c, getNftData caller K saved .contractAddress = .ok c ∧
      ((if c = [] then pair.cw721Address else c) = [] ∨
        equalFold (if c = [] then pair.cw721Address else c) pair.cw721Address = true) := by
  have hself : equalFold pair.cw721Address pair.cw721Address = true := by simp [equalFold]
  have htest : ∀ c, ((if c = [] then pair.cw721Address else c) = [] ∨
      equalFold (if c = [] then pair.cw721Address else c) pair.cw721Address = true) ↔
      c = [] ∨ equalFold c pair.cw721Address = true := by
    intro c
    by_cases hc : c = []
    · simp [hc, hself]
    · simp [hc]
  simp only [getNftData_eq_choose, htest]
  constructor
  · rintro ⟨hagree, hc⟩
    exact ⟨_, ⟨hagree, rfl⟩, hc⟩
  · rintro ⟨c, ⟨hagree, rfl⟩, hc⟩
    exact ⟨hagree, hc⟩

lemma checkForward_eq_ok {st : Store} {pair : TokenPair} {K : GoString} {p : GoString × GoString} :
    checkForward st pair K p = .ok () ↔ ForwardFree st pair K p.1 p.2 := by
  unfold checkForward
  rw [require_eq_ok]
  rfl

lemma forall_mem_zip_range {P : GoString × GoString → Prop} {f : Nat → GoString} {ns : List GoString} :
    (∀ p ∈ ((List.range ns.length).map f).zip ns, P p) ↔ ∀ i < ns.length, P (f i, ns.getD i []) := by
  induction ns generalizing f with
  | nil => simp
  | cons n ns ih =>
    rw [List.length_cons, List.range_succ_eq_map, List.map_cons, List.map_map, List.zip_cons_cons,
      List.forall_mem_cons, ih]
    constructor
    · rintro ⟨hfirst, hrest⟩ i hi
      cases i with
      | zero => exact hfirst
      | succ i => exact hrest i (by omega)
    · intro h
      exact ⟨h 0 (by omega), fun i hi => h (i + 1) (by omega)⟩

section Messages

variable {C : Chain}

/-- The parts that the loop holds behind the NFT at a position of the batch. -/
def heldAt (w : World C) (msg : MsgConvertNFT) (i : Nat) : GoString × GoString :=
  carriedAt w.cw721 msg.classId ([], []) msg.nftIds i

/-- The NFT at a position goes through the checks of its own when it is resolved with a saved id. -/
def PassesAt (w : World C) (msg : MsgConvertNFT) (pair : TokenPair) (i : Nat) (saved : GoString) : Prop :=
  WellBound w.cw721 msg.classId (msg.nftIds.getD i []) ∧
    Accepts w.cw721 pair msg.classId (msg.tokenIds.getD i []) (msg.nftIds.getD i []) saved

lemma resolve_eq_ok {w w' : World C} {msg : MsgConvertNFT} {pair : TokenPair} {c : GoString} {ids : List GoString}
    (hpair : getPairByClass w.cw721 msg.classId = .ok pair)
    (horgs : msg.tokenIds = [] ∨ msg.tokenIds.length = msg.nftIds.length) :
    getContractAddressAndTokenIds w msg = .ok (w', c, ids) ↔
      ContractPasses pair msg.classId msg.contractAddress
        (msg.nftIds.foldl (carriedParts w.cw721 msg.classId) ([], [])).2 ∧
      (∀ i < msg.nftIds.length, PassesAt w msg pair i (heldAt w msg i).1) ∧
      w' = w ∧ c = pair.cw721Address ∧
      ids = (List.range msg.nftIds.length).map fun i =>
        pick (msg.tokenIds.getD i []) (msg.nftIds.getD i []) (heldAt w msg i).1 := by
  have hsame : (if msg.nftIds.length = msg.tokenIds.length then msg.tokenIds else []) = msg.tokenIds := by
    rcases horgs with hnil | hlen
    · rw [hnil, ite_self]
    · rw [if_pos hlen.symm]
  unfold getContractAddressAndTokenIds
  rw [hpair]
  simp only [bind_eq_ok, getNftDatas, hsame]
  constructor
  · rintro ⟨⟨saved, last⟩, hsaved, ids', hids, c', hc', u, hreq, u', hloop, h⟩
    cases h
    obtain ⟨hwell, rfl, rfl⟩ := savedTokens_eq_ok.mp hsaved
    obtain ⟨hagree, rfl⟩ := getNftDatasFrom_range_eq_ok.mp hids
    have hpasses := contractPasses_iff.mpr ⟨c', hc', require_eq_ok.mp hreq⟩
    have hfree := forEach_check_eq_ok.mp hloop
    simp only [checkForward_eq_ok] at hfree
    rw [forall_mem_zip_range] at hfree
    refine ⟨hpasses, fun i hi => ⟨?_, hagree i hi, hfree i hi⟩, rfl, rfl, rfl⟩
    rw [List.getD_eq_getElem _ _ hi]
    exact hwell _ (List.getElem_mem hi)
  · rintro ⟨hpasses, hall, rfl, rfl, rfl⟩
    obtain ⟨c', hc', hcontract⟩ := contractPasses_iff.mp hpasses
    have hwell : ∀ n ∈ msg.nftIds, WellBound w'.cw721 msg.classId n := by
      intro n hn
      obtain ⟨i, hi, rfl⟩ := List.mem_iff_getElem.mp hn
      rw [← List.getD_eq_getElem _ [] hi]
      exact (hall i hi).1
    refine ⟨_, savedTokens_eq_ok.mpr ⟨hwell, rfl, rfl⟩, _,
      getNftDatasFrom_range_eq_ok.mpr ⟨fun i hi => (hall i hi).2.1, rfl⟩, c', hc',
      (), require_of hcontract, (), ?_, rfl⟩
    rw [forEach_check_eq_ok]
    simp only [checkForward_eq_ok]
    rw [forall_mem_zip_range]
    exact fun i hi => (hall i hi).2.2

/-- The message for one NFT of the batch, with the caller's token id for its position. -/
def alone (msg : MsgConvertNFT) (i : Nat) : MsgConvertNFT :=
  { msg with nftIds := (msg.nftIds.drop i).take 1, tokenIds := (msg.tokenIds.drop i).take 1 }

lemma take_one_drop {l : List GoString} {i : Nat} (hi : i < l.length) : (l.drop i).take 1 = [l.getD i []] := by
  rw [List.getD_eq_getElem _ _ hi, List.drop_eq_getElem_cons hi]
  rfl

lemma tokenIds_alone {msg : MsgConvertNFT} {i : Nat} (hi : i < msg.nftIds.length)
    (horgs : msg.tokenIds = [] ∨ msg.tokenIds.length = msg.nftIds.length) :
    ((alone msg i).tokenIds = [] ∨ (alone msg i).tokenIds.length = (alone msg i).nftIds.length) ∧
      (alone msg i).tokenIds.getD 0 [] = msg.tokenIds.getD i [] := by
  rcases horgs with hnil | hlen
  · have : (alone msg i).tokenIds = [] := by simp [alone, hnil]
    rw [this, hnil]
    exact ⟨Or.inl rfl, rfl⟩
  · have htokens : (alone msg i).tokenIds = [msg.tokenIds.getD i []] := take_one_drop (by omega)
    have hnfts : (alone msg i).nftIds = [msg.nftIds.getD i []] := take_one_drop hi
    rw [htokens, hnfts]
    exact ⟨Or.inr rfl, rfl⟩

/-- The parts of the binding of the NFT at a position. -/
def ownAt (w : World C) (msg : MsgConvertNFT) (i : Nat) : GoString × GoString :=
  ownParts w.cw721 msg.classId (msg.nftIds.getD i [])

lemma resolve_alone_eq_ok {w w' : World C} {msg : MsgConvertNFT} {pair : TokenPair} {c : GoString}
    {ids : List GoString} (hpair : getPairByClass w.cw721 msg.classId = .ok pair)
    (horgs : msg.tokenIds = [] ∨ msg.tokenIds.length = msg.nftIds.length) {i : Nat} (hi : i < msg.nftIds.length) :
    getContractAddressAndTokenIds w (alone msg i) = .ok (w', c, ids) ↔
      ContractPasses pair msg.classId msg.contractAddress (ownAt w msg i).2 ∧
      PassesAt w msg pair i (ownAt w msg i).1 ∧ w' = w ∧ c = pair.cw721Address ∧
      ids = [pick (msg.tokenIds.getD i []) (msg.nftIds.getD i []) (ownAt w msg i).1] := by
  have hnfts : (alone msg i).nftIds = [msg.nftIds.getD i []] := take_one_drop hi
  obtain ⟨horgs', hfirst⟩ := tokenIds_alone hi horgs
  have hclass : (alone msg i).classId = msg.classId := rfl
  have hcaller : (alone msg i).contractAddress = msg.contractAddress := rfl
  rw [resolve_eq_ok (hclass ▸ hpair) horgs', hclass, hcaller, hnfts]
  have hone : (∀ j < [msg.nftIds.getD i []].length, PassesAt w (alone msg i) pair j (heldAt w (alone msg i) j).1) ↔
      PassesAt w msg pair i (ownAt w msg i).1 := by
    have hheld : (heldAt w (alone msg i) 0) = ownAt w msg i := by
      rw [heldAt, hnfts]
      rfl
    have hpasses : ∀ s, PassesAt w (alone msg i) pair 0 s ↔ PassesAt w msg pair i s := by
      intro s
      unfold PassesAt
      rw [hfirst, hclass, hnfts]
      rfl
    constructor
    · intro h
      have := h 0 (by simp)
      rwa [hheld, hpasses] at this
    · intro h j hj
      have hzero : j = 0 := by simpa using hj
      rw [hzero, hheld, hpasses]
      exact h
  rw [hone]
  have hids : ((List.range [msg.nftIds.getD i []].length).map fun j =>
      pick ((alone msg i).tokenIds.getD j []) ([msg.nftIds.getD i []].getD j []) (heldAt w (alone msg i) j).1) =
      [pick (msg.tokenIds.getD i []) (msg.nftIds.getD i []) (ownAt w msg i).1] := by
    show [pick ((alone msg i).tokenIds.getD 0 []) _ (heldAt w (alone msg i) 0).1] = _
    rw [hfirst, heldAt, hnfts]
    rfl
  rw [hids]
  rfl

lemma exists_resolve_iff {w : World C} {msg : MsgConvertNFT} {pair : TokenPair}
    (hpair : getPairByClass w.cw721 msg.classId = .ok pair)
    (horgs : msg.tokenIds = [] ∨ msg.tokenIds.length = msg.nftIds.length) :
    (∃ r, getContractAddressAndTokenIds w msg = .ok r) ↔
      ContractPasses pair msg.classId msg.contractAddress
        (msg.nftIds.foldl (carriedParts w.cw721 msg.classId) ([], [])).2 ∧
      ∀ i < msg.nftIds.length, PassesAt w msg pair i (heldAt w msg i).1 := by
  constructor
  · rintro ⟨⟨w', c, ids⟩, h⟩
    obtain ⟨hcontract, hall, -⟩ := (resolve_eq_ok hpair horgs).mp h
    exact ⟨hcontract, hall⟩
  · rintro ⟨hcontract, hall⟩
    exact ⟨_, (resolve_eq_ok hpair horgs).mpr ⟨hcontract, hall, rfl, rfl, rfl⟩⟩

lemma exists_resolve_alone_iff {w : World C} {msg : MsgConvertNFT} {pair : TokenPair} {i : Nat}
    (hpair : getPairByClass w.cw721 msg.classId = .ok pair)
    (horgs : msg.tokenIds = [] ∨ msg.tokenIds.length = msg.nftIds.length) (hi : i < msg.nftIds.length) :
    (∃ r, getContractAddressAndTokenIds w (alone msg i) = .ok r) ↔
      ContractPasses pair msg.classId msg.contractAddress (ownAt w msg i).2 ∧
        PassesAt w msg pair i (ownAt w msg i).1 := by
  constructor
  · rintro ⟨⟨w', c, ids⟩, h⟩
    obtain ⟨hcontract, hpasses, -⟩ := (resolve_alone_eq_ok hpair horgs hi).mp h
    exact ⟨hcontract, hpasses⟩
  · rintro ⟨hcontract, hpasses⟩
    exact ⟨_, (resolve_alone_eq_ok hpair horgs hi).mpr ⟨hcontract, hpasses, rfl, rfl, rfl⟩⟩

/-! ### The parts that are carried -/

lemma carriedAt_eq {st : Store} {K : GoString} {previous : GoString × GoString} {ns : List GoString} {i : Nat}
    (hi : i < ns.length) : carriedAt st K previous ns i =
      carriedParts st K ((ns.take i).foldl (carriedParts st K) previous) (ns.getD i []) := by
  rw [carriedAt, List.take_succ_eq_append_getElem hi, List.foldl_append, List.getD_eq_getElem _ _ hi]
  rfl

lemma heldAt_of_bound {w : World C} {msg : MsgConvertNFT} {i : Nat} (hi : i < msg.nftIds.length)
    (hb : boundUID w.cw721 msg.classId (msg.nftIds.getD i []) ≠ []) : heldAt w msg i = ownAt w msg i := by
  rw [heldAt, carriedAt_eq hi, ownAt, ownParts, carriedParts, if_neg hb, carriedParts, if_neg hb]

lemma ownAt_of_unbound {w : World C} {msg : MsgConvertNFT} {i : Nat}
    (hb : boundUID w.cw721 msg.classId (msg.nftIds.getD i []) = []) : ownAt w msg i = ([], []) := by
  rw [ownAt, ownParts, carriedParts, if_pos hb]

lemma foldl_carriedParts_cases (st : Store) (K : GoString) (previous : GoString × GoString) (ns : List GoString) :
    (ns.foldl (carriedParts st K) previous = previous ∧ ∀ n ∈ ns, boundUID st K n = []) ∨
      ∃ n ∈ ns, ns.foldl (carriedParts st K) previous = ownParts st K n := by
  induction ns generalizing previous with
  | nil => exact Or.inl ⟨rfl, by simp⟩
  | cons n ns ih =>
    rw [List.foldl_cons]
    rcases ih (carriedParts st K previous n) with ⟨hkept, hall⟩ | ⟨m, hm, hlast⟩
    · by_cases hn : boundUID st K n = []
      · rw [carriedParts, if_pos hn] at hkept ⊢
        exact Or.inl ⟨hkept, by simp only [List.forall_mem_cons]; exact ⟨hn, hall⟩⟩
      · refine Or.inr ⟨n, List.mem_cons_self, ?_⟩
        rw [hkept, ownParts, carriedParts, if_neg hn, carriedParts, if_neg hn]
    · exact Or.inr ⟨m, List.mem_cons_of_mem _ hm, hlast⟩

/-- The carried parts make no difference: an NFT without a binding is given by itself the token id that
is carried to it, and the contract passes with the binding of every NFT. -/
structure Uniform (w : World C) (msg : MsgConvertNFT) (pair : TokenPair) : Prop where
  sameID : ∀ i < msg.nftIds.length, boundUID w.cw721 msg.classId (msg.nftIds.getD i []) = [] →
    (heldAt w msg i).1 = [] ∨
      pick (msg.tokenIds.getD i []) (msg.nftIds.getD i []) [] = (heldAt w msg i).1
  contract : ∀ i < msg.nftIds.length,
    ContractPasses pair msg.classId msg.contractAddress (ownAt w msg i).2
  contractOfNone : msg.nftIds = [] → ContractPasses pair msg.classId msg.contractAddress []

def Contradicts (org saved : GoString) : Prop := org ≠ [] ∧ saved ≠ [] ∧ saved ≠ org

/-- The caller's contract contradicts the saved one, or what they give is a contract other than that of the
pair. -/
def ContractClashes (pair : TokenPair) (K caller saved : GoString) : Prop :=
  Contradicts caller saved ∨
    choose caller saved (createContractAddressFromClassID K) ≠ [] ∧
      equalFold (choose caller saved (createContractAddressFromClassID K)) pair.cw721Address = false

/-- The binding of the NFT at a position lacks a part, the caller's token id contradicts the saved one, or the token
is bound to another NFT. -/
def ClashesAt (w : World C) (msg : MsgConvertNFT) (pair : TokenPair) (i : Nat) (saved : GoString) : Prop :=
  boundUID w.cw721 msg.classId (msg.nftIds.getD i []) ≠ [] ∧
      ((ownAt w msg i).1 = [] ∨ (ownAt w msg i).2 = []) ∨
    Contradicts (msg.tokenIds.getD i []) saved ∨
    ∃ t, t = pick (msg.tokenIds.getD i []) (msg.nftIds.getD i []) saved ∧ t ≠ [] ∧
      getNFTPairByContractTokenID w.cw721 pair.cw721Address t ∉ [[], createNFTUID msg.classId (msg.nftIds.getD i [])]

/-- An NFT clashes with its own binding, and the batch with what is carried. -/
structure Refused (w : World C) (msg : MsgConvertNFT) (pair : TokenPair) : Prop where
  alone : ∃ i < msg.nftIds.length, ContractClashes pair msg.classId msg.contractAddress (ownAt w msg i).2 ∨
    ClashesAt w msg pair i (ownAt w msg i).1
  batch : ContractClashes pair msg.classId msg.contractAddress
      (msg.nftIds.foldl (carriedParts w.cw721 msg.classId) ([], [])).2 ∨
    ∃ i < msg.nftIds.length, ClashesAt w msg pair i (heldAt w msg i).1

lemma not_agrees_iff {org saved : GoString} : ¬ Agrees org saved ↔ Contradicts org saved := by
  simp only [Agrees, Contradicts, not_or, ne_eq]

lemma not_contractPasses_iff {pair : TokenPair} {K caller saved : GoString} :
    ¬ ContractPasses pair K caller saved ↔ ContractClashes pair K caller saved := by
  rw [ContractPasses, ContractClashes, not_and_or, not_agrees_iff, not_or, Bool.not_eq_true]

lemma not_passesAt_iff {w : World C} {msg : MsgConvertNFT} {pair : TokenPair} {i : Nat} {saved : GoString} :
    ¬ PassesAt w msg pair i saved ↔ ClashesAt w msg pair i saved := by
  have hown : ¬ WellBound w.cw721 msg.classId (msg.nftIds.getD i []) ↔
      boundUID w.cw721 msg.classId (msg.nftIds.getD i []) ≠ [] ∧
        ((ownAt w msg i).1 = [] ∨ (ownAt w msg i).2 = []) := by
    rw [WellBound, not_or, and_congr_right_iff]
    intro hb
    rw [ownAt, ownParts, carriedParts, if_neg hb]
    tauto
  rw [PassesAt, Accepts, not_and_or, not_and_or, hown, not_agrees_iff, ClashesAt]
  simp [ForwardFree]

/-- A saved id is given to the NFT, since a caller's id that passes agrees with it. -/
lemma pick_eq_saved {org n saved : GoString} (hs : saved ≠ []) (hagree : Agrees org saved) :
    pick org n saved = saved := by
  rw [pick, choose, if_pos hs]
  rcases hagree with rfl | hnil | rfl
  · rfl
  · exact absurd hnil hs
  · exact ite_self _

/-- A carried id that the NFT is given anyway changes nothing. -/
lemma accepts_and_pick_of_same {org n saved : GoString}
    (h : saved = [] ∨ pick org n [] = saved) (st : Store) (pair : TokenPair) (K : GoString) :
    (Accepts st pair K org n saved ↔ Accepts st pair K org n []) ∧ pick org n saved = pick org n [] := by
  rcases h with rfl | rfl
  · exact ⟨Iff.rfl, rfl⟩
  · have hagree : Agrees org (pick org n []) := by
      by_cases ho : org = []
      · exact Or.inl ho
      · exact Or.inr (Or.inr (by rw [pick, choose, if_pos ho]))
    have hpick : pick org n (pick org n []) = pick org n [] := by
      by_cases ho : org = []
      · by_cases hd : createTokenIDFromNFTID n = []
        · simp [pick, choose, ho, hd]
        · simp [pick, choose, ho, hd]
      · simp [pick, choose, ho]
    refine ⟨?_, hpick⟩
    have hnone : Agrees org [] := Or.inr (Or.inl rfl)
    rw [Accepts, Accepts, hpick]
    simp only [hagree, hnone]

lemma Uniform.passesAt_and_pick {w : World C} {msg : MsgConvertNFT} {pair : TokenPair} (hu : Uniform w msg pair)
    {i : Nat} (hi : i < msg.nftIds.length) :
    (PassesAt w msg pair i (heldAt w msg i).1 ↔ PassesAt w msg pair i (ownAt w msg i).1) ∧
      pick (msg.tokenIds.getD i []) (msg.nftIds.getD i []) (heldAt w msg i).1 =
        pick (msg.tokenIds.getD i []) (msg.nftIds.getD i []) (ownAt w msg i).1 := by
  by_cases hb : boundUID w.cw721 msg.classId (msg.nftIds.getD i []) = []
  · rw [ownAt_of_unbound hb]
    obtain ⟨haccepts, hpick⟩ := accepts_and_pick_of_same (hu.sameID i hi hb) w.cw721 pair msg.classId
    exact ⟨and_congr_right fun _ => haccepts, hpick⟩
  · rw [heldAt_of_bound hi hb]
    exact ⟨Iff.rfl, rfl⟩

lemma Uniform.contract_held {w : World C} {msg : MsgConvertNFT} {pair : TokenPair} (hu : Uniform w msg pair) :
    ContractPasses pair msg.classId msg.contractAddress
      (msg.nftIds.foldl (carriedParts w.cw721 msg.classId) ([], [])).2 := by
  rcases foldl_carriedParts_cases w.cw721 msg.classId ([], []) msg.nftIds with ⟨hnone, hall⟩ | ⟨n, hn, hlast⟩
  · rw [hnone]
    by_cases hempty : msg.nftIds = []
    · exact hu.contractOfNone hempty
    · have hpos : 0 < msg.nftIds.length := List.length_pos_iff.mpr hempty
      have hfirst := hu.contract 0 hpos
      rwa [ownAt_of_unbound (by rw [List.getD_eq_getElem _ _ hpos]; exact hall _ (List.getElem_mem hpos))] at hfirst
  · obtain ⟨i, hi, rfl⟩ := List.mem_iff_getElem.mp hn
    have := hu.contract i hi
    rwa [ownAt, List.getD_eq_getElem _ _ hi, ← hlast] at this

lemma refused_of_fails {w : World C} {msg : MsgConvertNFT} {pair : TokenPair}
    (hpair : getPairByClass w.cw721 msg.classId = .ok pair)
    (horgs : msg.tokenIds = [] ∨ msg.tokenIds.length = msg.nftIds.length)
    (hbatch : ¬ ∃ r, getContractAddressAndTokenIds w msg = .ok r) {i : Nat} (hi : i < msg.nftIds.length)
    (halone : ¬ ∃ r, getContractAddressAndTokenIds w (alone msg i) = .ok r) : Refused w msg pair := by
  rw [exists_resolve_iff hpair horgs, not_and_or, not_contractPasses_iff] at hbatch
  rw [exists_resolve_alone_iff hpair horgs hi, not_and_or, not_contractPasses_iff, not_passesAt_iff] at halone
  push Not at hbatch
  simp only [not_passesAt_iff] at hbatch
  exact ⟨⟨i, hi, halone⟩, hbatch⟩

lemma Refused.batch_fails {w : World C} {msg : MsgConvertNFT} {pair : TokenPair} (h : Refused w msg pair)
    (hpair : getPairByClass w.cw721 msg.classId = .ok pair)
    (horgs : msg.tokenIds = [] ∨ msg.tokenIds.length = msg.nftIds.length) :
    ¬ ∃ r, getContractAddressAndTokenIds w msg = .ok r := by
  rw [exists_resolve_iff hpair horgs]
  rintro ⟨hcontract, hall⟩
  rcases h.batch with hclash | ⟨i, hi, hclash⟩
  · exact not_contractPasses_iff.mpr hclash hcontract
  · exact not_passesAt_iff.mpr hclash (hall i hi)

lemma Refused.alone_fails {w : World C} {msg : MsgConvertNFT} {pair : TokenPair} (h : Refused w msg pair)
    (hpair : getPairByClass w.cw721 msg.classId = .ok pair)
    (horgs : msg.tokenIds = [] ∨ msg.tokenIds.length = msg.nftIds.length) :
    ∃ i < msg.nftIds.length, ¬ ∃ r, getContractAddressAndTokenIds w (Cw721.alone msg i) = .ok r := by
  obtain ⟨i, hi, hclash⟩ := h.alone
  refine ⟨i, hi, ?_⟩
  rw [exists_resolve_alone_iff hpair horgs hi, not_and_or, not_contractPasses_iff, not_passesAt_iff]
  exact hclash

/-- A batch succeeds exactly when each of its NFTs does alone, and gives it the same token id, if and only
if the carried parts make no difference or the batch and some NFT of it are refused anyway. -/
theorem batch_resolves_as_alone_iff (w : World C) (msg : MsgConvertNFT) (pair : TokenPair)
    (hpair : getPairByClass w.cw721 msg.classId = .ok pair)
    (horgs : msg.tokenIds = [] ∨ msg.tokenIds.length = msg.nftIds.length) :
    (((∃ r, getContractAddressAndTokenIds w msg = .ok r) ↔
        ∀ i < msg.nftIds.length, ∃ r, getContractAddressAndTokenIds w (alone msg i) = .ok r) ∧
      ∀ w' c ids, getContractAddressAndTokenIds w msg = .ok (w', c, ids) →
        ids.length = msg.nftIds.length ∧ ∀ i < msg.nftIds.length,
          getContractAddressAndTokenIds w (alone msg i) = .ok (w', c, [ids.getD i []])) ↔
      Uniform w msg pair ∨ Refused w msg pair := by
  have hbatch := exists_resolve_iff hpair horgs
  have halone := fun i hi => exists_resolve_alone_iff (i := i) hpair horgs hi
  have hgetD : ∀ f : Nat → GoString, ∀ i < msg.nftIds.length,
      ((List.range msg.nftIds.length).map f).getD i [] = f i := by
    intro f i hi
    rw [List.getD_eq_getElem _ _ (by simpa using hi)]
    simp
  constructor
  · rintro ⟨hiff, hsame⟩
    by_cases hok : ∃ r, getContractAddressAndTokenIds w msg = .ok r
    · left
      obtain ⟨hcontract, hall⟩ := hbatch.mp hok
      have heach := hiff.mp hok
      have hown : ∀ i < msg.nftIds.length, pick (msg.tokenIds.getD i []) (msg.nftIds.getD i []) (heldAt w msg i).1 =
          pick (msg.tokenIds.getD i []) (msg.nftIds.getD i []) (ownAt w msg i).1 := by
        intro i hi
        have h := (hsame _ _ _ ((resolve_eq_ok hpair horgs).mpr ⟨hcontract, hall, rfl, rfl, rfl⟩)).2 i hi
        have hids := ((resolve_alone_eq_ok hpair horgs hi).mp h).2.2.2.2
        rw [hgetD _ i hi] at hids
        exact (List.cons.inj hids).1
      refine ⟨fun i hi hb => ?_, fun i hi => ((halone i hi).mp (heach i hi)).1, fun hnil => ?_⟩
      · by_cases hheld : (heldAt w msg i).1 = []
        · exact Or.inl hheld
        · right
          have hpick := hown i hi
          rw [ownAt_of_unbound hb] at hpick
          rw [← hpick]
          exact pick_eq_saved hheld (hall i hi).2.1
      · rwa [hnil] at hcontract
    · right
      have hnot : ¬ ∀ i < msg.nftIds.length, ∃ r, getContractAddressAndTokenIds w (alone msg i) = .ok r :=
        fun h => hok (hiff.mpr h)
      simp only [not_forall] at hnot
      obtain ⟨i, hi, hfail⟩ := hnot
      exact refused_of_fails hpair horgs hok hi hfail
  · rintro (hu | hr)
    · constructor
      · rw [hbatch]
        constructor
        · rintro ⟨-, hall⟩ i hi
          exact (halone i hi).mpr ⟨hu.contract i hi, (hu.passesAt_and_pick hi).1.mp (hall i hi)⟩
        · intro h
          exact ⟨hu.contract_held, fun i hi => (hu.passesAt_and_pick hi).1.mpr ((halone i hi).mp (h i hi)).2⟩
      · intro w' c ids h
        obtain ⟨-, hall, rfl, rfl, rfl⟩ := (resolve_eq_ok hpair horgs).mp h
        refine ⟨by simp, fun i hi => (resolve_alone_eq_ok hpair horgs hi).mpr ?_⟩
        refine ⟨hu.contract i hi, (hu.passesAt_and_pick hi).1.mp (hall i hi), rfl, rfl, ?_⟩
        rw [hgetD _ i hi, (hu.passesAt_and_pick hi).2]
    · have hno := hr.batch_fails hpair horgs
      obtain ⟨i, hi, hfail⟩ := hr.alone_fails hpair horgs
      exact ⟨iff_of_false hno fun h => hfail (h i hi), fun w' c ids h => absurd ⟨_, h⟩ hno⟩

end Messages

/-- The NFT `cat1` of the registered class `kitty` is bound to the token `7`. -/
def boundWorld : World Sample.chain :=
  { kittyPaired with
    cw721 := setNFTPairByClassNFTID
      (setNFTPairByContractTokenID kittyPaired.cw721 cwAddress (str "7") (str "kitty") (str "cat1"))
      (str "kitty") (str "cat1") cwAddress (str "7") }

def mixedBatch (ids : List GoString) : MsgConvertNFT := ⟨str "kitty", ids, [], [], cwAddress, []⟩

/-- With the bound NFT behind the other one, the batch goes through as its NFTs do alone. -/
theorem batch_resolves_as_alone_sample :
    ((∃ r, getContractAddressAndTokenIds boundWorld (mixedBatch [str "cat2", str "cat1"]) = .ok r) ↔
      ∀ i < 2, ∃ r, getContractAddressAndTokenIds boundWorld (alone (mixedBatch [str "cat2", str "cat1"]) i) = .ok r) ∧
    ∀ i < 2, ∃ r, getContractAddressAndTokenIds boundWorld (alone (mixedBatch [str "cat2", str "cat1"]) i) = .ok r := by
  have hpair : getPairByClass boundWorld.cw721 (str "kitty") = .ok ⟨cwAddress, str "kitty"⟩ := by decide +kernel
  have hu : Uniform boundWorld (mixedBatch [str "cat2", str "cat1"]) ⟨cwAddress, str "kitty"⟩ :=
    ⟨by decide +kernel, by decide +kernel, by decide +kernel⟩
  have hmain := (batch_resolves_as_alone_iff boundWorld (mixedBatch [str "cat2", str "cat1"]) _ hpair
    (Or.inl rfl)).mpr (Or.inl hu)
  refine ⟨hmain.1, hmain.1.mp ?_⟩
  exact exists_eq_ok (by decide +kernel)

/-- With the bound NFT in front, the other one is resolved with the token `7` and the batch is refused,
while both go through alone. -/
theorem batch_refused_behind_bound :
    (∀ i < 2, ∃ r, getContractAddressAndTokenIds boundWorld (alone (mixedBatch [str "cat1", str "cat2"]) i) = .ok r) ∧
    ¬ ∃ r, getContractAddressAndTokenIds boundWorld (mixedBatch [str "cat1", str "cat2"]) = .ok r := by
  constructor
  · have hall : ∀ i < 2, (getContractAddressAndTokenIds boundWorld
        (alone (mixedBatch [str "cat1", str "cat2"]) i)).toBool = true := by decide +kernel
    exact fun i hi => exists_eq_ok (hall i hi)
  · rintro ⟨r, hr⟩
    have hfail : (getContractAddressAndTokenIds boundWorld (mixedBatch [str "cat1", str "cat2"])).toBool = false := by
      decide +kernel
    rw [hr] at hfail
    cases hfail

end Uptick.Cw721
