import Mathlib.Data.Set.Function
import Uptick.Cw721.Resolve
import Uptick.Erc721.Resolve
import Uptick.Erc721.Spelling
import Uptick.Lib.BigEndian
import Uptick.SampleChain

/-!
# Derived ids

Both modules derive the token id of an NFT without a binding from the id of the NFT. Before that the
mark `uptick-` is taken away: x/erc721 takes the first one wherever it stands, x/cw721 only one in
front, where it may also lack its hyphen. Two ids that are the same text once the mark is gone derive
the same token id.
-/

namespace Uptick

open Text Numeral Outcome Evm

def mark : GoString := Erc721.defaultPrefix ++ str "-"

lemma mark_ne_nil : mark ≠ [] := by decide

/-- The id is the text, without a mark, or the text with a mark inside, which is the first one. -/
def MarkedInside (t id : GoString) : Prop :=
  ¬ mark <:+: id ∧ id = t ∨ ∃ x y, id = x ++ mark ++ y ∧ t = x ++ y ∧ ¬ mark <:+: x ++ mark.dropLast

/-- The id is the text behind a mark, with or without the hyphen, or the text alone. -/
def MarkedInFront (t id : GoString) : Prop :=
  id = mark ++ t ∨ (id = Erc721.defaultPrefix ++ t ∧ hasPrefix t (str "-") = false) ∨
    (id = t ∧ hasPrefix t Erc721.defaultPrefix = false)

/-- The hash tells the texts of a set apart by digests of one length. -/
structure TellsApart (X : Extern) (S : Set GoString) : Prop where
  length_eq : ∀ s ∈ S, ∀ t ∈ S, (X.sha256 s).length = (X.sha256 t).length
  injOn : Set.InjOn X.sha256 S

lemma removeFirst_mark_eq_iff {id t : GoString} : removeFirst mark id = t ↔ MarkedInside t id :=
  removeFirst_eq_iff mark_ne_nil

/-- On texts that the hash tells apart, the token id of x/erc721 is determined by the text without
the mark. -/
lemma erc721_derived_eq_iff {X : Extern} {S : Set GoString} (hS : TellsApart X S) {a b : GoString}
    (ha : removeFirst mark a ∈ S) (hb : removeFirst mark b ∈ S) :
    Erc721.createTokenIDFromNFTID X a = Erc721.createTokenIDFromNFTID X b ↔
      ∃ t, MarkedInside t a ∧ MarkedInside t b := by
  constructor
  · intro h
    have hvalue : BigEndian.decode (X.sha256 (removeFirst mark a)) =
        BigEndian.decode (X.sha256 (removeFirst mark b)) :=
      text_injective (by decide) (by decide) h
    have hdigest := (BigEndian.decode_inj (hS.length_eq _ ha _ hb)).mp hvalue
    have htext : removeFirst mark a = removeFirst mark b := hS.injOn ha hb hdigest
    exact ⟨removeFirst mark b, removeFirst_mark_eq_iff.mp htext, removeFirst_mark_eq_iff.mp rfl⟩
  · rintro ⟨t, hta, htb⟩
    have htext : removeFirst mark a = removeFirst mark b := by
      rw [removeFirst_mark_eq_iff.mpr hta, removeFirst_mark_eq_iff.mpr htb]
    show text 10 (Erc721.setBytes (X.sha256 (removeFirst mark a))) =
      text 10 (Erc721.setBytes (X.sha256 (removeFirst mark b)))
    rw [htext]

lemma hasPrefix_append_right (pre s t : GoString) : hasPrefix (pre ++ s) (pre ++ t) = hasPrefix s t := by
  rw [Bool.eq_iff_iff, hasPrefix_iff, hasPrefix_iff]
  simp [List.append_assoc]

lemma trimPrefix_append (pre s : GoString) : trimPrefix (pre ++ s) pre = s := by
  rw [trimPrefix, if_pos (hasPrefix_append pre s), List.drop_left]

lemma hasPrefix_default_of_mark {id : GoString} (h : hasPrefix id mark = true) :
    hasPrefix id Erc721.defaultPrefix = true := by
  obtain ⟨t, rfl⟩ := hasPrefix_iff.mp h
  rw [mark, List.append_assoc]
  exact hasPrefix_append _ _

lemma cw721_createTokenIDFromNFTID_eq (id : GoString) : Cw721.createTokenIDFromNFTID id =
    if hasPrefix id mark then trimPrefix id mark
    else if hasPrefix id Erc721.defaultPrefix then trimPrefix id Erc721.defaultPrefix else id := rfl

/-- x/cw721 takes one mark away from the front. -/
lemma cw721_derived_eq_iff_marked {id t : GoString} :
    Cw721.createTokenIDFromNFTID id = t ↔ MarkedInFront t id := by
  have hhyphen : ∀ s, hasPrefix (Erc721.defaultPrefix ++ s) mark = hasPrefix s (str "-") := fun s =>
    hasPrefix_append_right _ _ _
  constructor
  · rintro rfl
    rw [cw721_createTokenIDFromNFTID_eq]
    split
    · rename_i h
      obtain ⟨t, rfl⟩ := hasPrefix_iff.mp h
      rw [trimPrefix_append]
      exact Or.inl rfl
    · rename_i hmark
      split
      · rename_i h
        obtain ⟨t, rfl⟩ := hasPrefix_iff.mp h
        rw [trimPrefix_append]
        refine Or.inr (Or.inl ⟨rfl, ?_⟩)
        rw [← hhyphen]
        exact Bool.eq_false_of_not_eq_true hmark
      · rename_i h
        exact Or.inr (Or.inr ⟨rfl, Bool.eq_false_of_not_eq_true h⟩)
  · rintro (rfl | ⟨rfl, hno⟩ | ⟨rfl, hno⟩)
    · rw [cw721_createTokenIDFromNFTID_eq, if_pos (hasPrefix_append mark t)]
      exact trimPrefix_append mark t
    · have hmark : ¬ hasPrefix (Erc721.defaultPrefix ++ t) mark = true := by
        rw [hhyphen, hno]
        decide
      rw [cw721_createTokenIDFromNFTID_eq, if_neg hmark, if_pos (hasPrefix_append _ t)]
      exact trimPrefix_append _ t
    · have hmark : ¬ hasPrefix id mark = true := by
        intro h
        rw [hasPrefix_default_of_mark h] at hno
        cases hno
      rw [cw721_createTokenIDFromNFTID_eq, if_neg hmark, if_neg (by simp [hno])]

lemma cw721_derived_eq_iff {a b : GoString} :
    Cw721.createTokenIDFromNFTID a = Cw721.createTokenIDFromNFTID b ↔
      ∃ t, MarkedInFront t a ∧ MarkedInFront t b := by
  constructor
  · intro h
    exact ⟨_, cw721_derived_eq_iff_marked.mp h, cw721_derived_eq_iff_marked.mp rfl⟩
  · rintro ⟨t, hta, htb⟩
    rw [cw721_derived_eq_iff_marked.mpr hta, cw721_derived_eq_iff_marked.mpr htb]

lemma headD_of_forall_nil {l : List GoString} (h : ∀ s ∈ l, s = []) : l.headD [] = [] := by
  cases l with
  | nil => rfl
  | cons s ss => exact h s List.mem_cons_self

lemma erc721_getNftDatasFrom_unbound (X : Extern) {orgs saveds ids : List GoString}
    (horgs : ∀ o ∈ orgs, o = []) (hsaveds : ∀ s ∈ saveds, s = []) :
    Erc721.getNftDatasFrom X .tokenId [] orgs saveds ids =
      .ok (ids.map (Erc721.createTokenIDFromNFTID X)) := by
  induction ids generalizing orgs saveds with
  | nil => rfl
  | cons id ids ih =>
    have ho := headD_of_forall_nil horgs
    have hs := headD_of_forall_nil hsaveds
    have htail := ih (fun o h => horgs o (List.mem_of_mem_tail h)) (fun s h => hsaveds s (List.mem_of_mem_tail h))
    have hfirst : Erc721.getNftData X [] id [] .tokenId = .ok (Erc721.createTokenIDFromNFTID X id) := rfl
    rw [Erc721.getNftDatasFrom]
    simp only [ho, hs, hfirst, ok_bind, htail, List.map_cons]

lemma cw721_getNftDatasFrom_unbound {orgs saveds ids : List GoString}
    (horgs : ∀ o ∈ orgs, o = []) (hsaveds : ∀ s ∈ saveds, s = []) :
    Cw721.getNftDatasFrom .tokenId [] orgs saveds ids = .ok (ids.map Cw721.createTokenIDFromNFTID) := by
  induction ids generalizing orgs saveds with
  | nil => rfl
  | cons id ids ih =>
    have ho := headD_of_forall_nil horgs
    have hs := headD_of_forall_nil hsaveds
    have htail := ih (fun o h => horgs o (List.mem_of_mem_tail h)) (fun s h => hsaveds s (List.mem_of_mem_tail h))
    have hfirst : Cw721.getNftData [] id [] .tokenId = .ok (Cw721.createTokenIDFromNFTID id) := rfl
    rw [Cw721.getNftDatasFrom]
    simp only [ho, hs, hfirst, ok_bind, htail, List.map_cons]

lemma Erc721.exists_getNftDatas_of_unsaved {X : Extern} {orgs saveds ids : List GoString}
    (hsaveds : ∀ s ∈ saveds, s = []) : ∃ rs, Erc721.getNftDatas X orgs ids saveds .tokenId = .ok rs := by
  suffices h : ∀ os, ∃ rs, Erc721.getNftDatasFrom X .tokenId [] os saveds ids = .ok rs from h _
  induction ids generalizing saveds with
  | nil => exact fun _ => ⟨[], rfl⟩
  | cons id ids ih =>
    intro os
    have hs := headD_of_forall_nil hsaveds
    obtain ⟨rs, hrs⟩ := ih (fun s h => hsaveds s (List.mem_of_mem_tail h)) os.tail
    have hfirst : ∃ r, Erc721.getNftData X (os.headD []) id [] .tokenId = .ok r := by
      by_cases ho : os.headD [] = []
      · exact ⟨_, by rw [ho]; rfl⟩
      · exact ⟨_, by rw [Erc721.getNftData, if_neg fun h => ho h.1, if_neg ho, if_pos (Or.inl rfl)]⟩
    obtain ⟨r, hr⟩ := hfirst
    refine ⟨r :: rs, ?_⟩
    rw [Erc721.getNftDatasFrom]
    simp only [hs, hr, ok_bind, hrs]

lemma erc721_getNftDatas_unbound (X : Extern) {orgs saveds ids : List GoString}
    (horgs : ∀ o ∈ orgs, o = []) (hsaveds : ∀ s ∈ saveds, s = []) :
    Erc721.getNftDatas X orgs ids saveds .tokenId = .ok (ids.map (Erc721.createTokenIDFromNFTID X)) := by
  unfold Erc721.getNftDatas
  split
  · exact erc721_getNftDatasFrom_unbound X horgs hsaveds
  · exact erc721_getNftDatasFrom_unbound X (by simp) hsaveds

lemma Cw721.exists_getNftDatas_of_unsaved {orgs saveds ids : List GoString}
    (hsaveds : ∀ s ∈ saveds, s = []) : ∃ rs, Cw721.getNftDatas orgs ids saveds .tokenId = .ok rs := by
  suffices h : ∀ os, ∃ rs, Cw721.getNftDatasFrom .tokenId [] os saveds ids = .ok rs from h _
  induction ids generalizing saveds with
  | nil => exact fun _ => ⟨[], rfl⟩
  | cons id ids ih =>
    intro os
    have hs := headD_of_forall_nil hsaveds
    obtain ⟨rs, hrs⟩ := ih (fun s h => hsaveds s (List.mem_of_mem_tail h)) os.tail
    have hfirst : ∃ r, Cw721.getNftData (os.headD []) id [] .tokenId = .ok r := by
      by_cases ho : os.headD [] = []
      · exact ⟨_, by rw [ho]; rfl⟩
      · exact ⟨_, by rw [Cw721.getNftData, if_neg fun h => ho h.1, if_neg ho, if_pos (Or.inl rfl)]⟩
    obtain ⟨r, hr⟩ := hfirst
    refine ⟨r :: rs, ?_⟩
    rw [Cw721.getNftDatasFrom]
    simp only [hs, hr, ok_bind, hrs]

lemma cw721_getNftDatas_unbound {orgs saveds ids : List GoString}
    (horgs : ∀ o ∈ orgs, o = []) (hsaveds : ∀ s ∈ saveds, s = []) :
    Cw721.getNftDatas orgs ids saveds .tokenId = .ok (ids.map Cw721.createTokenIDFromNFTID) := by
  unfold Cw721.getNftDatas
  split
  · exact cw721_getNftDatasFrom_unbound horgs hsaveds
  · exact cw721_getNftDatasFrom_unbound (by simp) hsaveds

lemma erc721_savedTokens_unbound {st : Erc721.Store} {classId last : GoString} {ids : List GoString}
    (hunbound : ∀ id ∈ ids, Erc721.getTokenUIDPairByNFTUID st (Erc721.createNFTUID classId id) = []) :
    ∀ s ∈ (Erc721.savedTokens st classId ids last).1, s = [] := by
  induction ids generalizing last with
  | nil => simp [Erc721.savedTokens]
  | cons id ids ih =>
    have hid := hunbound id List.mem_cons_self
    have htail : ∀ i ∈ ids, Erc721.getTokenUIDPairByNFTUID st (Erc721.createNFTUID classId i) = [] :=
      fun i hi => hunbound i (List.mem_cons_of_mem _ hi)
    have hnil : Erc721.getNFTFromUID [] = ([], []) := rfl
    intro s hs
    rw [Erc721.savedTokens, hid, hnil] at hs
    rcases List.mem_cons.mp hs with rfl | hs
    · rfl
    · exact ih htail s hs

lemma cw721_savedTokens_unbound {st : Cw721.Store} {classId contract last : GoString} {ids saveds : List GoString}
    (hunbound : ∀ id ∈ ids, Cw721.getTokenUIDPairByNFTUID st (Cw721.createNFTUID classId id) = [])
    (h : Cw721.savedTokens st classId ids ([], []) contract = .ok (saveds, last)) : ∀ s ∈ saveds, s = [] := by
  induction ids generalizing saveds contract with
  | nil =>
    cases h
    simp
  | cons id ids ih =>
    have hid := hunbound id List.mem_cons_self
    have htail : ∀ i ∈ ids, Cw721.getTokenUIDPairByNFTUID st (Cw721.createNFTUID classId i) = [] :=
      fun i hi => hunbound i (List.mem_cons_of_mem _ hi)
    rw [Cw721.savedTokens, hid] at h
    obtain ⟨-, h⟩ := require_bind_eq_ok.mp h
    obtain ⟨⟨rest, last'⟩, hrest, h⟩ := bind_eq_ok.mp h
    cases h
    intro s hs
    rcases List.mem_cons.mp hs with rfl | hs
    · rfl
    · exact ih htail hrest s hs

variable {C : Chain}

lemma erc721_tokenIds_unbound {w w' : World C} {msg : Erc721.MsgConvertNFT} {c : GoString} {ids : List GoString}
    (horgs : ∀ o ∈ msg.evmTokenIds, o = [])
    (hunbound : ∀ id ∈ msg.cosmosTokenIds,
      Erc721.getTokenUIDPairByNFTUID w.erc721 (Erc721.createNFTUID msg.classId id) = [])
    (h : Erc721.getContractAddressAndTokenIds w msg = .ok (w', c, ids)) :
    ids = msg.cosmosTokenIds.map (Erc721.createTokenIDFromNFTID C.toExtern) := by
  unfold Erc721.getContractAddressAndTokenIds at h
  split at h
  · obtain ⟨ids', hids, h⟩ := bind_eq_ok.mp h
    obtain ⟨⟨w₁, contract⟩, -, h⟩ := bind_eq_ok.mp h
    obtain ⟨-, h⟩ := require_bind_eq_ok.mp h
    cases h
    rw [erc721_getNftDatas_unbound _ horgs (by simp)] at hids
    exact (Except.ok.inj hids).symm
  · obtain ⟨ids', hids, h⟩ := bind_eq_ok.mp h
    obtain ⟨contract, -, h⟩ := bind_eq_ok.mp h
    obtain ⟨-, h⟩ := require_bind_eq_ok.mp h
    obtain ⟨-, h⟩ := check_bind_eq_ok.mp h
    cases h
    rw [erc721_getNftDatas_unbound _ horgs (erc721_savedTokens_unbound hunbound)] at hids
    exact (Except.ok.inj hids).symm

lemma cw721_tokenIds_unbound {w w' : World C} {msg : Cw721.MsgConvertNFT} {c : GoString} {ids : List GoString}
    (horgs : ∀ o ∈ msg.tokenIds, o = [])
    (hunbound : ∀ id ∈ msg.nftIds,
      Cw721.getTokenUIDPairByNFTUID w.cw721 (Cw721.createNFTUID msg.classId id) = [])
    (h : Cw721.getContractAddressAndTokenIds w msg = .ok (w', c, ids)) :
    ids = msg.nftIds.map Cw721.createTokenIDFromNFTID := by
  unfold Cw721.getContractAddressAndTokenIds at h
  split at h
  · obtain ⟨ids', hids, h⟩ := bind_eq_ok.mp h
    obtain ⟨-, h⟩ := require_bind_eq_ok.mp h
    obtain ⟨⟨w₁, contract⟩, -, h⟩ := bind_eq_ok.mp h
    cases h
    rw [cw721_getNftDatas_unbound horgs (by simp)] at hids
    exact (Except.ok.inj hids).symm
  · obtain ⟨⟨saveds, last⟩, hsaved, h⟩ := bind_eq_ok.mp h
    obtain ⟨ids', hids, h⟩ := bind_eq_ok.mp h
    obtain ⟨contract, -, h⟩ := bind_eq_ok.mp h
    obtain ⟨-, h⟩ := require_bind_eq_ok.mp h
    obtain ⟨-, h⟩ := check_bind_eq_ok.mp h
    cases h
    rw [cw721_getNftDatas_unbound horgs (cw721_savedTokens_unbound hunbound hsaved)] at hids
    exact (Except.ok.inj hids).symm

lemma nodup_map_iff {f : GoString → GoString} {R : GoString → GoString → Prop} {l : List GoString}
    (h : ∀ a ∈ l, ∀ b ∈ l, f a = f b ↔ R a b) : (l.map f).Nodup ↔ l.Pairwise fun a b => ¬ R a b := by
  rw [List.Nodup, List.pairwise_map]
  constructor
  · intro hp
    exact hp.imp_of_mem fun ha hb hne hr => hne ((h _ ha _ hb).mpr hr)
  · intro hp
    exact hp.imp_of_mem fun ha hb hr heq => hr ((h _ ha _ hb).mp heq)

/-! ### Distinct ids -/

/-- The token ids of two NFTs are distinct exactly when the NFT ids are not one text up to the mark,
and a batch of NFTs without bindings and without chosen ids derives no token id twice exactly when
this holds of any two of its NFTs. -/
theorem derived_distinct_iff_marks_apart (C : Chain) (S : Set GoString) (hS : TellsApart C.toExtern S) :
    (∀ a b, removeFirst mark a ∈ S → removeFirst mark b ∈ S →
      (Erc721.createTokenIDFromNFTID C.toExtern a ≠ Erc721.createTokenIDFromNFTID C.toExtern b ↔
        ¬ ∃ t, MarkedInside t a ∧ MarkedInside t b)) ∧
    (∀ a b, Cw721.createTokenIDFromNFTID a ≠ Cw721.createTokenIDFromNFTID b ↔
      ¬ ∃ t, MarkedInFront t a ∧ MarkedInFront t b) ∧
    (∀ (w w' : World C) (msg : Erc721.MsgConvertNFT) (c : GoString) (ids : List GoString),
      (∀ o ∈ msg.evmTokenIds, o = []) →
      (∀ id ∈ msg.cosmosTokenIds, removeFirst mark id ∈ S ∧
        Erc721.getTokenUIDPairByNFTUID w.erc721 (Erc721.createNFTUID msg.classId id) = []) →
      Erc721.getContractAddressAndTokenIds w msg = .ok (w', c, ids) →
      (ids.Nodup ↔ msg.cosmosTokenIds.Pairwise fun a b => ¬ ∃ t, MarkedInside t a ∧ MarkedInside t b)) ∧
    (∀ (w w' : World C) (msg : Cw721.MsgConvertNFT) (c : GoString) (ids : List GoString),
      (∀ o ∈ msg.tokenIds, o = []) →
      (∀ id ∈ msg.nftIds, Cw721.getTokenUIDPairByNFTUID w.cw721 (Cw721.createNFTUID msg.classId id) = []) →
      Cw721.getContractAddressAndTokenIds w msg = .ok (w', c, ids) →
      (ids.Nodup ↔ msg.nftIds.Pairwise fun a b => ¬ ∃ t, MarkedInFront t a ∧ MarkedInFront t b)) := by
  refine ⟨fun a b ha hb => (erc721_derived_eq_iff hS ha hb).not, fun a b => cw721_derived_eq_iff.not,
    fun w w' msg c ids horgs hids h => ?_, fun w w' msg c ids horgs hids h => ?_⟩
  · rw [erc721_tokenIds_unbound horgs (fun id hid => (hids id hid).2) h]
    exact nodup_map_iff fun a ha b hb => erc721_derived_eq_iff hS (hids a ha).1 (hids b hb).1
  · rw [cw721_tokenIds_unbound horgs hids h]
    exact nodup_map_iff fun a _ b _ => cw721_derived_eq_iff

/-- The ids `cat2` and `cat3` have no mark and derive distinct token ids. -/
theorem derived_distinct_sample :
    Erc721.createTokenIDFromNFTID Sample.X (str "cat2") ≠ Erc721.createTokenIDFromNFTID Sample.X (str "cat3") ∧
      Cw721.createTokenIDFromNFTID (str "cat2") ≠ Cw721.createTokenIDFromNFTID (str "cat3") := by
  have hS : TellsApart Sample.chain.toExtern {str "cat2", str "cat3"} := by
    constructor
    · rintro s (rfl | rfl) t (rfl | rfl) <;> decide +kernel
    · rintro s (rfl | rfl) t (rfl | rfl) h
      · rfl
      · exact absurd h (by decide +kernel)
      · exact absurd h (by decide +kernel)
      · rfl
  have h2 : removeFirst mark (str "cat2") = str "cat2" := by decide +kernel
  have h3 : removeFirst mark (str "cat3") = str "cat3" := by decide +kernel
  have hapart := derived_distinct_iff_marks_apart Sample.chain _ hS
  constructor
  · apply (hapart.1 (str "cat2") (str "cat3") (by simp [h2]) (by simp [h3])).mpr
    rintro ⟨t, ha, hb⟩
    have heq := (removeFirst_mark_eq_iff.mpr ha).trans (removeFirst_mark_eq_iff.mpr hb).symm
    rw [h2, h3] at heq
    exact absurd heq (by decide)
  · decide +kernel

def kittyWorld : World Sample.chain where
  erc721 := .empty
  cw721 := .empty
  nft := Sample.kittyLedger
  evm := Sample.EvmState.empty
  wasm := Sample.WasmState.empty

def kittyBatch (ids : List GoString) : Erc721.MsgConvertNFT := ⟨str "kitty", ids, [], [], [], []⟩

/-- The two NFTs `cat` and `uptick-cat` of one class derive one token id. -/
theorem derived_equal_across_mark :
    Collection.validateTokenID (str "cat") = .ok () ∧ Collection.validateTokenID (str "uptick-cat") = .ok () ∧
    str "cat" ≠ str "uptick-cat" ∧
    Erc721.createTokenIDFromNFTID Sample.X (str "cat") =
      Erc721.createTokenIDFromNFTID Sample.X (str "uptick-cat") ∧
    Cw721.createTokenIDFromNFTID (str "cat") = Cw721.createTokenIDFromNFTID (str "uptick-cat") ∧
    ∃ w c t, Erc721.getContractAddressAndTokenIds kittyWorld (kittyBatch [str "cat", str "uptick-cat"]) =
      .ok (w, c, [t, t]) := by
  refine ⟨by decide +kernel, by decide +kernel, by decide, by decide +kernel, by decide +kernel, ?_⟩
  obtain ⟨⟨w, c, ids⟩, h⟩ := exists_eq_ok
    (x := Erc721.getContractAddressAndTokenIds kittyWorld (kittyBatch [str "cat", str "uptick-cat"]))
    (by decide +kernel)
  have hids := erc721_tokenIds_unbound (by simp [kittyBatch])
    (by simp only [kittyBatch]; decide +kernel) h
  have hsame : Erc721.createTokenIDFromNFTID Sample.X (str "uptick-cat") =
      Erc721.createTokenIDFromNFTID Sample.X (str "cat") := by decide +kernel
  refine ⟨w, c, Erc721.createTokenIDFromNFTID Sample.X (str "cat"), ?_⟩
  rw [h, hids]
  simp only [kittyBatch, List.map_cons, List.map_nil, hsame]

lemma removeAddress0x_append (t : GoString) : Erc721.removeAddress0x (str "0x" ++ t) = t := by
  rw [Erc721.removeAddress0x, if_pos (hasPrefix_append _ t), str_0x]
  rfl

lemma removeAddress0x_of_plain {t : GoString} (h : hasPrefix t (str "0x") = false) :
    Erc721.removeAddress0x t = t := by
  rw [Erc721.removeAddress0x, if_neg (by simp [h])]

/-- Behind the mark `uptick` a hyphen is taken for the end of the mark. -/
lemma createTokenIDFromNFTID_default_append (t : GoString) :
    Cw721.createTokenIDFromNFTID (Erc721.defaultPrefix ++ t) =
      if hasPrefix t (str "-") then t.drop 1 else t := by
  split
  · rename_i h
    obtain ⟨u, rfl⟩ := hasPrefix_iff.mp h
    rw [cw721_derived_eq_iff_marked, MarkedInFront, mark, ← List.append_assoc]
    exact Or.inl rfl
  · rename_i h
    rw [cw721_derived_eq_iff_marked]
    exact Or.inr (Or.inl ⟨rfl, Bool.eq_false_of_not_eq_true h⟩)

lemma tokenID_restored_iff (t : GoString) :
    Cw721.createTokenIDFromNFTID (Cw721.createNFTIDFromTokenID t) = t ↔
      hasPrefix t (str "0x") = false ∧ hasPrefix t (str "-") = false := by
  have hback : Cw721.createTokenIDFromNFTID (Cw721.createNFTIDFromTokenID t) =
      if hasPrefix (Erc721.removeAddress0x t) (str "-") then (Erc721.removeAddress0x t).drop 1
      else Erc721.removeAddress0x t :=
    createTokenIDFromNFTID_default_append _
  rw [hback]
  by_cases h0x : hasPrefix t (str "0x") = true
  · -- The two bytes of the mark are lost, whatever happens behind them.
    obtain ⟨u, rfl⟩ := hasPrefix_iff.mp h0x
    simp only [removeAddress0x_append, hasPrefix_append, Bool.true_eq_false, false_and, iff_false]
    intro h
    have hlen := congrArg List.length h
    rw [str_0x] at hlen
    split at hlen
    · simp only [List.length_drop, List.length_append, List.length_cons, List.length_nil] at hlen
      omega
    · simp only [List.length_append, List.length_cons, List.length_nil] at hlen
      omega
  · have hplain := Bool.eq_false_of_not_eq_true h0x
    rw [removeAddress0x_of_plain hplain]
    simp only [hplain, true_and]
    split
    · rename_i hhyphen
      obtain ⟨u, rfl⟩ := hasPrefix_iff.mp hhyphen
      simp only [hhyphen, Bool.true_eq_false, iff_false]
      intro h
      have hlen := congrArg List.length h
      have hone : (str "-").length = 1 := by decide
      simp only [List.length_drop, List.length_append, hone] at hlen
      omega
    · rename_i hhyphen
      simp [hhyphen]

/-- Two CW721 tokens derive one NFT id when one is the other behind `0x`. -/
lemma derivedNFT_eq_iff {t t' : GoString} (hne : t ≠ t') :
    Cw721.createNFTIDFromTokenID t = Cw721.createNFTIDFromTokenID t' ↔
      (t = str "0x" ++ t' ∧ hasPrefix t' (str "0x") = false) ∨
        (t' = str "0x" ++ t ∧ hasPrefix t (str "0x") = false) := by
  have hstrip : Cw721.createNFTIDFromTokenID t = Cw721.createNFTIDFromTokenID t' ↔
      Erc721.removeAddress0x t = Erc721.removeAddress0x t' := List.append_right_inj Erc721.defaultPrefix
  rw [hstrip]
  by_cases ht : hasPrefix t (str "0x") = true
  · obtain ⟨u, rfl⟩ := hasPrefix_iff.mp ht
    by_cases ht' : hasPrefix t' (str "0x") = true
    · obtain ⟨u', rfl⟩ := hasPrefix_iff.mp ht'
      simp only [removeAddress0x_append, hasPrefix_append, Bool.true_eq_false, and_false, or_self, iff_false]
      rintro rfl
      exact hne rfl
    · have hplain := Bool.eq_false_of_not_eq_true ht'
      simp [removeAddress0x_append, removeAddress0x_of_plain hplain, hasPrefix_append, hplain]
  · have hplain := Bool.eq_false_of_not_eq_true ht
    by_cases ht' : hasPrefix t' (str "0x") = true
    · obtain ⟨u', rfl⟩ := hasPrefix_iff.mp ht'
      simp [removeAddress0x_append, removeAddress0x_of_plain hplain, hasPrefix_append, hplain, eq_comm]
    · have hplain' := Bool.eq_false_of_not_eq_true ht'
      rw [removeAddress0x_of_plain hplain, removeAddress0x_of_plain hplain']
      constructor
      · intro h
        exact absurd h hne
      · rintro (⟨rfl, -⟩ | ⟨rfl, -⟩)
        · exact absurd (hasPrefix_append _ _) ht
        · exact absurd (hasPrefix_append _ _) ht'

/-- A token id comes back from the NFT id derived from it exactly when it starts neither with `0x` nor
with a hyphen, and two token ids derive distinct NFT ids exactly when neither is the other, written
without `0x`, behind `0x`. -/
theorem tokenID_restored_iff_plain (t : GoString) :
    (Cw721.createTokenIDFromNFTID (Cw721.createNFTIDFromTokenID t) = t ↔
      hasPrefix t (str "0x") = false ∧ hasPrefix t (str "-") = false) ∧
    (∀ t' : GoString, t ≠ t' →
      (Cw721.createNFTIDFromTokenID t ≠ Cw721.createNFTIDFromTokenID t' ↔
        ¬ (t = str "0x" ++ t' ∧ hasPrefix t' (str "0x") = false) ∧
          ¬ (t' = str "0x" ++ t ∧ hasPrefix t (str "0x") = false))) := by
  refine ⟨tokenID_restored_iff t, fun t' hne => ?_⟩
  rw [← not_or]
  exact (derivedNFT_eq_iff hne).not

theorem tokenID_restored_sample :
    Cw721.createTokenIDFromNFTID (Cw721.createNFTIDFromTokenID (str "7")) = str "7" ∧
      Cw721.createNFTIDFromTokenID (str "7") ≠ Cw721.createNFTIDFromTokenID (str "8") := by
  have hplain := tokenID_restored_iff_plain (str "7")
  exact ⟨hplain.1.mpr (by decide +kernel), (hplain.2 (str "8") (by decide)).mpr (by decide +kernel)⟩

/-- The token `0xab` comes back as `ab`, which derives the same NFT id, and `-ab` does too. -/
theorem tokenID_lost_0x :
    Cw721.createTokenIDFromNFTID (Cw721.createNFTIDFromTokenID (str "0xab")) = str "ab" ∧
      Cw721.createTokenIDFromNFTID (Cw721.createNFTIDFromTokenID (str "-ab")) = str "ab" ∧
      Cw721.createNFTIDFromTokenID (str "0xab") = Cw721.createNFTIDFromTokenID (str "ab") := by
  decide +kernel

end Uptick
