import Uptick.Erc721.Registry
import Uptick.Erc721.SettlementSpec
import Uptick.Sample

/-!
# What the removal of a pair leaves

`PurgeTokenPair` on an arbitrary store: when the pair is gone from every lookup, nothing of it is left, and the
entries of the other pairs are as before. Whose an entry is follows from the contract or the class that its key names,
in any spelling of the contract.
-/

namespace Uptick.Erc721

open Text Evm Outcome Collection

variable {X : Extern} {st : Store} {pair q : TokenPair}

/-- A forward entry under a token of the contract, in any spelling. -/
def ForwardOf (pair : TokenPair) (uid : GoString) : Prop :=
  equalContractAddress (getNFTFromUID uid).2 pair.erc721Address = true

/-- A refund record of the contract, in any spelling. -/
def RecordOf (pair : TokenPair) (k : GoString) : Prop :=
  ∃ contract id, k = contract ++ id ∧ id ≠ [] ∧ equalContractAddress contract pair.erc721Address = true

structure Unregistered (X : Extern) (st : Store) (pair : TokenPair) : Prop where
  byEVM : ∀ p, getPairByEVM X st pair.erc721Address ≠ .ok p
  byClass : ∀ p, getPairByClass st pair.classId ≠ .ok p
  contract : isERC721Registered X st pair.getERC721Contract = false
  class_ : isClassRegistered st pair.classId = false

/-- The store has no entry of the pair's tokens. -/
structure NothingLeft (st : Store) (pair : TokenPair) : Prop where
  forward : ∀ uid n, st.byTokenUID.get? uid = some n → ¬ ForwardOf pair uid
  reverse : ∀ n uid, st.byNFTUID.get? n = some uid → ¬ OfClass pair n
  record : ∀ k a, st.evmAddress.get? k = some a → ¬ RecordOf pair k

/-- The entries that belong to the pair `q` are the same in both stores. -/
structure SameEntries (X : Extern) (st st' : Store) (id : GoString) (q : TokenPair) : Prop where
  stored : st'.tokenPair.get? id = st.tokenPair.get? id
  class_ : st'.tokenPairByClass.get? q.classId = st.tokenPairByClass.get? q.classId
  contract : st'.tokenPairByERC721.get? q.getERC721Contract.lowerHex =
    st.tokenPairByERC721.get? q.getERC721Contract.lowerHex
  raw : st'.tokenPairByERC721.get? q.getERC721Contract.bytes = st.tokenPairByERC721.get? q.getERC721Contract.bytes
  forward : ∀ uid, ForwardOf q uid → st'.byTokenUID.get? uid = st.byTokenUID.get? uid
  reverse : ∀ n, OfClass q n → st'.byNFTUID.get? n = st.byNFTUID.get? n
  record : ∀ k, RecordOf q k → st'.evmAddress.get? k = st.evmAddress.get? k

/-- The removal does what it is for. -/
structure PurgedExactly (X : Extern) (st st' : Store) (pair : TokenPair) : Prop where
  unregistered : Unregistered X st' pair
  nothingLeft : NothingLeft st' pair
  others : ∀ id q, st.tokenPair.get? id = some q → q ≠ pair → SameEntries X st st' id q

/-- A forward entry that the scan of the reverse entries drops. -/
def DroppedWithClass (st : Store) (pair : TokenPair) (uid : GoString) : Prop :=
  ∃ n, OfClass pair n ∧ ¬ NamedByContract st pair n ∧ st.byNFTUID.get? n = some uid

/-- A refund record that the removal scans. -/
def ScannedRecord (pair : TokenPair) (k : GoString) : Prop :=
  hasPrefix (toLower k) (toLower pair.erc721Address) = true

/-- The pair `q` shares nothing with the pair that is removed: not its id, its class or its contract, and no entry of
its tokens leads from or to the other pair's. -/
structure Apart (X : Extern) (st : Store) (pair : TokenPair) (id : GoString) (q : TokenPair) : Prop where
  stored : id ≠ pair.getID X
  class_ : st.tokenPairByClass.get? q.classId ≠ none → q.classId ≠ pair.classId
  contract : st.tokenPairByERC721.get? q.getERC721Contract.lowerHex ≠ none →
    q.getERC721Contract ≠ pair.getERC721Contract
  forward : ∀ uid, ForwardOf q uid → st.byTokenUID.get? uid ≠ none →
    ¬ OfContract pair uid ∧ ¬ DroppedWithClass st pair uid
  reverse : ∀ n, OfClass q n → st.byNFTUID.get? n ≠ none → ¬ OfClass pair n ∧ ¬ NamedByContract st pair n
  record : ∀ k, RecordOf q k → st.evmAddress.get? k ≠ none → ¬ ScannedRecord pair k

/-- The stores on which the removal does what it is for: the contract map has no raw key for the contract, the
entries that name the contract are among those scanned, and every other pair is apart. -/
structure Purgeable (X : Extern) (st : Store) (pair : TokenPair) : Prop where
  raw : st.tokenPairByERC721.get? pair.getERC721Contract.bytes = none
  forward : ∀ uid, ForwardOf pair uid → st.byTokenUID.get? uid ≠ none →
    OfContract pair uid ∨ DroppedWithClass st pair uid
  record : ∀ k, RecordOf pair k → st.evmAddress.get? k ≠ none → ScannedRecord pair k
  others : ∀ id q, st.tokenPair.get? id = some q → q ≠ pair → Apart X st pair id q

lemma get?_eq_iff_of_shrinks {V : Type} {s s' : KVStore V} {k : GoString} {P : Prop}
    (h : ∀ v, s'.get? k = some v ↔ s.get? k = some v ∧ P) : s'.get? k = s.get? k ↔ (s.get? k ≠ none → P) := by
  cases hget : s.get? k with
  | none =>
    have hnone : s'.get? k = none := by
      refine Option.eq_none_iff_forall_ne_some.mpr fun v hv => ?_
      rw [h, hget] at hv
      cases hv.1
    simp [hnone]
  | some v =>
    rw [h v, hget]
    simp

lemma get?_eq_none_iff_of_shrinks {V : Type} {s s' : KVStore V} {k : GoString} {P : Prop}
    (h : ∀ v, s'.get? k = some v ↔ s.get? k = some v ∧ P) : s'.get? k = none ↔ (s.get? k ≠ none → ¬P) := by
  rw [Option.eq_none_iff_forall_ne_some]
  constructor
  · intro hall hne hP
    obtain ⟨v, hv⟩ := Option.ne_none_iff_exists'.mp hne
    exact hall v ((h v).mpr ⟨hv, hP⟩)
  · intro hall v hv
    obtain ⟨hold, hP⟩ := (h v).mp hv
    exact hall (by simp [hold]) hP

lemma tokenPair_purgeTokenPair : (purgeTokenPair X st pair).tokenPair = st.tokenPair.delete (pair.getID X) := by
  simp only [purgeTokenPair, deleteTokenPair, deleteERC721Map, deleteClassMap,
    (sameRegistry_deletePairPerTokenState st pair).tokenPair]

lemma byERC721_purgeTokenPair : (purgeTokenPair X st pair).tokenPairByERC721 =
    st.tokenPairByERC721.delete pair.getERC721Contract.lowerHex := by
  simp only [purgeTokenPair, deleteTokenPair, deleteERC721Map, deleteClassMap, toLower_hex,
    (sameRegistry_deletePairPerTokenState st pair).byERC721]

lemma byClass_purgeTokenPair : (purgeTokenPair X st pair).tokenPairByClass =
    st.tokenPairByClass.delete pair.classId := by
  simp only [purgeTokenPair, deleteTokenPair, deleteERC721Map, deleteClassMap,
    (sameRegistry_deletePairPerTokenState st pair).byClass]

lemma evmAddress_foldl {f : Store → GoString → Store} (hf : ∀ st x, (f st x).evmAddress = st.evmAddress)
    (l : List GoString) (st : Store) : (l.foldl f st).evmAddress = st.evmAddress := by
  induction l generalizing st with
  | nil => rfl
  | cons x l ih => exact (ih (f st x)).trans (hf st x)

theorem evmAddress_purgeTokenPair {k a : GoString} : (purgeTokenPair X st pair).evmAddress.get? k = some a ↔
    st.evmAddress.get? k = some a ∧ ¬ ScannedRecord pair k := by
  have hfwd : ∀ st uid, (deleteScannedTokenUID st uid).evmAddress = st.evmAddress := by
    intro st uid
    unfold deleteScannedTokenUID
    dsimp only
    split <;> rfl
  have hrev : ∀ st n, (deleteScannedNFTUID st n).evmAddress = st.evmAddress := by
    intro st n
    unfold deleteScannedNFTUID
    dsimp only
    split <;> rfl
  have hpurge : (purgeTokenPair X st pair).evmAddress =
      st.evmAddress.deleteAll
        (st.evmAddress.keys.filter fun k => hasPrefix (toLower k) (toLower pair.erc721Address)) := by
    simp only [purgeTokenPair, deletePairPerTokenState, deleteTokenPair, deleteERC721Map, deleteClassMap,
      evmAddress_foldl hfwd, evmAddress_foldl hrev]
  rw [hpurge, KVStore.get?_deleteAll_eq_some]
  constructor
  · rintro ⟨hout, hget⟩
    exact ⟨hget, fun hscan => hout (List.mem_filter.mpr ⟨KVStore.mem_keys.mpr ⟨a, hget⟩, hscan⟩)⟩
  · rintro ⟨hget, hscan⟩
    exact ⟨fun hmem => hscan (List.mem_filter.mp hmem).2, hget⟩

lemma byTokenUID_purge_iff {uid n : GoString} : (purgeTokenPair X st pair).byTokenUID.get? uid = some n ↔
    st.byTokenUID.get? uid = some n ∧ ¬ OfContract pair uid ∧ ¬ DroppedWithClass st pair uid := by
  rw [byTokenUID_purgeTokenPair]
  refine and_congr_right fun _ => and_congr_right fun _ => ?_
  constructor
  · rintro h ⟨m, hclass, hnamed, hget⟩
    exact h m hclass hnamed hget
  · intro h m hclass hnamed hget
    exact h ⟨m, hclass, hnamed, hget⟩

lemma get?_delete_iff {V : Type} {s : KVStore V} {k k' : GoString} (v : V) :
    (s.delete k).get? k' = some v ↔ s.get? k' = some v ∧ k' ≠ k := by
  rw [KVStore.get?_delete]
  split_ifs with h
  · simp [h]
  · simp [h]

lemma bytes_ne_lowerHex (a b : Address) : a.bytes ≠ b.lowerHex := by
  intro h
  have hlen := congrArg List.length h
  rw [a.length_bytes] at hlen
  simp [Address.lowerHex, str_0x, Address.length_digits] at hlen

lemma unregistered_purge_iff : Unregistered X (purgeTokenPair X st pair) pair ↔
    st.tokenPairByERC721.get? pair.getERC721Contract.bytes = none := by
  have hlower : (purgeTokenPair X st pair).tokenPairByERC721.get? pair.getERC721Contract.lowerHex = none := by
    rw [byERC721_purgeTokenPair]
    simp
  have hraw : (purgeTokenPair X st pair).tokenPairByERC721.get? pair.getERC721Contract.bytes =
      st.tokenPairByERC721.get? pair.getERC721Contract.bytes := by
    rw [byERC721_purgeTokenPair, KVStore.get?_delete, if_neg (bytes_ne_lowerHex _ _)]
  have hclass : (purgeTokenPair X st pair).tokenPairByClass.get? pair.classId = none := by
    rw [byClass_purgeTokenPair]
    simp
  constructor
  · intro h
    have hfree := h.contract
    simp only [isERC721Registered, Bool.or_eq_false_iff, KVStore.has, Option.isSome_eq_false_iff,
      Option.isNone_iff_eq_none] at hfree
    rw [← hraw]
    exact hfree.2
  · intro h
    rw [h] at hraw
    have hmap : getERC721Map X (purgeTokenPair X st pair) pair.getERC721Contract = [] := by
      unfold getERC721Map
      rw [toLower_hex, KVStore.get_eq_nil hlower]
      exact KVStore.get_eq_nil hraw
    refine ⟨fun p hp => ?_, fun p hp => ?_, ?_, ?_⟩
    · exact (getPairByEVM_eq_ok.mp hp).1 hmap
    · exact (pairById_eq_ok.mp hp).1 (KVStore.get_eq_nil hclass)
    · simp [isERC721Registered, toLower_hex, KVStore.has, hlower, hraw]
    · simp [isClassRegistered, KVStore.has, hclass]

lemma sameEntries_purge_iff {id : GoString} (hq : st.tokenPair.get? id = some q) :
    SameEntries X st (purgeTokenPair X st pair) id q ↔ Apart X st pair id q := by
  have hne : st.tokenPair.get? id ≠ none := by simp [hq]
  have hstored : (purgeTokenPair X st pair).tokenPair.get? id = st.tokenPair.get? id ↔ id ≠ pair.getID X := by
    rw [tokenPair_purgeTokenPair, get?_eq_iff_of_shrinks get?_delete_iff]
    exact ⟨fun h => h hne, fun h _ => h⟩
  have hclass : (purgeTokenPair X st pair).tokenPairByClass.get? q.classId = st.tokenPairByClass.get? q.classId ↔
      (st.tokenPairByClass.get? q.classId ≠ none → q.classId ≠ pair.classId) := by
    rw [byClass_purgeTokenPair, get?_eq_iff_of_shrinks get?_delete_iff]
  have hcontract : (purgeTokenPair X st pair).tokenPairByERC721.get? q.getERC721Contract.lowerHex =
      st.tokenPairByERC721.get? q.getERC721Contract.lowerHex ↔
      (st.tokenPairByERC721.get? q.getERC721Contract.lowerHex ≠ none →
        q.getERC721Contract ≠ pair.getERC721Contract) := by
    rw [byERC721_purgeTokenPair, get?_eq_iff_of_shrinks get?_delete_iff]
    refine imp_congr_right fun _ => not_congr ?_
    exact ⟨fun h => lowerHex_injective h, fun h => by rw [h]⟩
  have hforward : ∀ uid, (purgeTokenPair X st pair).byTokenUID.get? uid = st.byTokenUID.get? uid ↔
      (st.byTokenUID.get? uid ≠ none → ¬ OfContract pair uid ∧ ¬ DroppedWithClass st pair uid) :=
    fun uid => get?_eq_iff_of_shrinks fun _ => byTokenUID_purge_iff
  have hreverse : ∀ n, (purgeTokenPair X st pair).byNFTUID.get? n = st.byNFTUID.get? n ↔
      (st.byNFTUID.get? n ≠ none → ¬ OfClass pair n ∧ ¬ NamedByContract st pair n) :=
    fun n => get?_eq_iff_of_shrinks fun _ => byNFTUID_purgeTokenPair
  have hrecord : ∀ k, (purgeTokenPair X st pair).evmAddress.get? k = st.evmAddress.get? k ↔
      (st.evmAddress.get? k ≠ none → ¬ ScannedRecord pair k) :=
    fun k => get?_eq_iff_of_shrinks fun _ => evmAddress_purgeTokenPair
  constructor
  · intro h
    exact ⟨hstored.mp h.stored, hclass.mp h.class_, hcontract.mp h.contract,
      fun uid huid => (hforward uid).mp (h.forward uid huid), fun n hn => (hreverse n).mp (h.reverse n hn),
      fun k hk => (hrecord k).mp (h.record k hk)⟩
  · intro h
    refine ⟨hstored.mpr h.stored, hclass.mpr h.class_, hcontract.mpr h.contract, ?_,
      fun uid huid => (hforward uid).mpr (h.forward uid huid), fun n hn => (hreverse n).mpr (h.reverse n hn),
      fun k hk => (hrecord k).mpr (h.record k hk)⟩
    rw [byERC721_purgeTokenPair, KVStore.get?_delete, if_neg (bytes_ne_lowerHex _ _)]

lemma nothingLeft_purge_iff : NothingLeft (purgeTokenPair X st pair) pair ↔
    (∀ uid, ForwardOf pair uid → st.byTokenUID.get? uid ≠ none → OfContract pair uid ∨ DroppedWithClass st pair uid) ∧
      ∀ k, RecordOf pair k → st.evmAddress.get? k ≠ none → ScannedRecord pair k := by
  have hforward : ∀ uid, (purgeTokenPair X st pair).byTokenUID.get? uid = none ↔
      (st.byTokenUID.get? uid ≠ none → OfContract pair uid ∨ DroppedWithClass st pair uid) := by
    intro uid
    rw [get?_eq_none_iff_of_shrinks fun _ => byTokenUID_purge_iff]
    refine imp_congr_right fun _ => ?_
    rw [not_and_or, not_not, not_not]
  have hrecord : ∀ k, (purgeTokenPair X st pair).evmAddress.get? k = none ↔
      (st.evmAddress.get? k ≠ none → ScannedRecord pair k) := by
    intro k
    rw [get?_eq_none_iff_of_shrinks fun _ => evmAddress_purgeTokenPair]
    simp only [not_not]
  constructor
  · intro h
    refine ⟨fun uid huid => (hforward uid).mp ?_, fun k hk => (hrecord k).mp ?_⟩
    · exact Option.eq_none_iff_forall_ne_some.mpr fun n hn => h.forward uid n hn huid
    · exact Option.eq_none_iff_forall_ne_some.mpr fun a ha => h.record k a ha hk
  · rintro ⟨hf, hr⟩
    refine ⟨fun uid n hn huid => ?_, fun n uid hn hclass => ?_, fun k a ha hk => ?_⟩
    · rw [(hforward uid).mpr (hf uid huid)] at hn
      cases hn
    · exact (byNFTUID_purgeTokenPair.mp hn).2.1 hclass
    · rw [(hrecord k).mpr (hr k hk)] at ha
      cases ha

/-- For every store and pair, the removal does what it is for exactly on the stores that are ready for it. -/
theorem purgeTokenPair_exact_iff : PurgedExactly X st (purgeTokenPair X st pair) pair ↔ Purgeable X st pair := by
  constructor
  · intro h
    obtain ⟨hf, hr⟩ := nothingLeft_purge_iff.mp h.nothingLeft
    exact ⟨unregistered_purge_iff.mp h.unregistered, hf, hr,
      fun id q hq hne => (sameEntries_purge_iff hq).mp (h.others id q hq hne)⟩
  · intro h
    exact ⟨unregistered_purge_iff.mpr h.raw, nothingLeft_purge_iff.mpr ⟨h.forward, h.record⟩,
      fun id q hq hne => (sameEntries_purge_iff hq).mpr (h.others id q hq hne)⟩

/-- A pair whose map entry is still under the raw address. -/
def rawPair : TokenPair := ⟨Sample.contract, str "uptick-4444444444444444444444444444444444444444"⟩

def rawStore : Store :=
  { Store.empty with
    tokenPair := KVStore.empty.set (rawPair.getID Sample.X) rawPair
    tokenPairByClass := KVStore.empty.set rawPair.classId (rawPair.getID Sample.X)
    tokenPairByERC721 := KVStore.empty.set rawPair.getERC721Contract.bytes (rawPair.getID Sample.X) }

/-- The pair is found through its raw key, and its contract still counts as registered when it is gone. -/
theorem purge_leaves_raw_key : getPairByEVM Sample.X rawStore rawPair.erc721Address = .ok rawPair ∧
    isERC721Registered Sample.X (purgeTokenPair Sample.X rawStore rawPair) rawPair.getERC721Contract = true ∧
    ¬ PurgedExactly Sample.X rawStore (purgeTokenPair Sample.X rawStore rawPair) rawPair := by
  have hleft :
      isERC721Registered Sample.X (purgeTokenPair Sample.X rawStore rawPair) rawPair.getERC721Contract = true := by
    decide +kernel
  refine ⟨by decide +kernel, hleft, fun h => ?_⟩
  rw [h.unregistered.contract] at hleft
  cases hleft

end Uptick.Erc721
