import Uptick.Cw721.Registry
import Uptick.Erc721.RegistrySteps
import Uptick.Lib.IndexedTable
import Uptick.SampleChain

/-!
# Registration

What the functions that register a pair do to the pairs and their two maps, in x/erc721 and x/cw721, and what the
replacement of a lost contract does. Each writes the three stores one after the other; together they keep a table
whose two indexes are in order.
-/

namespace Uptick

open Text Evm Outcome Collection

/-- A registry in order: each stored pair is found under its contract and under its class, no contract and no class
has two pairs, and an entry of a map leads to a pair that is stored. -/
structure InOrder {α : Type} (key : RecordKeys α) (T : IndexedTable α)
    (byContract byClass : GoString → Except Error α) :
    Prop where
  found : ∀ id p, T.records.get? id = some p → byContract (key.left p) = .ok p ∧ byClass (key.right p) = .ok p
  contract : ∀ id id' p p', T.records.get? id = some p → T.records.get? id' = some p' →
    key.left p = key.left p' → id = id'
  class_ : ∀ id id' p p', T.records.get? id = some p → T.records.get? id' = some p' →
    key.right p = key.right p' → id = id'
  contractMap : ∀ c id, T.left.get? c = some id → ∃ p, T.records.get? id = some p ∧ key.left p = c
  classMap : ∀ K id, T.right.get? K = some id → ∃ p, T.records.get? id = some p ∧ key.right p = K

lemma KVStore.ne_nil_of_get? {α : Type} {s : KVStore α} {k : GoString} {v : α} (h : s.get? k = some v) : k ≠ [] := by
  rintro rfl
  simp at h

lemma InOrder.of_oneToOne {α : Type} {key : RecordKeys α} {T : IndexedTable α}
    {byContract byClass : GoString → Except Error α} (h : T.OneToOne key)
    (hc : ∀ id p, T.records.get? id = some p → T.left.get? (key.left p) = some id → byContract (key.left p) = .ok p)
    (hk : ∀ id p, T.records.get? id = some p → T.right.get? (key.right p) = some id → byClass (key.right p) = .ok p) :
    InOrder key T byContract byClass where
  found := fun id p hp => ⟨hc id p hp (h.left id p hp), hk id p hp (h.right id p hp)⟩
  contract := fun _ _ _ _ hp hp' => h.left_unique hp hp'
  class_ := fun _ _ _ _ hp hp' => h.right_unique hp hp'
  contractMap := h.leftOf
  classMap := h.rightOf

namespace Erc721

variable {X : Extern} {st : Store} {D : Set GoString}

def Store.pairs (st : Store) : IndexedTable TokenPair := ⟨st.tokenPair, st.tokenPairByERC721, st.tokenPairByClass⟩

def pairKeys (X : Extern) : RecordKeys TokenPair := ⟨TokenPair.getID X, TokenPair.erc721Address, TokenPair.classId⟩

/-- The pairs are one-to-one, and their addresses are in lower case. -/
structure Registry (X : Extern) (st : Store) : Prop where
  pairs : st.pairs.OneToOne (pairKeys X)
  lower : ∀ id p, st.tokenPair.get? id = some p → ∃ a : Address, p.erc721Address = a.lowerHex

namespace Registry

lemma congr {st' : Store} (h : Registry X st) (hs : SameRegistry st st') : Registry X st' := by
  have hpairs : st'.pairs = st.pairs := by rw [Store.pairs, hs.tokenPair, hs.byERC721, hs.byClass, Store.pairs]
  exact ⟨hpairs ▸ h.pairs, by rw [hs.tokenPair]; exact h.lower⟩

lemma inOrder (h : Registry X st) : InOrder (pairKeys X) st.pairs (getPairByEVM X st) (getPairByClass st) := by
  refine .of_oneToOne h.pairs (fun id p hp hmap => ?_) (fun id p hp hmap => ?_)
  · obtain ⟨a, ha⟩ := h.lower id p hp
    have hid : id ≠ [] := KVStore.ne_nil_of_get? hp
    have hread : getERC721Map X st a = id := by
      have hval : st.tokenPairByERC721.get a.lowerHex = id := KVStore.get_of_get? (ha ▸ hmap)
      unfold getERC721Map
      rw [toLower_hex]
      simp [hval, hid]
    show getPairByEVM X st p.erc721Address = .ok p
    rw [getPairByEVM_eq_ok, ha, hexToAddress_lowerHex, hread]
    exact ⟨hid, hp⟩
  · have hread : getClassMap st p.classId = id := KVStore.get_of_get? hmap
    show getPairByClass st p.classId = .ok p
    rw [getPairByClass, pairById_eq_ok, hread]
    exact ⟨KVStore.ne_nil_of_get? hp, hp⟩

lemma registers (h : Registry X st) (hhash : ∀ t, X.tmhash t ≠ []) (hinj : Set.InjOn X.tmhash D) {a : Address}
    {K : GoString} {st' : Store} (hold : PairsIn D st) (hnew : PairsIn D st') (hK : K ≠ [])
    (hreg : Registers X st a K st') : Registry X st' := by
  obtain rfl := hreg.store
  have hpair : newTokenPair X a K = ⟨a.lowerHex, K⟩ := by rw [newTokenPair, toLower_hex]
  have hput : (putPair X st a K).pairs = st.pairs.insert (pairKeys X) ⟨a.lowerHex, K⟩ := by
    simp only [Store.pairs, putPair, setTokenPair, setClassMap, setERC721Map, hpair, toLower_hex,
      IndexedTable.insert, pairKeys]
  have hcontract : st.tokenPairByERC721.get? a.lowerHex = none := by
    have hfree := hreg.contract
    simp only [isERC721Registered, toLower_hex, Bool.or_eq_false_iff, KVStore.has, Option.isSome_eq_false_iff,
      Option.isNone_iff_eq_none] at hfree
    exact hfree.1
  have hclass : st.tokenPairByClass.get? K = none := by simpa [isClassRegistered, KVStore.has] using hreg.class_
  have hid : TokenPair.getID X ⟨a.lowerHex, K⟩ ≠ [] := hhash _
  have hrecords : (putPair X st a K).tokenPair =
      st.tokenPair.set (TokenPair.getID X ⟨a.lowerHex, K⟩) ⟨a.lowerHex, K⟩ := congrArg IndexedTable.records hput
  have hstored : (putPair X st a K).tokenPair.get? (TokenPair.getID X ⟨a.lowerHex, K⟩) = some ⟨a.lowerHex, K⟩ := by
    rw [hrecords, KVStore.get?_set _ hid, if_pos rfl]
  -- a pair with the new id would be the new pair, whose contract is free
  have hfresh : st.tokenPair.get? (TokenPair.getID X ⟨a.lowerHex, K⟩) = none := by
    refine Option.eq_none_iff_forall_ne_some.mpr fun q hq => ?_
    obtain ⟨a', ha⟩ := h.lower _ q hq
    have htext : TokenPair.text ⟨a.lowerHex, K⟩ = q.text :=
      hinj (hnew _ _ hstored) (hold _ _ hq) (h.pairs.id _ q hq)
    have hmap : st.tokenPairByERC721.get? q.erc721Address = some _ := h.pairs.left _ q hq
    rw [← text_inj rfl ha htext, hcontract] at hmap
    cases hmap
  refine ⟨hput ▸ h.pairs.insert hid (ne_nil_of_isHexAddress (isHexAddress_lowerHex a)) hK hfresh hcontract hclass,
    fun id p hp => ?_⟩
  rw [hrecords] at hp
  rcases KVStore.get?_set_eq_some hp with ⟨rfl, rfl⟩ | ⟨-, hq⟩
  · exact ⟨a, rfl⟩
  · exact h.lower id p hq

lemma purge (h : Registry X st) {pair : TokenPair} {id : GoString} (hp : st.tokenPair.get? id = some pair) :
    Registry X (purgeTokenPair X st pair) := by
  obtain ⟨a, ha⟩ := h.lower id pair hp
  obtain rfl : id = pair.getID X := h.pairs.id id pair hp
  have hcontract : pair.getERC721Contract = a := by
    rw [TokenPair.getERC721Contract, ha, hexToAddress_lowerHex]
  have hsame := sameRegistry_deletePairPerTokenState st pair
  have hremove : (purgeTokenPair X st pair).pairs = st.pairs.remove (pairKeys X) pair := by
    simp only [Store.pairs, purgeTokenPair, deleteTokenPair, deleteERC721Map, deleteClassMap, hsame.tokenPair,
      hsame.byERC721, hsame.byClass, toLower_hex, hcontract, IndexedTable.remove, pairKeys, ha]
  refine ⟨hremove ▸ h.pairs.remove hp, fun i p hget => ?_⟩
  have hrecords : (purgeTokenPair X st pair).tokenPair = st.tokenPair.delete (pair.getID X) :=
    congrArg IndexedTable.records hremove
  rw [hrecords] at hget
  exact h.lower i p (KVStore.get?_delete_eq_some hget).2

end Registry

lemma ne_nil_of_getClassMap {K : GoString} (h : getClassMap st K ≠ []) : K ≠ [] := by
  rintro rfl
  exact h (KVStore.get_eq_nil (KVStore.get?_nil _))

lemma PairsIn.purge (h : PairsIn D st) (pair : TokenPair) : PairsIn D (purgeTokenPair X st pair) := by
  intro id p hget
  have hsame := sameRegistry_deletePairPerTokenState st pair
  simp only [purgeTokenPair, deleteTokenPair, deleteERC721Map, deleteClassMap, hsame.tokenPair] at hget
  exact h id p (KVStore.get?_delete_eq_some hget).2

end Erc721

namespace Cw721

variable {X : Extern} {st : Store} {D : Set GoString}

def Store.pairs (st : Store) : IndexedTable TokenPair := ⟨st.tokenPair, st.tokenPairByCW721, st.tokenPairByClass⟩

def pairKeys (X : Extern) : RecordKeys TokenPair := ⟨TokenPair.getID X, TokenPair.cw721Address, TokenPair.classId⟩

def TokenPair.text (tp : TokenPair) : GoString := tp.cw721Address ++ str "|" ++ tp.classId

def PairsIn (D : Set GoString) (st : Store) : Prop := ∀ id p, st.tokenPair.get? id = some p → p.text ∈ D

/-- The pairs are one-to-one, and their contracts are spelled as the SDK spells them. -/
structure Registry (X : Extern) (st : Store) : Prop where
  pairs : st.pairs.OneToOne (pairKeys X)
  spells : ∀ id p, st.tokenPair.get? id = some p → Spells X (fun _ => True) p.cw721Address

lemma text_inj (hbar : ∀ acc, 124 ∉ X.accString acc) {p q : TokenPair} (hp : Spells X (fun _ => True) p.cw721Address)
    (hq : Spells X (fun _ => True) q.cw721Address) (h : p.text = q.text) : p = q := by
  obtain ⟨acc, -, hpacc, -⟩ := hp
  obtain ⟨acc', -, hqacc, -⟩ := hq
  have hcut : p.cw721Address = q.cw721Address ∧ p.classId = q.classId := by
    have hpbar : (124 : UInt8) ∉ p.cw721Address := hpacc ▸ hbar acc
    have hqbar : (124 : UInt8) ∉ q.cw721Address := hqacc ▸ hbar acc'
    simp only [TokenPair.text, List.append_assoc] at h
    exact append_cons_inj hpbar hqbar h
  obtain ⟨c, K⟩ := p
  obtain ⟨c', K'⟩ := q
  obtain ⟨rfl, rfl⟩ := hcut
  rfl

namespace Registry

lemma inOrder (h : Registry X st) : InOrder (pairKeys X) st.pairs (getPairByCW721 X st) (getPairByClass st) := by
  refine .of_oneToOne h.pairs (fun id p hp hmap => ?_) (fun id p hp hmap => ?_)
  · have hread : getCW721Map X st p.cw721Address = id := by
      rw [getCW721Map, (h.spells id p hp).key_eq]
      exact KVStore.get_of_get? hmap
    show getPairByCW721 X st p.cw721Address = .ok p
    rw [getPairByCW721, pairFromID_eq_ok, hread]
    exact ⟨KVStore.ne_nil_of_get? hp, hp⟩
  · have hread : getClassMap st p.classId = id := KVStore.get_of_get? hmap
    show getPairByClass st p.classId = .ok p
    rw [getPairByClass, pairFromID_eq_ok, hread]
    exact ⟨KVStore.ne_nil_of_get? hp, hp⟩

lemma putPair (h : Registry X st) (hhash : ∀ t, X.tmhash t ≠ []) (hinj : Set.InjOn X.tmhash D)
    (hbar : ∀ acc, 124 ∉ X.accString acc) (hempty : ∀ acc, X.decodeAcc [] ≠ .ok acc) {c K : GoString}
    (hold : PairsIn D st) (hnew : PairsIn D (Cw721.putPair X st c K)) (hc : Spells X (fun _ => True) c) (hK : K ≠ [])
    (hcontract : isCW721Registered X st c = false) (hclass : isClassRegistered st K = false) :
    Registry X (Cw721.putPair X st c K) := by
  have hput : (Cw721.putPair X st c K).pairs = st.pairs.insert (pairKeys X) ⟨c, K⟩ := by
    simp only [Store.pairs, Cw721.putPair, setTokenPair, setClassMap, setCW721Map, hc.key_eq, IndexedTable.insert,
      pairKeys]
  have hne : c ≠ [] := by
    obtain ⟨acc, hacc, -⟩ := hc
    rintro rfl
    exact hempty acc hacc
  have hfree : st.tokenPairByCW721.get? c = none := by
    rw [isCW721Registered, hc.key_eq] at hcontract
    simpa [KVStore.has] using hcontract
  have hfree' : st.tokenPairByClass.get? K = none := by simpa [isClassRegistered, KVStore.has] using hclass
  have hid : TokenPair.getID X ⟨c, K⟩ ≠ [] := hhash _
  have hrecords : (Cw721.putPair X st c K).tokenPair = st.tokenPair.set (TokenPair.getID X ⟨c, K⟩) ⟨c, K⟩ :=
    congrArg IndexedTable.records hput
  have hstored : (Cw721.putPair X st c K).tokenPair.get? (TokenPair.getID X ⟨c, K⟩) = some ⟨c, K⟩ := by
    rw [hrecords, KVStore.get?_set _ hid, if_pos rfl]
  have hfresh : st.tokenPair.get? (TokenPair.getID X ⟨c, K⟩) = none := by
    refine Option.eq_none_iff_forall_ne_some.mpr fun q hq => ?_
    have htext : TokenPair.text ⟨c, K⟩ = q.text := hinj (hnew _ _ hstored) (hold _ _ hq) (h.pairs.id _ q hq)
    have hmap : st.tokenPairByCW721.get? q.cw721Address = some _ := h.pairs.left _ q hq
    rw [← text_inj hbar hc (h.spells _ q hq) htext, hfree] at hmap
    cases hmap
  refine ⟨hput ▸ h.pairs.insert hid hne hK hfresh hfree hfree', fun id p hp => ?_⟩
  rw [hrecords] at hp
  rcases KVStore.get?_set_eq_some hp with ⟨rfl, rfl⟩ | ⟨-, hq⟩
  · exact hc
  · exact h.spells id p hq

end Registry

end Cw721

variable {C : Chain}

/-- The functions that register a pair, the replacement of a lost contract, and anything that leaves both registries
alone. The SDK refuses an empty key, so a class id is not empty where it becomes one. -/
inductive RegistryStep : World C → World C → Prop
  | registerNFT {w : World C} {msg : Erc721.MsgConvertNFT} {st : Erc721.Store} (hK : msg.classId ≠ [])
      (h : Erc721.registerNFT C.toExtern w.erc721 msg = .ok st) : RegistryStep w { w with erc721 := st }
  | registerERC721 {w w' : World C} {msg : Erc721.MsgConvertERC721} {K : GoString}
      (h : Erc721.registerERC721 w msg = .ok (w', K)) : RegistryStep w w'
  | redeployPair {w w' : World C} {pair pair' : Erc721.TokenPair} {msg msg' : Erc721.MsgConvertNFT}
      (hpair : Erc721.getPairByClass w.erc721 msg.classId = .ok pair)
      (h : Erc721.redeployPair w pair msg = .ok (w', pair', msg')) : RegistryStep w w'
  | registerNFTToCW721 {w : World C} {msg : Cw721.MsgConvertNFT} {st : Cw721.Store}
      (h : Cw721.registerNFT C.toExtern w.cw721 msg = .ok st) : RegistryStep w { w with cw721 := st }
  | registerCW721 {w w' : World C} {msg : Cw721.MsgConvertCW721} {K : GoString}
      (h : Cw721.registerCW721 w msg = .ok (w', K)) : RegistryStep w w'
  | other {w w' : World C} (herc : Erc721.SameRegistry w.erc721 w'.erc721) (hcw : w'.cw721.pairs = w.cw721.pairs) :
      RegistryStep w w'

/-- Steps after which the texts of all stored pairs are in the set. -/
def RegistryRun (D : Set GoString) : World C → World C → Prop :=
  Relation.ReflTransGen fun w w' => RegistryStep w w' ∧ Erc721.PairsIn D w'.erc721 ∧ Cw721.PairsIn D w'.cw721

structure Registries (D : Set GoString) (w : World C) : Prop where
  erc721 : Erc721.Registry C.toExtern w.erc721
  cw721 : Cw721.Registry C.toExtern w.cw721
  pairsIn : Erc721.PairsIn D w.erc721
  cwPairsIn : Cw721.PairsIn D w.cw721

lemma Cw721.Registry.congr {X : Extern} {st st' : Cw721.Store} (h : Cw721.Registry X st) (hs : st'.pairs = st.pairs) :
    Cw721.Registry X st' := by
  have hrecords : st'.tokenPair = st.tokenPair := congrArg IndexedTable.records hs
  exact ⟨hs ▸ h.pairs, by rw [hrecords]; exact h.spells⟩

lemma Cw721.RegisteredCW721.spells {w w' : World C} {msg : Cw721.MsgConvertCW721} {K c : GoString}
    (h : Cw721.RegisteredCW721 w msg w' K c) : Spells C.toExtern (fun _ => True) c := by
  obtain ⟨acc, hacc, rfl⟩ := normalizeCW721Address_eq_ok.mp h.contract_eq
  exact ⟨acc, C.toExtern.decodeAcc_accString_of_ok hacc, rfl, trivial⟩

lemma Cw721.RegisteredCW721.class_ne_nil {w w' : World C} {msg : Cw721.MsgConvertCW721} {K c : GoString}
    (h : Cw721.RegisteredCW721 w msg w' K c) : K ≠ [] := by
  obtain rfl := h.class_eq
  -- a class id that is given trims to the derived one
  split
  · exact List.cons_ne_nil _ _
  · next hne =>
    intro hnil
    rw [hnil] at hne
    exact hne rfl

lemma Erc721.registerERC721_registers {w w' : World C} {msg : Erc721.MsgConvertERC721} {K : GoString}
    (h : Erc721.registerERC721 w msg = .ok (w', K)) : w'.cw721 = w.cw721 ∧ K ≠ [] ∧
      Registers C.toExtern w.erc721 (hexToAddress msg.evmContractAddress) K w'.erc721 := by
  have reg := registerERC721_ok h
  obtain rfl := reg.derived
  obtain ⟨fields, nft, -, rfl⟩ := reg.saved
  exact ⟨rfl, List.cons_ne_nil _ _, reg.contract_free, reg.class_free, isIBCDenom_derived _, rfl⟩

namespace Registries

variable {D : Set GoString} {w w' : World C}

theorem step (hhash : ∀ t, C.tmhash t ≠ []) (hinj : Set.InjOn C.tmhash D) (hbar : ∀ acc, 124 ∉ C.accString acc)
    (hempty : ∀ acc, C.decodeAcc [] ≠ .ok acc) (h : Registries D w) (hstep : RegistryStep w w')
    (herc : Erc721.PairsIn D w'.erc721) (hcw : Cw721.PairsIn D w'.cw721) : Registries D w' := by
  cases hstep with
  | registerNFT hK hreg =>
    exact ⟨h.erc721.registers hhash hinj h.pairsIn herc hK (Erc721.registers_of_registerNFT hreg), h.cw721, herc, hcw⟩
  | registerERC721 hreg =>
    obtain ⟨hsame, hK, hregisters⟩ := Erc721.registerERC721_registers hreg
    exact ⟨h.erc721.registers hhash hinj h.pairsIn herc hK hregisters, hsame ▸ h.cw721, herc, hcw⟩
  | redeployPair hpair hheal =>
    -- the old pair goes before the new one is stored
    obtain ⟨hid, hstored⟩ := Erc721.pairById_eq_ok.mp hpair
    obtain ⟨a, hregisters⟩ := Erc721.redeployPair_registers hheal
    have hsame : w'.cw721 = w.cw721 := (Erc721.redeployPair_prepares hheal).1.cw721
    exact ⟨(h.erc721.purge hstored).registers hhash hinj (h.pairsIn.purge _) herc
      (Erc721.ne_nil_of_getClassMap hid) hregisters, hsame ▸ h.cw721, herc, hcw⟩
  | registerNFTToCW721 hreg =>
    obtain ⟨-, hblank, c, hc, rfl, hclass, hcontract⟩ := Cw721.registerNFT_ok hreg
    obtain ⟨acc, hacc, rfl⟩ := Cw721.normalizeCW721Address_eq_ok.mp hc
    exact ⟨h.erc721, h.cw721.putPair hhash hinj hbar hempty h.cwPairsIn hcw
      ⟨acc, C.toExtern.decodeAcc_accString_of_ok hacc, rfl, trivial⟩ (Erc721.ne_nil_of_isBlank hblank) hcontract hclass,
      herc, hcw⟩
  | registerCW721 hreg =>
    obtain ⟨c, reg⟩ := Cw721.registerCW721_ok hreg
    obtain ⟨fields, nft, -, rfl⟩ := reg.saved
    exact ⟨h.erc721, h.cw721.putPair hhash hinj hbar hempty h.cwPairsIn hcw reg.spells reg.class_ne_nil
      reg.contract_free reg.class_free, herc, hcw⟩
  | other hs hs' => exact ⟨h.erc721.congr hs, h.cw721.congr hs', herc, hcw⟩

lemma run (hhash : ∀ t, C.tmhash t ≠ []) (hinj : Set.InjOn C.tmhash D) (hbar : ∀ acc, 124 ∉ C.accString acc)
    (hempty : ∀ acc, C.decodeAcc [] ≠ .ok acc) (h : Registries D w) (hrun : RegistryRun D w w') : Registries D w' := by
  induction hrun with
  | refl => exact h
  | tail _ hlast ih => exact ih.step hhash hinj hbar hempty hlast.1 hlast.2.1 hlast.2.2

lemma of_empty (herc : w.erc721.pairs = ⟨.empty, .empty, .empty⟩) (hcw : w.cw721.pairs = ⟨.empty, .empty, .empty⟩) :
    Registries D w := by
  have hpair : w.erc721.tokenPair = .empty := congrArg IndexedTable.records herc
  have hpair' : w.cw721.tokenPair = .empty := congrArg IndexedTable.records hcw
  refine ⟨⟨herc ▸ .empty, ?_⟩, ⟨hcw ▸ .empty, ?_⟩, ?_, ?_⟩
  · simp [hpair]
  · simp [hpair']
  · simp [Erc721.PairsIn, hpair]
  · simp [Cw721.PairsIn, hpair']

end Registries

/-- From empty registries on, every registration and every replacement of a lost contract keeps both registries in
order, as long as no two of the stored pairs have one hash. -/
theorem registries_inOrder {D : Set GoString} {w w' : World C} (hhash : ∀ t, C.tmhash t ≠ [])
    (hinj : Set.InjOn C.tmhash D) (hbar : ∀ acc, 124 ∉ C.accString acc) (hempty : ∀ acc, C.decodeAcc [] ≠ .ok acc)
    (herc : w.erc721.pairs = ⟨.empty, .empty, .empty⟩) (hcw : w.cw721.pairs = ⟨.empty, .empty, .empty⟩)
    (hrun : RegistryRun D w w') :
    InOrder (Erc721.pairKeys C.toExtern) w'.erc721.pairs (Erc721.getPairByEVM C.toExtern w'.erc721)
        (Erc721.getPairByClass w'.erc721) ∧
      (∀ id p, w'.erc721.tokenPair.get? id = some p → p.erc721Address = p.getERC721Contract.lowerHex) ∧
      InOrder (Cw721.pairKeys C.toExtern) w'.cw721.pairs (Cw721.getPairByCW721 C.toExtern w'.cw721)
        (Cw721.getPairByClass w'.cw721) := by
  have h : Registries D w' := (Registries.of_empty herc hcw).run hhash hinj hbar hempty hrun
  refine ⟨h.erc721.inOrder, fun id p hp => ?_, h.cw721.inOrder⟩
  obtain ⟨a, ha⟩ := h.erc721.lower id p hp
  rw [Erc721.TokenPair.getERC721Contract, ha, hexToAddress_lowerHex]

/-- A class is registered in both modules, and its ERC721 contract, which has no code, is replaced. -/
theorem registries_inOrder_replaced : ∃ w w' : World Sample.chain, ∃ pair,
    w.erc721.pairs = ⟨.empty, .empty, .empty⟩ ∧ w.cw721.pairs = ⟨.empty, .empty, .empty⟩ ∧
    RegistryRun Set.univ w w' ∧ Erc721.getPairByClass w'.erc721 (str "kitty") = .ok pair ∧
    InOrder (Erc721.pairKeys Sample.X) w'.erc721.pairs (Erc721.getPairByEVM Sample.X w'.erc721)
      (Erc721.getPairByClass w'.erc721) := by
  let kitty : Collection.Class := ⟨str "Kitty", str "KIT", [], [], [], .value DenomMetadata.zero⟩
  let msg : Erc721.MsgConvertNFT := ⟨str "kitty", [str "cat1"], [], [], Sample.contract, []⟩
  let cwMsg : Cw721.MsgConvertNFT := ⟨str "kitty", [str "cat1"], [], [], Sample.accString Sample.cwContract, []⟩
  let w : World Sample.chain := ⟨.empty, .empty, NftLedger.empty.putClass (str "kitty") kitty, .empty, .empty⟩
  let w₁ : World Sample.chain :=
    { w with erc721 := Erc721.putPair Sample.X .empty (hexToAddress Sample.contract) (str "kitty") }
  have hfirst : Erc721.registerNFT Sample.chain.toExtern w.erc721 msg = .ok w₁.erc721 :=
    Erc721.registerNFT_eq_ok.mpr ⟨by decide +kernel, by decide +kernel, by decide +kernel, rfl⟩
  have h₁ : RegistryStep w w₁ := .registerNFT (by decide) hfirst
  obtain ⟨⟨w₂, pair, msg'⟩, hheal⟩ :=
    exists_eq_ok (x := Erc721.redeployPair w₁ ⟨Sample.contract, str "kitty"⟩ msg) (by decide +kernel)
  have h₂ : RegistryStep w₁ w₂ := .redeployPair (by decide +kernel) hheal
  obtain ⟨cw, hcw⟩ := exists_eq_ok (x := Cw721.registerNFT Sample.X .empty cwMsg) (by decide +kernel)
  obtain ⟨hprep, hfound, -⟩ := Erc721.redeployPair_prepares hheal
  have hlast : Cw721.registerNFT Sample.chain.toExtern w₂.cw721 cwMsg = .ok cw := by
    rw [hprep.cw721]
    exact hcw
  have h₃ : RegistryStep w₂ { w₂ with cw721 := cw } := .registerNFTToCW721 hlast
  have hrun : RegistryRun Set.univ w { w₂ with cw721 := cw } :=
    .tail (.tail (.single ⟨h₁, fun _ _ _ => trivial, fun _ _ _ => trivial⟩)
      ⟨h₂, fun _ _ _ => trivial, fun _ _ _ => trivial⟩) ⟨h₃, fun _ _ _ => trivial, fun _ _ _ => trivial⟩
  exact ⟨w, _, pair, rfl, rfl, hrun, hfound,
    (registries_inOrder Sample.tmhash_ne_nil Sample.tmhash_injective.injOn Sample.bar_notMem_accString
      Sample.decodeAcc_nil rfl rfl hrun).1⟩

end Uptick
