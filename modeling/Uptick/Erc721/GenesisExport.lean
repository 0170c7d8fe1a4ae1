import Uptick.Erc721.Genesis
import Uptick.Sample

/-!
# Reading back an export of x/erc721

A refund key is the contract in front of the token id, without a separator. The export finds the contract
by the registered addresses, exactly or else without letter case; the validation compares contracts without
letter case only. Addresses have forty digits with or without the mark, so that no two different ones match
one key, but two keys may match one address.
-/

namespace Uptick.Erc721

open Text Evm Hex Outcome Genesis

/-- The key is the contract, in any letter case, and a token id. -/
def Continues (key c : GoString) : Prop := hasPrefix (toLower key) (toLower c) = true ∧ c.length < key.length

section Match

variable {haystack best c : GoString} {cs : List GoString}

/-- One round of the search. -/
def matchRound (haystack best c : GoString) : GoString :=
  if c.length = 0 ∨ c.length ≤ best.length then best
  else if hasPrefix haystack c = true ∧ c.length < haystack.length then c
  else best

lemma matchContract_eq : matchContract haystack cs = cs.foldl (matchRound haystack) [] := rfl

lemma matchRound_cases : matchRound haystack best c = best ∨
    matchRound haystack best c = c ∧ hasPrefix haystack c = true ∧ c.length < haystack.length := by
  unfold matchRound
  split_ifs with hlen hmatch
  · exact .inl rfl
  · exact .inr ⟨rfl, hmatch⟩
  · exact .inl rfl

lemma length_le_matchRound : best.length ≤ (matchRound haystack best c).length := by
  unfold matchRound
  split_ifs with hlen
  · exact le_rfl
  · rw [not_or, not_le] at hlen
    exact hlen.2.le
  · exact le_rfl

lemma length_le_matchRound_of_match (h : hasPrefix haystack c = true) (hlt : c.length < haystack.length) :
    c.length ≤ (matchRound haystack best c).length := by
  unfold matchRound
  split_ifs with hlen hmatch
  · omega
  · exact le_rfl
  · exact absurd ⟨h, hlt⟩ hmatch

lemma foldl_matchRound : cs.foldl (matchRound haystack) best = best ∨
    cs.foldl (matchRound haystack) best ∈ cs ∧
      hasPrefix haystack (cs.foldl (matchRound haystack) best) = true ∧
      (cs.foldl (matchRound haystack) best).length < haystack.length := by
  induction cs generalizing best with
  | nil => exact .inl rfl
  | cons c cs ih =>
    rw [List.foldl_cons]
    rcases @ih (matchRound haystack best c) with heq | ⟨hmem, hmatch⟩
    · rw [heq]
      rcases @matchRound_cases haystack best c with hbest | ⟨hc, hmatch⟩
      · exact .inl hbest
      · rw [hc]
        exact .inr ⟨List.mem_cons_self, hmatch⟩
    · exact .inr ⟨List.mem_cons_of_mem _ hmem, hmatch⟩

lemma length_le_foldl_matchRound : best.length ≤ (cs.foldl (matchRound haystack) best).length := by
  induction cs generalizing best with
  | nil => exact le_rfl
  | cons c cs ih => exact length_le_matchRound.trans ih

lemma length_le_matchContract (hc : c ∈ cs) (h : hasPrefix haystack c = true) (hlt : c.length < haystack.length) :
    c.length ≤ (cs.foldl (matchRound haystack) best).length := by
  induction cs generalizing best with
  | nil => simp at hc
  | cons d cs ih =>
    rw [List.foldl_cons]
    rcases List.mem_cons.mp hc with rfl | hc
    · exact (length_le_matchRound_of_match h hlt).trans length_le_foldl_matchRound
    · exact ih hc

/-- What the search finds is a candidate that the text continues. -/
lemma matchContract_spec (h : matchContract haystack cs ≠ []) : matchContract haystack cs ∈ cs ∧
    hasPrefix haystack (matchContract haystack cs) = true ∧
    (matchContract haystack cs).length < haystack.length := by
  rw [matchContract_eq] at h ⊢
  exact foldl_matchRound.resolve_left h

lemma matchContract_ne_nil (hc : c ∈ cs) (hne : c ≠ []) (h : hasPrefix haystack c = true)
    (hlt : c.length < haystack.length) : matchContract haystack cs ≠ [] := by
  intro hnil
  have hle := @length_le_matchContract haystack [] c cs hc h hlt
  rw [← matchContract_eq, hnil] at hle
  exact hne (List.length_eq_zero_iff.mp (Nat.le_zero.mp hle))

end Match

section Split

variable {key c c' : GoString} {contracts : List GoString}

lemma length_of_isHexAddress (h : isHexAddress c = true) : c.length = if has0xPrefix c then 42 else 40 := by
  obtain ⟨hlen, -⟩ := isHexAddress_iff.mp h
  unfold strip0x at hlen
  split_ifs at hlen ⊢ with hx
  · rw [List.length_drop] at hlen
    omega
  · exact hlen

/-- The mark of a text that starts with an address is the mark of the address. -/
lemma has0xPrefix_of_continues (hc : isHexAddress c = true) (h : hasPrefix (toLower key) (toLower c) = true) :
    has0xPrefix (toLower key) = has0xPrefix c := by
  obtain ⟨t, ht⟩ := hasPrefix_iff.mp h
  rw [ht]
  cases hx : has0xPrefix c with
  | true =>
    rw [toLower_eq_lowerHex hc hx, Address.lowerHex, List.append_assoc]
    exact has0xPrefix_append_0x _
  | false =>
    rw [toLower_eq_digits hc hx]
    have hlen := (hexToAddress c).length_digits
    have hdigit : ∀ b ∈ (hexToAddress c).digits, isHexDigit b = true := fun b => isHexDigit_of_mem_digits
    cases hd : (hexToAddress c).digits with
    | nil => simp [hd] at hlen
    | cons b digits =>
      cases digits with
      | nil => simp [hd] at hlen
      | cons b' rest =>
        rw [hd] at hdigit
        by_contra hcon
        obtain ⟨b₀, s, hs, hmark⟩ := has0xPrefix_iff.mp (Bool.not_eq_false _ ▸ hcon)
        have hb : b' = b₀ := by
          rw [List.cons_append, List.cons_append] at hs
          exact (List.cons.inj (List.cons.inj hs).2).1
        have hx' := hdigit b' (by simp)
        rcases hmark with rfl | rfl <;> rw [hb] at hx' <;> exact absurd hx' (by decide)

/-- A key continues one address only. -/
lemma continues_unique (hc : isHexAddress c = true) (hc' : isHexAddress c' = true)
    (h : hasPrefix (toLower key) (toLower c) = true) (h' : hasPrefix (toLower key) (toLower c') = true) :
    toLower c = toLower c' := by
  have hmark : has0xPrefix c = has0xPrefix c' :=
    (has0xPrefix_of_continues hc h).symm.trans (has0xPrefix_of_continues hc' h')
  have hlen : (toLower c).length = (toLower c').length := by
    rw [length_toLower, length_toLower, length_of_isHexAddress hc, length_of_isHexAddress hc', hmark]
  obtain ⟨t, ht⟩ := hasPrefix_iff.mp h
  obtain ⟨t', ht'⟩ := hasPrefix_iff.mp h'
  exact (List.append_inj (ht.symm.trans ht') hlen).1

lemma hasPrefix_toLower {s pre : GoString} (h : hasPrefix s pre = true) :
    hasPrefix (toLower s) (toLower pre) = true := by
  obtain ⟨t, rfl⟩ := hasPrefix_iff.mp h
  rw [toLower_append]
  exact hasPrefix_append _ _

lemma splitContractTokenKey_ok {t : GoString} (h : splitContractTokenKey contracts key = .ok (c, t)) :
    t = key.drop c.length ∧ ∃ reg ∈ contracts, toLower c = toLower reg ∧ Continues key reg ∧ c ≠ [] := by
  unfold splitContractTokenKey at h
  dsimp only at h
  split_ifs at h with hexact hfold
  · obtain ⟨rfl, rfl⟩ := Prod.mk.inj (Except.ok.inj h)
    obtain ⟨hmem, hpre, hlt⟩ := matchContract_spec hexact
    exact ⟨rfl, _, hmem, rfl, ⟨hasPrefix_toLower hpre, hlt⟩, hexact⟩
  · obtain ⟨rfl, rfl⟩ := Prod.mk.inj (Except.ok.inj h)
    obtain ⟨hmem, hpre, hlt⟩ := matchContract_spec hfold
    obtain ⟨reg, hreg, heq⟩ := List.mem_map.mp hmem
    rw [← heq, length_toLower, length_toLower] at hlt
    refine ⟨rfl, reg, hreg, ?_, ⟨?_, hlt⟩, hfold⟩
    · rw [← heq, toLower_toLower]
    · rw [heq]
      exact hpre

lemma exists_split_of_continues {reg : GoString} (hmem : reg ∈ contracts) (hreg : isHexAddress reg = true)
    (h : Continues key reg) : ∃ c t, splitContractTokenKey contracts key = .ok (c, t) := by
  have hfold : matchContract (toLower key) (contracts.map toLower) ≠ [] := by
    refine matchContract_ne_nil (List.mem_map_of_mem hmem) ?_ h.1 ?_
    · intro hnil
      have hlen := congrArg List.length hnil
      rw [length_toLower] at hlen
      exact ne_nil_of_isHexAddress hreg (List.length_eq_zero_iff.mp hlen)
    · rw [length_toLower, length_toLower]
      exact h.2
  unfold splitContractTokenKey
  dsimp only
  rw [if_pos hfold]
  split_ifs
  · exact ⟨_, _, rfl⟩
  · exact ⟨_, _, rfl⟩

end Split

/-! ### The export is accepted -/

/-- No two refund records are the same token id behind two spellings of one registered contract. -/
def RefundsUnfolded (st : Store) : Prop :=
  ∀ p ∈ getTokenPairs st, ∀ k k', st.evmAddress.has k = true → st.evmAddress.has k' = true →
    Continues k p.erc721Address → Continues k' p.erc721Address →
    k.drop p.erc721Address.length = k'.drop p.erc721Address.length → k = k'

section Accepted

variable {validateDenom : GoString → Except Error Unit} {st : Store}

lemma isHexAddress_of_validate {p : TokenPair} (h : p.validate validateDenom = .ok ()) :
    isHexAddress p.erc721Address = true := by
  obtain ⟨-, haddr⟩ := check_bind_eq_ok.mp h
  exact require_eq_ok.mp haddr

lemma exportedUIDs_accepted (st : Store) :
    (∀ p ∈ (exportGenesis st).1.nftUidPairs, p.tokenUid ≠ [] ∧ p.nftUid ≠ [] ∧
        uidBelongsToRegisteredPair ((getTokenPairs st).map TokenPair.registration) p.tokenUid p.nftUid = true) ∧
      (exportGenesis st).1.nftUidPairs.Pairwise fun p q => ¬ (p.tokenUid = q.tokenUid ∨ p.nftUid = q.nftUid) := by
  refine ⟨fun p hp => ?_, pairwise_exported⟩
  obtain ⟨hrev, hfwd, hb⟩ := mem_exported.mp hp
  refine ⟨?_, ?_, hb⟩
  · intro hnil
    rw [hnil, KVStore.get?_nil] at hfwd
    cases hfwd
  · intro hnil
    rw [hnil, KVStore.get?_nil] at hrev
    cases hrev

lemma dedupe_eq_iff {contracts : List GoString} (hhex : ∀ c ∈ contracts, isHexAddress c = true)
    {k k' c c' t t' : GoString} (h : splitContractTokenKey contracts k = .ok (c, t))
    (h' : splitContractTokenKey contracts k' = .ok (c', t')) :
    toLower c ++ t = toLower c' ++ t' ↔ ∃ reg ∈ contracts, Continues k reg ∧ Continues k' reg ∧
      k.drop reg.length = k'.drop reg.length := by
  obtain ⟨rfl, reg, hreg, hlow, hcont, -⟩ := splitContractTokenKey_ok h
  obtain ⟨rfl, reg', hreg', hlow', hcont', -⟩ := splitContractTokenKey_ok h'
  have hlen : c.length = reg.length := by rw [← length_toLower c, hlow, length_toLower]
  have hlen' : c'.length = reg'.length := by rw [← length_toLower c', hlow', length_toLower]
  rw [hlow, hlow', hlen, hlen']
  constructor
  · intro heq
    -- the first address is continued by the common text, as is the second
    have hsame : toLower reg = toLower reg' := by
      refine @continues_unique (toLower reg ++ k.drop reg.length) _ _ (hhex _ hreg) (hhex _ hreg') ?_ ?_
      · rw [toLower_append, toLower_toLower]
        exact hasPrefix_append _ _
      · rw [heq, toLower_append, toLower_toLower]
        exact hasPrefix_append _ _
    have hregLen : reg.length = reg'.length := by rw [← length_toLower reg, hsame, length_toLower]
    refine ⟨reg, hreg, hcont, ⟨?_, ?_⟩, ?_⟩
    · rw [hsame]
      exact hcont'.1
    · rw [hregLen]
      exact hcont'.2
    · rw [hsame] at heq
      rw [List.append_cancel_left heq, hregLen]
  · rintro ⟨reg₀, hreg₀, hcont₀, hcont₀', hdrop⟩
    have hsame := continues_unique (hhex _ hreg) (hhex _ hreg₀) hcont.1 hcont₀.1
    have hsame' := continues_unique (hhex _ hreg') (hhex _ hreg₀) hcont'.1 hcont₀'.1
    have hl : reg.length = reg₀.length := by rw [← length_toLower reg, hsame, length_toLower]
    have hl' : reg'.length = reg₀.length := by rw [← length_toLower reg', hsame', length_toLower]
    rw [hsame, hsame', hl, hl', hdrop]

lemma refunds_pairwise_iff (hhex : ∀ p ∈ getTokenPairs st, isHexAddress p.erc721Address = true) :
    ((exportGenesis st).1.refundReceivers.Pairwise fun r q =>
      ¬ toLower r.contractAddress ++ r.tokenId = toLower q.contractAddress ++ q.tokenId) ↔ RefundsUnfolded st := by
  have hcontracts : ∀ c ∈ (getTokenPairs st).map TokenPair.erc721Address, isHexAddress c = true := by
    intro c hc
    obtain ⟨p, hp, rfl⟩ := List.mem_map.mp hc
    exact hhex p hp
  refine (pairwise_exportedRefunds_iff fun r => toLower r.contractAddress ++ r.tokenId).trans ?_
  constructor
  · intro hkeys p hp k k' hk hk' hcont hcont' hdrop
    obtain ⟨v, hv⟩ := Option.isSome_iff_exists.mp hk
    obtain ⟨v', hv'⟩ := Option.isSome_iff_exists.mp hk'
    have hmem := List.mem_map_of_mem (f := TokenPair.erc721Address) hp
    obtain ⟨c, t, hsplit⟩ := exists_split_of_continues hmem (hhex p hp) hcont
    obtain ⟨c', t', hsplit'⟩ := exists_split_of_continues hmem (hhex p hp) hcont'
    refine hkeys k ⟨c, t, v⟩ k' ⟨c', t', v'⟩ hv hv' hsplit hsplit' ?_
    exact (dedupe_eq_iff hcontracts hsplit hsplit').mpr ⟨_, hmem, hcont, hcont', hdrop⟩
  · intro hunfolded k r k' r' hk hk' hsplit hsplit' heq
    obtain ⟨reg, hreg, hcont, hcont', hdrop⟩ := (dedupe_eq_iff hcontracts hsplit hsplit').mp heq
    obtain ⟨p, hp, rfl⟩ := List.mem_map.mp hreg
    exact hunfolded p hp k k' (by simp [KVStore.has, hk]) (by simp [KVStore.has, hk']) hcont hcont' hdrop

lemma exportedRefunds_complete (hvalues : ∀ k v, st.evmAddress.get? k = some v → v ≠ []) {r : RefundReceiver}
    (hr : r ∈ (exportGenesis st).1.refundReceivers) :
    r.contractAddress ≠ [] ∧ r.tokenId ≠ [] ∧ r.receiver ≠ [] ∧ toLower r.contractAddress ∈
      ((getTokenPairs st).map TokenPair.registration).map fun tp => toLower tp.1 := by
  obtain ⟨key, hget, hsplit⟩ := mem_exportedRefunds.mp hr
  obtain ⟨htoken, reg, hreg, hlow, hcont, hne⟩ := splitContractTokenKey_ok hsplit
  have hlen : r.contractAddress.length = reg.length := by rw [← length_toLower, hlow, length_toLower]
  refine ⟨hne, ?_, hvalues key _ hget, ?_⟩
  · intro hnil
    rw [htoken, List.drop_eq_nil_iff, hlen] at hnil
    exact absurd hcont.2 (by omega)
  · obtain ⟨p, hp, rfl⟩ := List.mem_map.mp hreg
    rw [hlow, List.map_map]
    exact List.mem_map_of_mem (f := fun p : TokenPair => toLower p.erc721Address) hp

lemma exportGenesis_accepted (hhex : ∀ p ∈ getTokenPairs st, isHexAddress p.erc721Address = true)
    (hvalues : ∀ k v, st.evmAddress.get? k = some v → v ≠ []) :
    validateGenesisPairs (exportGenesis st).1.nftUidPairs (exportGenesis st).1.refundReceivers
      (exportGenesis st).1.tokenPairs = .ok () ↔ RefundsUnfolded st := by
  rw [validateGenesisPairs, validateGenesisPairs_eq_ok, ← refunds_pairwise_iff hhex]
  constructor
  · rintro ⟨-, -, hpair⟩
    exact hpair
  · intro hpair
    exact ⟨exportedUIDs_accepted st, fun r hr => exportedRefunds_complete hvalues hr, hpair⟩

end Accepted

/-- The state that a store exports is accepted, and importing it does not stop, exactly when the refund
records of each registered contract differ in their token ids. -/
theorem exportGenesis_accepted_iff (X : Extern) (validateDenom : GoString → Except Error Unit) (st : Store)
    (hvalid : ∀ p ∈ getTokenPairs st, p.validate validateDenom = .ok ())
    (hvalues : ∀ k v, st.evmAddress.get? k = some v → v ≠ []) :
    (validateGenesisPairs (exportGenesis st).1.nftUidPairs (exportGenesis st).1.refundReceivers
        (exportGenesis st).1.tokenPairs = .ok () ↔ RefundsUnfolded st) ∧
      ((∃ st', initGenesis X .empty (exportGenesis st).1 = .ok st') ↔ RefundsUnfolded st) := by
  have haccepted := exportGenesis_accepted (fun p hp => isHexAddress_of_validate (hvalid p hp)) hvalues
  refine ⟨haccepted, ?_⟩
  rw [← haccepted]
  simp only [initGenesis_eq_ok, exists_and_left, exists_eq, and_true]

def refundStore (refunds : List (GoString × GoString)) : Store :=
  { Store.empty with
    tokenPair := KVStore.empty.set (str "id") ⟨str "0xa92ca1f63c993f2dd1ec18209579e3b263fdb09c", str "kitty"⟩
    evmAddress := KVStore.empty.setAll refunds }

def anyDenom (_ : GoString) : Except Error Unit := .ok ()

/-- Two token ids, one under the lower-case and one under the EIP-55 spelling of their contract. -/
def unfoldedStore : Store :=
  refundStore [(str "0xa92ca1f63c993f2dd1ec18209579e3b263fdb09c7", str "0x11"),
    (Sample.deployed.hex Sample.X.keccak256 ++ str "8", str "0x22")]

theorem exportGenesis_accepted_unfolded : (exportGenesis unfoldedStore).1.refundReceivers.length = 2 ∧
    RefundsUnfolded unfoldedStore ∧ ∃ st', initGenesis Sample.X .empty (exportGenesis unfoldedStore).1 = .ok st' := by
  have hvalues : ∀ e ∈ unfoldedStore.evmAddress.entries, e.2 ≠ [] := by decide +kernel
  obtain ⟨haccepted, himported⟩ := exportGenesis_accepted_iff Sample.X anyDenom unfoldedStore (by decide +kernel)
    fun k v hv => hvalues (k, v) (KVStore.mem_entries.mpr hv)
  have hunfolded : RefundsUnfolded unfoldedStore := haccepted.mp (by decide +kernel)
  exact ⟨by decide +kernel, hunfolded, himported.mpr hunfolded⟩

/-- One token id under the lower-case and the EIP-55 spelling of its contract. -/
def foldedStore : Store :=
  refundStore [(str "0xa92ca1f63c993f2dd1ec18209579e3b263fdb09c7", str "0x11"),
    (Sample.deployed.hex Sample.X.keccak256 ++ str "7", str "0x22")]

theorem exportGenesis_refused :
    (∀ p ∈ getTokenPairs foldedStore, p.validate anyDenom = .ok ()) ∧
      (∀ e ∈ foldedStore.evmAddress.entries, e.2 ≠ []) ∧
      (getTokenPairs foldedStore).length = 1 ∧
      (validateGenesisPairs (exportGenesis foldedStore).1.nftUidPairs (exportGenesis foldedStore).1.refundReceivers
        (exportGenesis foldedStore).1.tokenPairs).toBool = false ∧
      (initGenesis Sample.X .empty (exportGenesis foldedStore).1).toBool = false := by
  decide +kernel

/-- The key that a refund record has after a restart: its contract in lower case. -/
def MovesTo (st : Store) (key key' : GoString) : Prop :=
  ∃ p ∈ getTokenPairs st, Continues key p.erc721Address ∧
    key' = toLower p.erc721Address ++ key.drop p.erc721Address.length

/-- The store after a restart: the pairs are the same, bindings and refund records are those of the old store, and
what is missing of them was reported. -/
structure Restored (st st' : Store) (issues : List GenesisExportIssue) : Prop where
  enableErc721 : st'.enableErc721 = st.enableErc721
  tokenPair : st'.tokenPair = st.tokenPair
  inverse : st'.byTokenUID.Inverse st'.byNFTUID
  binding : ∀ t n, st'.byTokenUID.get? t = some n → st.byTokenUID.get? t = some n ∧ st.byNFTUID.get? n = some t
  forward : ∀ t n, st.byTokenUID.get? t = some n → st'.byTokenUID.get? t = some n ∨
    Reported issues [.uidIndexForward, .uidIndexUnregisteredPair] (.s t)
  reverse : ∀ n t, st.byNFTUID.get? n = some t → st'.byNFTUID.get? n = some t ∨
    Reported issues [.uidIndexBackward] (.s n) ∨ Reported issues [.uidIndexUnregisteredPair] (.s t)
  receiver : ∀ key' v, st'.evmAddress.get? key' = some v → ∃ key, st.evmAddress.get? key = some v ∧ MovesTo st key key'
  refund : ∀ key v, st.evmAddress.get? key = some v →
    (∃ key', MovesTo st key key' ∧ st'.evmAddress.get? key' = some v) ∨ Reported issues [.refundKeyOrphan] (.q key)

lemma reported_mono {issues issues' : List GenesisExportIssue} {kinds : List GenesisExportIssueKind} {key : Arg}
    (hsub : issues ⊆ issues') (h : Reported issues kinds key) : Reported issues' kinds key := by
  obtain ⟨i, hi, hrest⟩ := h
  exact ⟨i, hsub hi, hrest⟩

section Restart

variable {X : Extern} {st : Store}

lemma get?_imported_tokenPair (hids : ∀ id p, st.tokenPair.get? id = some p → id = p.getID X) :
    (imported X (exportGenesis st).1).tokenPair = st.tokenPair := by
  have hsame : (getTokenPairs st).map (fun p => (p.getID X, p)) = st.tokenPair.entries.map fun e => (e.1, e.2) := by
    rw [getTokenPairs, List.map_map]
    apply List.map_congr_left
    intro e he
    rw [Function.comp, ← hids e.1 e.2 (KVStore.mem_entries.mp he)]
  have hsorted : st.tokenPair.entries.Pairwise fun e e' => e.1 ≠ e'.1 :=
    (List.pairwise_map.mp st.tokenPair.sorted).imp ne_of_lt
  apply KVStore.ext
  intro k
  apply Option.ext
  intro p
  show (KVStore.empty.setAll ((getTokenPairs st).map fun p => (p.getID X, p))).get? k = some p ↔ _
  rw [hsame, KVStore.get?_empty_setAll hsorted fun e he => st.tokenPair.keys_ne_nil _ (List.mem_map_of_mem he)]
  constructor
  · rintro ⟨e, he, rfl, rfl⟩
    exact KVStore.mem_entries.mp he
  · intro hget
    exact ⟨(k, p), KVStore.mem_entries.mpr hget, rfl, rfl⟩

lemma get?_imported_uids (t n : GoString) :
    ((imported X (exportGenesis st).1).byTokenUID.get? t = some n ↔ ⟨t, n⟩ ∈ (exportGenesis st).1.nftUidPairs) ∧
      ((imported X (exportGenesis st).1).byNFTUID.get? n = some t ↔ ⟨t, n⟩ ∈ (exportGenesis st).1.nftUidPairs) := by
  obtain ⟨hne, hpair⟩ := exportedUIDs_accepted st
  have hmem : (∃ p ∈ (exportGenesis st).1.nftUidPairs, p.tokenUid = t ∧ p.nftUid = n) ↔
      ⟨t, n⟩ ∈ (exportGenesis st).1.nftUidPairs := by
    constructor
    · rintro ⟨p, hp, rfl, rfl⟩
      exact hp
    · exact fun hp => ⟨_, hp, rfl, rfl⟩
  rw [imported, KVStore.get?_empty_setAll (hpair.imp fun h heq => h (.inl heq)) fun p hp => (hne p hp).1,
    KVStore.get?_empty_setAll (hpair.imp fun h heq => h (.inr heq)) fun p hp => (hne p hp).2.1]
  exact ⟨hmem, by simpa only [and_comm] using hmem⟩

lemma movesTo_of_split {key c t : GoString}
    (h : splitContractTokenKey ((getTokenPairs st).map TokenPair.erc721Address) key = .ok (c, t)) :
    MovesTo st key (toLower c ++ t) := by
  obtain ⟨htoken, reg, hreg, hlow, hcont, -⟩ := splitContractTokenKey_ok h
  obtain ⟨p, hp, rfl⟩ := List.mem_map.mp hreg
  have hlen : c.length = p.erc721Address.length := by rw [← length_toLower, hlow, length_toLower]
  exact ⟨p, hp, hcont, by rw [hlow, htoken, hlen]⟩

/-- A restart from an export, for a store with valid pairs under their own ids and with complete refund records of
which no two fall together: it succeeds, nothing is invented, and every record that is lost has been reported. -/
theorem restart_restores (X : Extern) (st : Store)
    (hids : ∀ id p, st.tokenPair.get? id = some p → id = p.getID X ∧ isHexAddress p.erc721Address = true)
    (hvalues : ∀ k v, st.evmAddress.get? k = some v → v ≠ []) (hunfolded : RefundsUnfolded st) :
    ∃ st', initGenesis X .empty (exportGenesis st).1 = .ok st' ∧ Restored st st' (exportGenesis st).2 := by
  have hhex : ∀ p ∈ getTokenPairs st, isHexAddress p.erc721Address = true := by
    intro p hp
    obtain ⟨e, he, rfl⟩ := List.mem_map.mp hp
    exact (hids e.1 e.2 (KVStore.mem_entries.mp he)).2
  have haccepted := (exportGenesis_accepted hhex hvalues).mpr hunfolded
  refine ⟨_, initGenesis_eq_ok.mpr ⟨haccepted, rfl⟩, ?_⟩
  have hrefund : ∀ key v, (imported X (exportGenesis st).1).evmAddress.get? key = some v ↔
      ∃ r ∈ (exportGenesis st).1.refundReceivers, toLower r.contractAddress ++ r.tokenId = key ∧ r.receiver = v := by
    apply KVStore.get?_empty_setAll ((refunds_pairwise_iff hhex).mpr hunfolded)
    intro r hr hnil
    exact (exportedRefunds_complete hvalues hr).2.1 (List.append_eq_nil_iff.mp hnil).2
  exact
    { enableErc721 := rfl
      tokenPair := get?_imported_tokenPair fun id p hp => (hids id p hp).1
      inverse := fun t n => (get?_imported_uids t n).1.trans (get?_imported_uids t n).2.symm
      binding := by
        intro t n ht
        obtain ⟨hreverse, hforward, -⟩ := mem_exported.mp ((get?_imported_uids t n).1.mp ht)
        exact ⟨hforward, hreverse⟩
      forward := by
        intro t n ht
        rcases forward_accounted ht with hexported | hreported
        · exact .inl ((get?_imported_uids t n).1.mpr hexported)
        · exact .inr (reported_mono (List.subset_append_left _ _) hreported)
      reverse := by
        intro n t hn
        rcases reverse_accounted hn with hexported | hback | hunregistered
        · exact .inl ((get?_imported_uids t n).2.mpr hexported)
        · exact .inr (.inl (reported_mono (List.subset_append_left _ _) hback))
        · exact .inr (.inr (reported_mono (List.subset_append_left _ _) hunregistered))
      receiver := by
        intro key' v hv
        obtain ⟨r, hr, rfl, rfl⟩ := (hrefund key' v).mp hv
        obtain ⟨key, hget, hsplit⟩ := mem_exportedRefunds.mp hr
        exact ⟨key, hget, movesTo_of_split hsplit⟩
      refund := by
        intro key v hv
        rcases @refund_accounted (splitContractTokenKey ((getTokenPairs st).map TokenPair.erc721Address)) _ _ _ hv
          with ⟨c, t, hsplit, hexported⟩ | hreported
        · exact .inl ⟨_, movesTo_of_split hsplit, (hrefund _ v).mpr ⟨_, hexported, rfl, rfl⟩⟩
        · exact .inr (reported_mono (List.subset_append_right _ _) hreported) }

end Restart

/-- A registered pair, and a forward entry without a partner. -/
def orphanStore : Store :=
  { Store.empty with
    tokenPair := KVStore.empty.set ((⟨Sample.contract, str "kitty"⟩ : TokenPair).getID Sample.X)
      ⟨Sample.contract, str "kitty"⟩
    byTokenUID := KVStore.empty.set (createTokenUID Sample.contract (str "7")) (str "cat,kitty") }

theorem restart_restores_orphan : ∃ st', initGenesis Sample.X .empty (exportGenesis orphanStore).1 = .ok st' ∧
    Restored orphanStore st' (exportGenesis orphanStore).2 := by
  have hall : ∀ e ∈ orphanStore.tokenPair.entries,
      e.1 = e.2.getID Sample.X ∧ isHexAddress e.2.erc721Address = true := by decide +kernel
  refine restart_restores Sample.X orphanStore (fun id p hp => hall (id, p) (KVStore.mem_entries.mpr hp))
    (fun k v hv => ?_) fun p _ k k' hk => ?_
  · cases hv
  · cases hk

end Uptick.Erc721
