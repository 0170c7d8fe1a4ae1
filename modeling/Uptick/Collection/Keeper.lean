import Uptick.Collection.Ledger

/-!
# The keeper of x/collection

`keeper/nft.go` and `keeper/denom.go` over the ledger of x/nft. A function that writes returns the new
ledger; one that fails returns the error and writes nothing.
-/

namespace Uptick.Collection

open Text Outcome

variable (X : Extern) (nk : NftKeeper)

/-- `cdc.Unmarshal` of a payload that is there. -/
def unmarshal {α : Type} (zero : α) : Payload α → Except Error α
  | .absent => .ok zero
  | .unreadable err => .error ⟨.external err, []⟩
  | .value a => .ok a

/-- `types.Denom` -/
structure Denom where
  id : GoString
  name : GoString
  schema : GoString
  creator : GoString
  symbol : GoString
  mintRestricted : Bool
  updateRestricted : Bool
  description : GoString
  uri : GoString
  uriHash : GoString
  data : GoString
  deriving DecidableEq, Repr

/-- `types.BaseNFT` -/
structure BaseNFT where
  id : GoString
  name : GoString
  uri : GoString
  data : GoString
  owner : GoString
  uriHash : GoString
  deriving DecidableEq, Repr

def getDenomInfo (L : NftLedger) (denomID : GoString) : Except Error Denom :=
  match L.getClass denomID with
  | none => .error (wrapf .invalidDenom "denom ID %s not exists" [.s denomID])
  | some cl => do
    let m ← unmarshal DenomMetadata.zero cl.data
    .ok ⟨denomID, cl.name, m.schema, m.creator, cl.symbol, m.mintRestricted, m.updateRestricted,
      cl.description, cl.uri, cl.uriHash, m.data⟩

/-- The arguments of `SaveDenom` besides the id and the creator. -/
structure DenomFields where
  name : GoString
  schema : GoString
  symbol : GoString
  mintRestricted : Bool
  updateRestricted : Bool
  description : GoString
  uri : GoString
  uriHash : GoString
  data : GoString
  deriving DecidableEq, Repr

def saveDenom (L : NftLedger) (id : GoString) (f : DenomFields) (creator : AccAddress) :
    Except Error NftLedger := do
  validateDenomID id
  validateDenomMetadataBounds f.schema f.data
  let metadata : DenomMetadata :=
    ⟨X.accString creator, f.schema, f.mintRestricted, f.updateRestricted, f.data⟩
  nk.saveClass L id ⟨f.name, f.symbol, f.description, f.uri, f.uriHash, .value metadata⟩

def transferDenomOwner (L : NftLedger) (denomID : GoString) (srcOwner dstOwner : AccAddress) :
    Except Error NftLedger := do
  let denom ← getDenomInfo L denomID
  let creatorAcc ← mapError (fun e => e.wrapf "invalid creator address" []) (X.decodeAcc denom.creator)
  require (srcOwner = creatorAcc) (wrapf .unauthorized "%s is not allowed to transfer denom %s"
    [.s (X.accString srcOwner), .s denomID])
  let metadata : DenomMetadata :=
    ⟨X.accString dstOwner, denom.schema, denom.mintRestricted, denom.updateRestricted, denom.data⟩
  nk.updateClass L denomID ⟨denom.name, denom.symbol, denom.description, denom.uri, denom.uriHash, .value metadata⟩

/-- The texts of a token that a caller hands in, in the order of the keeper's arguments. -/
structure TokenFields where
  name : GoString
  uri : GoString
  uriHash : GoString
  data : GoString
  deriving DecidableEq, Repr

def saveNFT (L : NftLedger) (denomID tokenID : GoString) (f : TokenFields) (receiver : AccAddress) :
    Except Error NftLedger := do
  require (denomID ≠ []) (wrapf .invalidRequest "denom ID cannot be empty" [])
  require (tokenID ≠ []) (wrapf .invalidRequest "token ID cannot be empty" [])
  require (receiver ≠ []) (wrapf .invalidAddress "receiver cannot be empty" [])
  nk.mint L denomID tokenID ⟨f.uri, f.uriHash, .value ⟨f.name, f.data⟩⟩ receiver

def authorize (L : NftLedger) (denomID tokenID : GoString) (owner : AccAddress) : Except Error Unit :=
  require (owner = L.getOwner denomID tokenID) (wrapf .collectionUnauthorized "%s" [.s (X.accString owner)])

/-- The record with the name and the data of an edit merged in. -/
def modifyMetadata (data : Payload NFTMetadata) (f : TokenFields) : Except Error (Payload NFTMetadata) := do
  let m ← unmarshal NFTMetadata.zero data
  .ok (.value ⟨modify m.name f.name, modify m.data f.data⟩)

/-- The new payload: merged when the name or the data counts as changed, kept otherwise. -/
def writeMetadata (changed : Bool) (data : Payload NFTMetadata) (f : TokenFields) :
    Except Error (Payload NFTMetadata) :=
  if changed then modifyMetadata data f else .ok data

def updateNFT (L : NftLedger) (denomID tokenID : GoString) (f : TokenFields) (owner : AccAddress) :
    Except Error NftLedger := do
  let denom ← getDenomInfo L denomID
  require (denom.updateRestricted = false)
    (wrapf .unauthorized "nobody can update the NFT under this denom %s" [.s denomID])
  match L.getNFT denomID tokenID with
  | none => .error (wrapf .unknownNFT "nft not exist: %s-%s" [.s denomID, .s tokenID])
  | some token =>
    authorize X L denomID tokenID owner
    if !modified f.uri && !modified f.uriHash && !modified f.name && !modified f.data then .ok L
    else
      let data ← writeMetadata (modified f.name || modified f.data) token.data f
      nk.update L denomID tokenID ⟨modify token.uri f.uri, modify token.uriHash f.uriHash, data⟩

/-- `tokenChanged` of `TransferOwnership` -/
def tokenChanged (token : NFT) (f : TokenFields) : Bool :=
  modified f.uri && f.uri ≠ token.uri || modified f.uriHash && f.uriHash ≠ token.uriHash

/-- `tokenMetadataChanged` of `TransferOwnership` -/
def tokenMetadataChanged (token : NFT) (f : TokenFields) : Except Error Bool :=
  if modified f.name || modified f.data then
    match token.data with
    | .absent => .ok true
    | data => do
      let m ← unmarshal NFTMetadata.zero data
      .ok (modified f.name && f.name ≠ m.name || modified f.data && f.data ≠ m.data)
  else .ok false

def transferOwnership (L : NftLedger) (denomID tokenID : GoString) (f : TokenFields)
    (srcOwner dstOwner : AccAddress) : Except Error NftLedger :=
  match L.getNFT denomID tokenID with
  | none => .error (wrapf .invalidTokenID "nft ID %s not exists" [.s tokenID])
  | some token => do
    authorize X L denomID tokenID srcOwner
    let denom ← getDenomInfo L denomID
    let metadataChanged ← tokenMetadataChanged token f
    let changed := tokenChanged token f || metadataChanged
    require (¬(denom.updateRestricted = true ∧ changed = true))
      (wrapf .unauthorized "it is restricted to update NFT under this denom %s" [.s denom.id])
    if changed = false then nk.transfer L denomID tokenID dstOwner
    else
      let data ← writeMetadata metadataChanged token.data f
      let L' ← nk.update L denomID tokenID ⟨modify token.uri f.uri, modify token.uriHash f.uriHash, data⟩
      nk.transfer L' denomID tokenID dstOwner

/-- `RemoveNFT`, with the answer of the `ConvertedNFTChecker` that the application wires in. -/
def removeNFT (converted : GoString → GoString → Bool) (L : NftLedger) (denomID tokenID : GoString)
    (owner : AccAddress) : Except Error NftLedger := do
  require (L.hasNFT denomID tokenID = true)
    (wrapf .unknownNFT "not found NFT %s from collection %s" [.s tokenID, .s denomID])
  authorize X L denomID tokenID owner
  require (converted denomID tokenID = false) (wrapf .nftBoundToContract
    "nft %s/%s is paired with a contract token; convert it back (un-wrap) before burning it"
    [.s denomID, .s tokenID])
  nk.burn L denomID tokenID

/-- The metadata that a query shows: a record that cannot be read counts as empty. -/
def shownMetadata : Payload NFTMetadata → NFTMetadata
  | .value m => m
  | _ => NFTMetadata.zero

def getNFT (L : NftLedger) (denomID tokenID : GoString) : Except Error BaseNFT :=
  match L.getNFT denomID tokenID with
  | none => .error (wrapf .unknownNFT "not found NFT %s from collection %s" [.s tokenID, .s denomID])
  | some token =>
    let m := shownMetadata token.data
    .ok ⟨tokenID, m.name, token.uri, m.data, X.accString (L.getOwner denomID tokenID), token.uriHash⟩

variable {X nk} {L L' : NftLedger} {c n : GoString} {f : TokenFields}

lemma hasClass_of_getDenomInfo {d : Denom} (h : getDenomInfo L c = .ok d) : L.hasClass c = true := by
  unfold getDenomInfo at h
  cases hc : L.getClass c with
  | none => simp [hc] at h
  | some cl => simp [NftLedger.hasClass, hc]

/-- What a transfer does to the record it moves: whether it changes, and the new record. -/
def movedToken (token : NFT) (f : TokenFields) : Except Error (Bool × NFT) := do
  let metadataChanged ← tokenMetadataChanged token f
  if tokenChanged token f || metadataChanged then
    let data ← writeMetadata metadataChanged token.data f
    .ok (true, ⟨modify token.uri f.uri, modify token.uriHash f.uriHash, data⟩)
  else .ok (false, token)

lemma put_put (L : NftLedger) (c n : GoString) (h h' : Option Held) :
    (L.put c n h).put c n h' = L.put c n h' := by
  apply NftLedger.ext
  · rfl
  · funext c' n'
    by_cases he : (c', n') = (c, n)
    · cases he
      rw [NftLedger.held_put_self, NftLedger.held_put_self]
    · rw [NftLedger.held_put_of_ne _ _ he, NftLedger.held_put_of_ne _ _ he, NftLedger.held_put_of_ne _ _ he]

lemma authorize_eq_ok {o : AccAddress} {u : Unit} : authorize X L c n o = .ok u ↔ o = L.getOwner c n := by
  unfold authorize
  exact require_eq_ok

/-- A transfer succeeds when its source holds the token, the class can be read, the new record can be
built, and an update-restricted class sees no change. -/
theorem transferOwnership_eq_ok {src dst : AccAddress} :
    transferOwnership X nk L c n f src dst = .ok L' ↔ ∃ token denom m,
      L.held c n = some ⟨token, src⟩ ∧ getDenomInfo L c = .ok denom ∧ movedToken token f = .ok m ∧
        ¬(denom.updateRestricted = true ∧ m.1 = true) ∧ L' = L.put c n (some ⟨m.2, dst⟩) := by
  unfold transferOwnership NftLedger.getNFT
  cases hh : L.held c n with
  | none => simp
  | some k =>
    obtain ⟨token, o⟩ := k
    have howner : L.getOwner c n = o := NftLedger.getOwner_of_held hh
    simp only [Option.map_some]
    rw [check_bind_eq_ok, authorize_eq_ok, howner]
    constructor
    · rintro ⟨rfl, h⟩
      obtain ⟨denom, hd, h⟩ := bind_eq_ok.mp h
      obtain ⟨mc, hmc, h⟩ := bind_eq_ok.mp h
      obtain ⟨hres, h⟩ := require_bind_eq_ok.mp h
      by_cases hch : (tokenChanged token f || mc) = true
      · simp only [hch, reduceCtorEq, if_false] at h
        obtain ⟨data, hdata, h⟩ := bind_eq_ok.mp h
        obtain ⟨L₁, hu, ht⟩ := bind_eq_ok.mp h
        obtain ⟨-, k, hk, rfl⟩ := nk.update_eq_ok.mp hu
        obtain ⟨-, k', hk', rfl⟩ := nk.transfer_eq_ok.mp ht
        rw [hh, Option.some.injEq] at hk
        subst hk
        rw [NftLedger.held_put_self, Option.some.injEq] at hk'
        subst hk'
        refine ⟨token, denom, (true, ⟨modify token.uri f.uri, modify token.uriHash f.uriHash, data⟩),
          rfl, hd, ?_, ?_, ?_⟩
        · rw [movedToken, hmc, ok_bind, hch, if_pos rfl, hdata]
          rfl
        · simpa [hch] using hres
        · rw [put_put]
      · simp only [Bool.not_eq_true] at hch
        simp only [hch, if_true] at h
        obtain ⟨-, k, hk, rfl⟩ := nk.transfer_eq_ok.mp h
        rw [hh, Option.some.injEq] at hk
        subst hk
        refine ⟨token, denom, (false, token), rfl, hd, ?_, by simp, rfl⟩
        rw [movedToken, hmc, ok_bind, hch]
        rfl
    · rintro ⟨token', denom, m, hheld, hd, hm, hres, rfl⟩
      simp only [Option.some.injEq, Held.mk.injEq] at hheld
      obtain ⟨rfl, rfl⟩ := hheld
      refine ⟨rfl, ?_⟩
      rw [hd, ok_bind]
      obtain ⟨mc, hmc, hm⟩ := bind_eq_ok.mp hm
      rw [hmc, ok_bind]
      have hclass := hasClass_of_getDenomInfo hd
      by_cases hch : (tokenChanged token f || mc) = true
      · simp only [hch, if_true] at hm
        obtain ⟨data, hdata, hm⟩ := bind_eq_ok.mp hm
        simp only [Except.ok.injEq] at hm
        subst hm
        rw [require_bind_eq_ok]
        refine ⟨by simpa [hch] using hres, ?_⟩
        simp only [hch, reduceCtorEq, if_false]
        rw [hdata, ok_bind, nk.update_eq_ok.mpr ⟨hclass, _, hh, rfl⟩, ok_bind]
        refine nk.transfer_eq_ok.mpr ⟨hclass, _, NftLedger.held_put_self _ _ _ _, ?_⟩
        rw [put_put]
      · simp only [Bool.not_eq_true] at hch
        simp only [hch, reduceCtorEq, if_false, Except.ok.injEq] at hm
        subst hm
        rw [require_bind_eq_ok]
        refine ⟨by simp [hch], ?_⟩
        simp only [hch, if_true]
        exact nk.transfer_eq_ok.mpr ⟨hclass, _, hh, rfl⟩

lemma saveNFT_eq_ok {r : AccAddress} : saveNFT nk L c n f r = .ok L' ↔
    c ≠ [] ∧ n ≠ [] ∧ r ≠ [] ∧ L.hasClass c = true ∧ L.held c n = none ∧
      L' = L.put c n (some ⟨⟨f.uri, f.uriHash, .value ⟨f.name, f.data⟩⟩, r⟩) := by
  unfold saveNFT
  rw [require_bind_eq_ok, require_bind_eq_ok, require_bind_eq_ok, nk.mint_eq_ok]

lemma removeNFT_eq_ok {converted : GoString → GoString → Bool} {o : AccAddress} :
    removeNFT X nk converted L c n o = .ok L' ↔
      L.hasNFT c n = true ∧ o = L.getOwner c n ∧ converted c n = false ∧ L.hasClass c = true ∧
        L' = L.put c n none := by
  unfold removeNFT
  rw [require_bind_eq_ok, check_bind_eq_ok, authorize_eq_ok, require_bind_eq_ok, nk.burn_eq_ok]
  constructor
  · rintro ⟨h₁, h₂, h₃, h₄, -, h₅⟩
    exact ⟨h₁, h₂, h₃, h₄, h₅⟩
  · rintro ⟨h₁, h₂, h₃, h₄, h₅⟩
    exact ⟨h₁, h₂, h₃, h₄, h₁, h₅⟩

/-- The record of a token after the texts of an edit or a transfer were merged into it, or left as it is. -/
def Edited (f : TokenFields) (token token' : NFT) : Prop := token' = token ∨ ∃ changed data,
  writeMetadata changed token.data f = .ok data ∧
    token' = ⟨modify token.uri f.uri, modify token.uriHash f.uriHash, data⟩

lemma edited_of_movedToken {token : NFT} {m : Bool × NFT} (h : movedToken token f = .ok m) : Edited f token m.2 := by
  unfold movedToken at h
  obtain ⟨mc, -, h⟩ := bind_eq_ok.mp h
  split at h
  · obtain ⟨data, hdata, h⟩ := bind_eq_ok.mp h
    cases h
    exact Or.inr ⟨mc, data, hdata, rfl⟩
  · cases h
    exact Or.inl rfl

/-- An edit keeps the owner and every other token, and the class lets tokens be updated. -/
lemma updateNFT_spec {o : AccAddress} (h : updateNFT X nk L c n f o = .ok L') : ∃ token token' denom,
    L.held c n = some ⟨token, o⟩ ∧ getDenomInfo L c = .ok denom ∧ denom.updateRestricted = false ∧
      Edited f token token' ∧ L' = L.put c n (some ⟨token', o⟩) := by
  unfold updateNFT NftLedger.getNFT at h
  obtain ⟨denom, hdenom, h⟩ := bind_eq_ok.mp h
  obtain ⟨hfree, h⟩ := require_bind_eq_ok.mp h
  cases hh : L.held c n with
  | none => simp [hh] at h
  | some k =>
    obtain ⟨token, o'⟩ := k
    simp only [hh, Option.map_some] at h
    rw [check_bind_eq_ok, authorize_eq_ok, NftLedger.getOwner_of_held hh] at h
    obtain ⟨rfl, h⟩ := h
    split at h
    · simp only [Except.ok.injEq] at h
      subst h
      refine ⟨token, token, denom, rfl, hdenom, hfree, Or.inl rfl, ?_⟩
      apply NftLedger.ext
      · rfl
      · funext c' n'
        by_cases he : (c', n') = (c, n)
        · cases he
          rw [NftLedger.held_put_self, hh]
        · rw [NftLedger.held_put_of_ne _ _ he]
    · obtain ⟨data, hdata, h⟩ := bind_eq_ok.mp h
      obtain ⟨-, k, hk, rfl⟩ := nk.update_eq_ok.mp h
      rw [hh, Option.some.injEq] at hk
      subst hk
      exact ⟨token, _, denom, rfl, hdenom, hfree, Or.inr ⟨_, data, hdata, rfl⟩, rfl⟩

lemma updateNFT_eq_ok {o : AccAddress} (h : updateNFT X nk L c n f o = .ok L') :
    ∃ token token', L.held c n = some ⟨token, o⟩ ∧ L' = L.put c n (some ⟨token', o⟩) := by
  obtain ⟨token, token', -, hheld, -, -, -, rfl⟩ := updateNFT_spec h
  exact ⟨token, token', hheld, rfl⟩

end Uptick.Collection
