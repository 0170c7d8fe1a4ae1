import Uptick.Collection.Migration.Store
import Uptick.Collection.Represents
import Uptick.Sample

/-!
# A concrete record store

An encoding of the records of x/nft, the keeper over it, and the spellings of accounts that are read in either letter
case, for the concrete runs on byte stores.
-/

namespace Uptick.Sample

open Text Outcome Collection

/-- The bytes of each text behind a one, and a zero behind each text. -/
def frame : List GoString → GoString
  | [] => []
  | s :: ss => s.flatMap (fun b => [1, b]) ++ 0 :: frame ss

def unframe : GoString → List GoString
  | [] => []
  | [_] => [[]]
  | a :: b :: rest =>
    if a = 0 then [] :: unframe (b :: rest)
    else
      match unframe rest with
      | [] => [[b]]
      | s :: ss => (b :: s) :: ss

lemma unframe_append (s rest : GoString) : unframe (s.flatMap (fun b => [1, b]) ++ 0 :: rest) = s :: unframe rest := by
  induction s with
  | nil =>
    cases rest with
    | nil => rfl
    | cons b rest => simp [unframe]
  | cons b s ih => simp [unframe, ih]

lemma unframe_frame (ss : List GoString) : unframe (frame ss) = ss := by
  induction ss with
  | nil => rfl
  | cons s ss ih => rw [frame, unframe_append, ih]

def flag (b : Bool) : GoString := if b then [1] else []

def denomTexts : Payload DenomMetadata → List GoString
  | .absent => []
  | .unreadable err => [err]
  | .value m => [m.creator, m.schema, flag m.mintRestricted, flag m.updateRestricted, m.data]

def readDenom : List GoString → Payload DenomMetadata
  | [] => .absent
  | [creator, schema, mint, update, data] => .value ⟨creator, schema, mint = [1], update = [1], data⟩
  | err :: _ => .unreadable err

def tokenTexts : Payload NFTMetadata → List GoString
  | .absent => []
  | .unreadable err => [err]
  | .value m => [m.name, m.data]

def readToken : List GoString → Payload NFTMetadata
  | [] => .absent
  | [name, data] => .value ⟨name, data⟩
  | err :: _ => .unreadable err

lemma readDenom_denomTexts (p : Payload DenomMetadata) : readDenom (denomTexts p) = p := by
  cases p with
  | absent => rfl
  | unreadable err => rfl
  | value m =>
    obtain ⟨creator, schema, mint, update, data⟩ := m
    cases mint <;> cases update <;> rfl

lemma readToken_tokenTexts (p : Payload NFTMetadata) : readToken (tokenTexts p) = p := by
  cases p <;> rfl

def records : NftStore.Records where
  marshalClass id cl := frame ([id, cl.name, cl.symbol, cl.description, cl.uri, cl.uriHash] ++ denomTexts cl.data)
  unmarshalClass bz :=
    match unframe bz with
    | id :: name :: symbol :: description :: uri :: uriHash :: rest =>
      .ok (id, ⟨name, symbol, description, uri, uriHash, readDenom rest⟩)
    | _ => .error (external "unexpected EOF")
  marshalNFT c n t := frame ([c, n, t.uri, t.uriHash] ++ tokenTexts t.data)
  unmarshalNFT bz :=
    match unframe bz with
    | c :: n :: uri :: uriHash :: rest => .ok (c, n, ⟨uri, uriHash, readToken rest⟩)
    | _ => .error (external "unexpected EOF")
  maxKeyLength := 65535
  unmarshalClass_marshalClass := by
    intro id cl
    simp [unframe_frame, readDenom_denomTexts]
  unmarshalNFT_marshalNFT := by
    intro c n t
    simp [unframe_frame, readToken_tokenTexts]

def keeper : NftStore.Keeper where
  toRecords := records
  saveClass B c cl := do
    require (NftStore.hasClass B c = false) (external "nft class already exists")
    NftStore.set records B (NftStore.classStoreKey c) (records.marshalClass c cl)
  mint B c n t o := do
    require (NftStore.hasClass B c = true) (external "nft class does not exist")
    require (NftStore.hasNFT B c n = false) (external "nft already exists")
    let B₁ ← NftStore.setToken records B c n t o
    NftStore.updateTotalSupply records B₁ c (NftStore.getTotalSupply B₁ c + 1)
  saveClass_eq_ok := require_bind_eq_ok
  mint_eq_ok := by
    intro B c n t o B'
    rw [require_bind_eq_ok, require_bind_eq_ok, bind_eq_ok]

def legacyCodec : Migration.LegacyCodec where
  unmarshalDenom bz :=
    match unframe bz with
    | [id, name, schema, creator, symbol, mint, update, description, uri, uriHash, data] =>
      .ok ⟨id, name, schema, creator, symbol, mint = [1], update = [1], description, uri, uriHash, data⟩
    | _ => .error (external "unexpected EOF")
  unmarshalBaseNFT bz :=
    match unframe bz with
    | [id, name, uri, data, owner, uriHash] => .ok ⟨id, name, uri, data, owner, uriHash⟩
    | _ => .error (external "unexpected EOF")

/-- The record of a denom that Alice created. -/
def denomRecord (id : GoString) : GoString :=
  frame [id, str "Cats", [], str "uptick1zyg3zyg3zyg3zyg3zyg3zyg3zyg3zyg3jmtet7", str "CAT", [], [], [], [], [], []]

def nftRecord (id : GoString) : GoString :=
  frame [id, str "Tom", [], [], str "uptick1yg3zyg3zyg3zyg3zyg3zyg3zyg3zyg3zaxwlrf", []]

/-- The account of a spelling, when its lower-case form is the canonical one. -/
def readLower (s : GoString) : Except GoString AccAddress :=
  match accAddressFromBech32 (toLower s) with
  | .error text => .error text
  | .ok acc => if accString acc = toLower s then .ok acc else .error (str "decoding bech32 failed")

lemma readLower_eq_ok {s : GoString} {acc : AccAddress} :
    readLower s = .ok acc ↔ accAddressFromBech32 (toLower s) = .ok acc ∧ accString acc = toLower s := by
  unfold readLower
  cases accAddressFromBech32 (toLower s) with
  | error text => simp
  | ok acc' =>
    by_cases hspell : accString acc' = toLower s
    · simp only [hspell, if_true, Except.ok.injEq]
      constructor
      · rintro rfl
        exact ⟨rfl, hspell⟩
      · exact fun h => h.1
    · simp only [hspell, if_false, reduceCtorEq, Except.ok.injEq, false_iff, not_and]
      rintro rfl
      exact hspell

def lowerX : Extern where
  keccak256 := X.keccak256
  sha256 := X.sha256
  tmhash := X.tmhash
  accAddressFromBech32 := readLower
  accString acc := if acc = [] then [] else accString acc
  createAddress := X.createAddress
  urlScheme := X.urlScheme
  jsonValid := X.jsonValid
  accAddressFromBech32_ok := fun h => accAddressFromBech32_ok (readLower_eq_ok.mp h).1
  accAddressFromBech32_accString := by
    intro acc hne hlen
    have hlower : toLower (accString acc) = accString acc := (accString_plain acc).2
    rw [if_neg hne, readLower_eq_ok, hlower]
    exact ⟨accAddressFromBech32_accString acc hne hlen, rfl⟩

end Uptick.Sample
