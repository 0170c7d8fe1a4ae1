import Uptick.Collection.BuilderSpec
import Uptick.SampleChain

/-!
# A token that comes back

A token of a local class goes out with the metadata `TokenBuilder.BuildMetadata` writes and comes back through
`TokenBuilder.Build`. It is restored exactly when its texts survive the JSON object they travel in.
-/

namespace Uptick.Collection

open Text Outcome Decimal

def tokenKeys : List GoString := [tokenKeyName, tokenKeyURIhash]

def tokenFields (m : NFTMetadata) (uriHash : GoString) : Members :=
  [(tokenKeyName, mediaField (.str m.name)), (tokenKeyURIhash, mediaField (.str uriHash))]

namespace TokenBuilder

lemma buildMetadata_local {classID : GoString} (hlocal : isIBCDenom classID = false) (uri uriHash : GoString)
    (m : NFTMetadata) : buildMetadata classID ⟨uri, uriHash, .value m⟩ =
      .ok (Base64.encodeToString (Json.marshal (.obj (insertAll (readData m.data).1 (tokenFields m uriHash))))) := by
  rw [buildMetadata]
  dsimp only [unmarshal]
  rw [ok_bind, if_neg]
  · rfl
  · rintro ⟨-, h⟩
    rw [hlocal] at h
    cases h

lemma build_marshal {ms : Members} (h : MembersFit ms) (uri : GoString) :
    build uri (Base64.encodeToString (Json.marshal (.obj ms))) = buildFromMap uri ms := by
  rw [build, Base64.decodeString_encodeToString]
  dsimp only
  rw [Json.unmarshalMap_marshal h.fits]
  rfl

lemma membersFit_tokenFields {m : NFTMetadata} {uriHash : GoString} (hname : Utf8.Valid m.name)
    (hhash : Utf8.Valid uriHash) : MembersFit (insertAll (readData m.data).1 (tokenFields m uriHash)) := by
  have hkeyName : Utf8.Valid tokenKeyName := Utf8.validString_eq_true.mp (by decide +kernel)
  have hkeyHash : Utf8.Valid tokenKeyURIhash := Utf8.validString_eq_true.mp (by decide +kernel)
  apply (membersFit_readData m.data).insertAll
  simp only [tokenFields, List.forall_mem_cons, List.not_mem_nil, false_implies, implies_true, and_true]
  exact ⟨⟨hkeyName, fits_mediaField (.str _ hname)⟩, hkeyHash, fits_mediaField (.str _ hhash)⟩

/-- What is built from the fields of a token: the fields, and what is left of its data. -/
lemma buildFromMap_tokenFields (uri uriHash : GoString) (m : NFTMetadata) :
    buildFromMap uri (insertAll (readData m.data).1 (tokenFields m uriHash)) =
      (validateTokenMetadataBounds (writeData (withoutKeys (readData m.data).1 tokenKeys))).bind fun _ =>
        .ok ⟨uri, uriHash, .value ⟨m.name, writeData (withoutKeys (readData m.data).1 tokenKeys)⟩⟩ := by
  have hsorted := (membersFit_readData m.data).sorted
  have hnodup : ((tokenFields m uriHash).map Prod.fst).Nodup := by
    have hkeys : tokenKeys.Nodup := by decide
    exact hkeys
  have hname := mediaValue_insertAll hsorted hnodup (k := tokenKeyName) (v := .str m.name) (by simp [tokenFields])
  have hhash := mediaValue_insertAll hsorted hnodup (k := tokenKeyURIhash) (v := .str uriHash) (by simp [tokenFields])
  have hrest : withoutKeys (insertAll (readData m.data).1 (tokenFields m uriHash)) [tokenKeyURIhash, tokenKeyName] =
      withoutKeys (readData m.data).1 tokenKeys := by
    rw [withoutKeys_insertAll _ _ (by simp [tokenFields])]
    apply withoutKeys_congr
    simp [tokenKeys, or_comm]
  rw [buildFromMap, ← withoutKeys_nil (insertAll _ _), takeString_withoutKeys (by simp) hname]
  dsimp only
  rw [takeString_withoutKeys (by decide) hhash, hrest]
  rfl

lemma valid_of_build {uri data : GoString} {token : NFT} (h : build uri data = .ok token) :
    Utf8.Valid (shownMetadata token.data).name ∧ Utf8.Valid token.uriHash := by
  unfold build at h
  split at h
  · cases h
  · split at h
    · unfold buildRaw at h
      obtain ⟨-, -, h⟩ := bind_eq_ok.mp h
      cases h
      exact ⟨.nil, .nil⟩
    · rename_i bz _ _ dataMap hread
      have hfit : MembersFit (dataMap.getD []) := by
        have hmap := membersFit_unmarshalMap bz
        rwa [hread] at hmap
      unfold buildFromMap at h
      dsimp only at h
      obtain ⟨-, -, h⟩ := bind_eq_ok.mp h
      cases h
      have hfirst := hfit.takeString tokenKeyName .nil
      exact ⟨hfirst.1, (hfirst.2.takeString tokenKeyURIhash .nil).1⟩

end TokenBuilder

/-- The token comes back with the same name and URI hash, and with the same data. -/
def Restored (classID : GoString) (token : NFT) : Prop := ∃ tokenData token',
  TokenBuilder.buildMetadata classID token = .ok tokenData ∧ TokenBuilder.build token.uri tokenData = .ok token' ∧
    (shownMetadata token'.data).name = (shownMetadata token.data).name ∧ token'.uriHash = token.uriHash ∧
    SameData (shownMetadata token.data).data (shownMetadata token'.data).data

/-- The name and the URI hash are UTF-8, and the data survives. -/
structure Restorable (token : NFT) : Prop where
  name : Utf8.validString (shownMetadata token.data).name = true
  uriHash : Utf8.validString token.uriHash = true
  data : DataRestorable tokenKeys maxTokenDataLen (shownMetadata token.data).data

lemma restored_iff_restorable {classID : GoString} (hlocal : isIBCDenom classID = false) (uri uriHash : GoString)
    (m : NFTMetadata) : Restored classID ⟨uri, uriHash, .value m⟩ ↔ Restorable ⟨uri, uriHash, .value m⟩ := by
  have hmetadata := TokenBuilder.buildMetadata_local hlocal uri uriHash m
  have hbuild : Utf8.Valid m.name → Utf8.Valid uriHash → _ := fun hname hhash =>
    (TokenBuilder.build_marshal (TokenBuilder.membersFit_tokenFields hname hhash) uri).trans
      (TokenBuilder.buildFromMap_tokenFields uri uriHash m)
  constructor
  · rintro ⟨tokenData, token', hdata, htoken, hname, hhash, hsame⟩
    have hvalid := TokenBuilder.valid_of_build htoken
    rw [hname, hhash] at hvalid
    obtain rfl := Except.ok.inj (hmetadata.symm.trans hdata)
    rw [hbuild hvalid.1 hvalid.2] at htoken
    obtain ⟨u, hbound, htoken⟩ := bind_eq_ok.mp htoken
    cases htoken
    exact ⟨Utf8.validString_eq_true.mpr hvalid.1, Utf8.validString_eq_true.mpr hvalid.2,
      sameData_writeData_iff.mp ⟨hsame, require_eq_ok.mp hbound⟩⟩
  · intro h
    have hname := Utf8.validString_eq_true.mp h.name
    have hhash := Utf8.validString_eq_true.mp h.uriHash
    have hdata : SameData m.data (writeData (withoutKeys (readData m.data).1 tokenKeys)) ∧ _ :=
      sameData_writeData_iff.mpr h.data
    refine ⟨_, ⟨uri, uriHash, .value ⟨m.name, writeData (withoutKeys (readData m.data).1 tokenKeys)⟩⟩, hmetadata,
      (hbuild hname hhash).trans ?_, rfl, rfl, hdata.1⟩
    rw [validateTokenMetadataBounds, require_of hdata.2]
    rfl

/-- The ledgers that mints, edits and transfers lead to from any classes without tokens. -/
inductive Produced (X : Extern) (nk : NftKeeper) : NftLedger → Prop
  | classes {L : NftLedger} (h : ∀ c n, L.held c n = none) : Produced X nk L
  | mint {L L' : NftLedger} {msg : MsgMintNFT} (hL : Produced X nk L) (valid : msg.validateBasic X = .ok ())
      (h : mintNFT X nk L msg = .ok L') : Produced X nk L'
  | edit {L L' : NftLedger} {msg : MsgEditNFT} (hL : Produced X nk L) (valid : msg.validateBasic X = .ok ())
      (h : editNFT X nk L msg = .ok L') : Produced X nk L'
  | transfer {L L' : NftLedger} {msg : MsgTransferNFT} (hL : Produced X nk L) (valid : msg.validateBasic X = .ok ())
      (h : transferNFT X nk L msg = .ok L') : Produced X nk L'

/-- The metadata of a token that messages wrote can be read. -/
def Readable (L : NftLedger) : Prop := ∀ c n t, L.held c n = some t → ∃ m, t.nft.data = .value m

lemma Readable.put {L : NftLedger} (hL : Readable L) {c n : GoString} {t : Held} (ht : ∃ m, t.nft.data = .value m) :
    Readable (L.put c n (some t)) := by
  intro c' n' t' h
  by_cases he : (c', n') = (c, n)
  · cases he
    rw [NftLedger.held_put_self] at h
    exact Option.some.inj h ▸ ht
  · rw [NftLedger.held_put_of_ne _ _ he] at h
    exact hL c' n' t' h

lemma Edited.readable {f : TokenFields} {token token' : NFT} (h : Edited f token token')
    (htoken : ∃ m, token.data = .value m) : ∃ m, token'.data = .value m := by
  rcases h with rfl | ⟨changed, data, hdata, rfl⟩
  · exact htoken
  · cases changed with
    | false =>
      cases hdata
      exact htoken
    | true =>
      obtain ⟨m, -, hm⟩ := bind_eq_ok.mp hdata
      cases hm
      exact ⟨_, rfl⟩

lemma Produced.readable {X : Extern} {nk : NftKeeper} {L : NftLedger} (h : Produced X nk L) : Readable L := by
  induction h with
  | classes h =>
    intro c n t ht
    rw [h] at ht
    cases ht
  | mint _ _ h ih =>
    obtain ⟨_, _, _, -, -, -, -, -, -, -, -, rfl⟩ := mintNFT_eq_ok.mp h
    exact ih.put ⟨_, rfl⟩
  | edit _ _ h ih =>
    unfold editNFT at h
    obtain ⟨sender, -, h⟩ := bind_eq_ok.mp h
    obtain ⟨token, token', denom, hheld, -, -, hedit, rfl⟩ := updateNFT_spec h
    exact ih.put (hedit.readable (ih _ _ _ hheld))
  | transfer _ _ h ih =>
    obtain ⟨sender, recipient, -, -, h⟩ := transferNFT_eq_ok.mp h
    obtain ⟨token, denom, m, hheld, -, hm, -, rfl⟩ := transferOwnership_eq_ok.mp h
    exact ih.put ((edited_of_movedToken hm).readable (ih _ _ _ hheld))

/-- A token of a local class comes back as it went out exactly when its texts survive. -/
theorem restored_iff_restorable_of_produced (X : Extern) (nk : NftKeeper) (L : NftLedger) (hL : Produced X nk L)
    (classID tokenID : GoString) (hlocal : isIBCDenom classID = false) (t : Held)
    (ht : L.held classID tokenID = some t) : Restored classID t.nft ↔ Restorable t.nft := by
  obtain ⟨⟨uri, uriHash, data⟩, owner⟩ := t
  obtain ⟨m, hm⟩ := hL.readable _ _ _ ht
  dsimp only at hm
  subst hm
  exact restored_iff_restorable hlocal uri uriHash m

/-- The concrete functions, with `json.Valid` as it is. -/
def jsonX : Extern := { Sample.X with jsonValid := Json.valid }

def openClass : NftLedger :=
  NftLedger.empty.putClass (str "kitty") ⟨str "Cats", str "CAT", [], [], [], .value DenomMetadata.zero⟩

def mintWith (data : GoString) : MsgMintNFT :=
  ⟨str "cat1", str "kitty", ⟨str "Tom", [], [], data⟩, Sample.accString Sample.bob, Sample.accString Sample.bob⟩

lemma produced_mintWith {d : GoString} (hvalid : ((mintWith d).validateBasic jsonX).toBool = true)
    (hmint : (mintNFT jsonX Sample.nk openClass (mintWith d)).toBool = true) :
    ∃ L, Produced jsonX Sample.nk L ∧ L.held (str "kitty") (str "cat1") =
      some ⟨⟨[], [], .value ⟨str "Tom", d⟩⟩, Sample.bob⟩ := by
  obtain ⟨u, hok⟩ := exists_eq_ok hvalid
  obtain ⟨L, hL⟩ := exists_eq_ok hmint
  obtain ⟨recipient, sender, denom, hrecipient, -, -, -, -, -, -, -, hput⟩ := mintNFT_eq_ok.mp hL
  have hbob : jsonX.decodeAcc (Sample.accString Sample.bob) = .ok Sample.bob := by decide +kernel
  obtain rfl : Sample.bob = recipient := Except.ok.inj (hbob.symm.trans hrecipient)
  refine ⟨L, .mint (.classes fun c n => rfl) hok hL, ?_⟩
  rw [hput]
  exact NftLedger.held_put_self _ _ _ _

def rareData : GoString := str "\x7b\"level\":7,\"rare\":true\x7d"

def seven : Literal := ⟨false, [55], [], none, []⟩

lemma dataRestorable_rare {keys : List GoString} {maxLen : Nat}
    (hkeys : ∀ k ∈ keys, k ∉ [str "level", str "rare"]) (hlen : 64 ≤ maxLen) : DataRestorable keys maxLen rareData := by
  have hseven : seven.parseFloat.any (fun d => decide (d.literal.value = seven.value)) = true := by decide +kernel
  have hprinted : (Json.marshal (Json.decoded (.obj [(str "level", .num seven), (str "rare", .bool true)]))).length ≤
      64 := by decide +kernel
  refine .inr ⟨[(str "level", .num seven), (str "rare", .bool true)], rfl, by simp, hkeys, .obj fun m hm => ?_,
    hprinted.trans hlen⟩
  simp only [List.mem_cons, List.not_mem_nil, or_false] at hm
  rcases hm with rfl | rfl
  · obtain ⟨d, hd, hvalue⟩ := (Option.any_eq_true _ _).mp hseven
    exact .num ⟨d, hd, of_decide_eq_true hvalue⟩
  · exact .bool true

theorem restored_iff_restorable_rare : ∃ t, Restored (str "kitty") t ∧
    shownMetadata t.data = ⟨str "Tom", rareData⟩ := by
  obtain ⟨L, hL, hheld⟩ := produced_mintWith (d := rareData) (by decide +kernel) (by decide +kernel)
  refine ⟨_, (restored_iff_restorable_of_produced jsonX Sample.nk L hL _ _ (by decide) _ hheld).mpr ?_, rfl⟩
  exact ⟨by decide +kernel, by decide +kernel, dataRestorable_rare (by decide +kernel) (by decide)⟩

lemma not_dataRestorable_list (keys : List GoString) (maxLen : Nat) :
    ¬DataRestorable keys maxLen (str "[\"rare\"]") := by
  rintro (hnil | ⟨ms, hparse, -⟩)
  · exact absurd hnil (by decide)
  · have hlist : (Json.parse (str "[\"rare\"]")).any (fun v => v matches .arr _) = true := by decide +kernel
    rw [hparse] at hlist
    cases hlist

/-- A list is JSON, and a mint may carry it, but it does not come back. -/
theorem not_restored_list : ∃ L, Produced jsonX Sample.nk L ∧
    L.held (str "kitty") (str "cat1") = some ⟨⟨[], [], .value ⟨str "Tom", str "[\"rare\"]"⟩⟩, Sample.bob⟩ ∧
    ¬ Restored (str "kitty") ⟨[], [], .value ⟨str "Tom", str "[\"rare\"]"⟩⟩ := by
  obtain ⟨L, hL, hheld⟩ := produced_mintWith (d := str "[\"rare\"]") (by decide +kernel) (by decide +kernel)
  refine ⟨L, hL, hheld, fun hrestored => ?_⟩
  exact not_dataRestorable_list _ _ ((restored_iff_restorable (by decide) _ _ _).mp hrestored).data

end Uptick.Collection
