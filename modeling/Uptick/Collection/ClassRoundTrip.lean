import Uptick.Collection.TokenRoundTrip

/-!
# A class that comes back

A class goes out with the metadata `ClassBuilder.BuildMetadata` writes and comes back through `ClassBuilder.Build`.
Eight fields of the module share one JSON object with the data of the class. Only the data of a voucher class may be
another text: there it travels alone.
-/

namespace Uptick.Collection

open Text Outcome Decimal

def classKeys : List GoString :=
  [classKeyName, classKeySymbol, classKeyDescription, classKeyURIhash, classKeyMintRestricted,
    classKeyUpdateRestricted, classKeyCreator, classKeySchema]

def classMetadata (cl : Class) : DenomMetadata :=
  match cl.data with
  | .value m => m
  | _ => .zero

def classFields (cl : Class) (m : DenomMetadata) (creator : AccAddress) : Members :=
  [(classKeyName, mediaField (.str cl.name)), (classKeySymbol, mediaField (.str cl.symbol)),
    (classKeyDescription, mediaField (.str cl.description)), (classKeyURIhash, mediaField (.str cl.uriHash)),
    (classKeyMintRestricted, mediaField (.bool m.mintRestricted)),
    (classKeyUpdateRestricted, mediaField (.bool m.updateRestricted)),
    (classKeyCreator, mediaField (.str (Hex.encode creator))), (classKeySchema, mediaField (.str m.schema))]

/-- The data is sent as it is. -/
def SentRaw (classID : GoString) (m : DenomMetadata) : Prop :=
  (readData m.data).2 = false ∧ isIBCDenom classID = true

namespace ClassBuilder

variable (X : Extern)

def creatorText (m : DenomMetadata) : GoString := if m.creator = [] then X.accString accModuleAddress else m.creator

lemma buildMetadata_fields {classID : GoString} {cl : Class} {m : DenomMetadata} (hdata : cl.data = .value m)
    (hfields : ¬SentRaw classID m) : buildMetadata X classID cl =
      (X.decodeAcc (creatorText X m)).bind fun creator => .ok (Base64.encodeToString (Json.marshal
        (.obj (insertAll (readData m.data).1 (classFields cl m creator))))) := by
  rw [buildMetadata, hdata]
  dsimp only [unmarshal]
  rw [ok_bind, if_neg (show ¬((readData m.data).2 = false ∧ isIBCDenom classID = true) from hfields)]
  rfl

lemma build_marshal {ms : Members} (h : MembersFit ms) (uri : GoString) :
    build X uri (Base64.encodeToString (Json.marshal (.obj ms))) = buildFromMap X uri ms := by
  rw [build, Base64.decodeString_encodeToString]
  dsimp only
  rw [Json.unmarshalMap_marshal h.fits]
  rfl

lemma accAddressFromHexUnsafe_encode {acc : AccAddress} (hne : acc ≠ []) :
    accAddressFromHexUnsafe (Hex.encode acc) = .ok acc := by
  have hpos : 0 < acc.length := List.length_pos_of_ne_nil hne
  have hdigits : (Hex.encode acc).all Hex.isHexDigit = true :=
    List.all_eq_true.mpr fun _ hc => Hex.isHexDigit_of_mem_encode hc
  rw [accAddressFromHexUnsafe, require_of, ok_bind, require_of, ok_bind, Hex.decode_encode]
  · rw [Hex.length_encode]
    exact ⟨by omega, hdigits⟩
  · rw [Hex.length_encode]
    omega

/-- The texts of a class that travel in the object. -/
structure TextsValid (cl : Class) (m : DenomMetadata) : Prop where
  name : Utf8.Valid cl.name
  symbol : Utf8.Valid cl.symbol
  description : Utf8.Valid cl.description
  uriHash : Utf8.Valid cl.uriHash
  schema : Utf8.Valid m.schema

lemma valid_of_hexDigits {s : GoString} (h : ∀ c ∈ s, Hex.isHexDigit c = true) : Utf8.Valid s := by
  have hascii : ∀ c : UInt8, Hex.isHexDigit c = true → c < 0x80 := by
    apply forall_byte
    decide +kernel
  induction s with
  | nil => exact .nil
  | cons c s ih =>
    have hc := Json.valid_of_ascii (hascii c (h c List.mem_cons_self))
    exact hc.append (ih fun b hb => h b (List.mem_cons_of_mem c hb))

lemma membersFit_classFields {cl : Class} {m : DenomMetadata} (h : TextsValid cl m) (creator : AccAddress) :
    MembersFit (insertAll (readData m.data).1 (classFields cl m creator)) := by
  have hkeys : ∀ k ∈ classKeys, Utf8.Valid k := by
    intro k hk
    have hall : ∀ k ∈ classKeys, Utf8.validString k = true := by decide +kernel
    exact Utf8.validString_eq_true.mp (hall k hk)
  apply (membersFit_readData m.data).insertAll
  intro f hf
  refine ⟨hkeys f.1 (List.mem_map_of_mem hf), ?_⟩
  simp only [classFields, List.mem_cons, List.not_mem_nil, or_false] at hf
  rcases hf with rfl | rfl | rfl | rfl | rfl | rfl | rfl | rfl
  · exact fits_mediaField (.str _ h.name)
  · exact fits_mediaField (.str _ h.symbol)
  · exact fits_mediaField (.str _ h.description)
  · exact fits_mediaField (.str _ h.uriHash)
  · exact fits_mediaField (.bool _ _)
  · exact fits_mediaField (.bool _ _)
  · exact fits_mediaField (.str _ (valid_of_hexDigits fun _ => Hex.isHexDigit_of_mem_encode))
  · exact fits_mediaField (.str _ h.schema)

/-- What is built from the fields of a class: the fields, and what is left of its data. -/
lemma buildFromMap_classFields {cl : Class} {m : DenomMetadata} {creator : AccAddress} (hne : creator ≠ [])
    (uri : GoString) : buildFromMap X uri (insertAll (readData m.data).1 (classFields cl m creator)) =
      (validateDenomMetadataBounds m.schema (writeData (withoutKeys (readData m.data).1 classKeys))).bind fun _ =>
        .ok ⟨cl.name, cl.symbol, cl.description, uri, cl.uriHash, .value ⟨X.accString creator, m.schema,
          m.mintRestricted, m.updateRestricted, writeData (withoutKeys (readData m.data).1 classKeys)⟩⟩ := by
  have hsorted := (membersFit_readData m.data).sorted
  have hnodup : ((classFields cl m creator).map Prod.fst).Nodup := by
    have hkeys : classKeys.Nodup := by decide
    exact hkeys
  have hvalue : ∀ k v, (k, mediaField v) ∈ classFields cl m creator →
      mediaValue (insertAll (readData m.data).1 (classFields cl m creator)) k = some v :=
    fun k v => mediaValue_insertAll hsorted hnodup
  have hrest : withoutKeys (insertAll (readData m.data).1 (classFields cl m creator))
      [classKeySchema, classKeyCreator, classKeyUpdateRestricted, classKeyMintRestricted, classKeyURIhash,
        classKeyDescription, classKeySymbol, classKeyName] = withoutKeys (readData m.data).1 classKeys := by
    rw [withoutKeys_insertAll _ _ (by simp [classFields])]
    apply withoutKeys_congr
    intro k
    show k ∈ classKeys.reverse ↔ k ∈ classKeys
    exact List.mem_reverse
  rw [buildFromMap, ← withoutKeys_nil (insertAll _ _),
    takeString_withoutKeys (by simp) (hvalue classKeyName (.str cl.name) (by simp [classFields]))]
  dsimp only
  rw [takeString_withoutKeys (by decide) (hvalue classKeySymbol (.str cl.symbol) (by simp [classFields]))]
  dsimp only
  rw [takeString_withoutKeys (by decide) (hvalue classKeyDescription (.str cl.description) (by simp [classFields]))]
  dsimp only
  rw [takeString_withoutKeys (by decide) (hvalue classKeyURIhash (.str cl.uriHash) (by simp [classFields]))]
  dsimp only
  rw [takeBool_withoutKeys (by decide) (hvalue classKeyMintRestricted (.bool m.mintRestricted) (by simp [classFields]))]
  dsimp only
  rw [takeBool_withoutKeys (by decide)
    (hvalue classKeyUpdateRestricted (.bool m.updateRestricted) (by simp [classFields]))]
  dsimp only
  rw [takeCreator, mediaValue_withoutKeys _ (by decide),
    hvalue classKeyCreator (.str (Hex.encode creator)) (by simp [classFields])]
  dsimp only
  rw [accAddressFromHexUnsafe_encode hne, ok_bind, ok_bind, erase_withoutKeys]
  dsimp only
  rw [takeString_withoutKeys (by decide) (hvalue classKeySchema (.str m.schema) (by simp [classFields])), hrest]
  rfl

lemma takeCreator_fit {ms rest : Members} {creator : GoString} (h : MembersFit ms)
    (htake : takeCreator X ms = .ok (creator, rest)) : MembersFit rest := by
  unfold takeCreator at htake
  split at htake
  · obtain ⟨_, -, htake⟩ := bind_eq_ok.mp htake
    cases htake
    exact h.erase _
  · cases htake
    exact h

/-- What a class is built from, and the class: a text that is no object, or the fields of a decoded map. -/
inductive Built (uri : GoString) : Class → Prop
  | raw {rawData : GoString} (hread : (Json.unmarshalMap rawData).2 = false)
      (hbound : validateDenomMetadataBounds [] rawData = .ok ()) :
      Built uri ⟨[], [], [], uri, [], .value ⟨X.accString accModuleAddress, [], true, true, rawData⟩⟩
  | fields {cl : Class} {m : DenomMetadata} {rest : Members} (hdata : cl.data = .value m) (huri : cl.uri = uri)
      (htexts : TextsValid cl m) (hrest : MembersFit rest) (hleft : m.data = writeData rest)
      (hbound : validateDenomMetadataBounds m.schema m.data = .ok ()) : Built uri cl

theorem built_of_build {uri data : GoString} {cl : Class} (h : build X uri data = .ok cl) : Built X uri cl := by
  unfold build at h
  split at h
  · cases h
  · split at h
    · rename_i hread
      obtain ⟨hbound, h⟩ := check_bind_eq_ok.mp h
      cases h
      exact .raw (by rw [hread]) hbound
    · rename_i bz _ _ dataMap hread
      have hfit : MembersFit (dataMap.getD []) := by
        have hmap := membersFit_unmarshalMap bz
        rwa [hread] at hmap
      unfold buildFromMap at h
      dsimp only at h
      obtain ⟨⟨creator, rest⟩, hcreator, h⟩ := bind_eq_ok.mp h
      dsimp only at h
      obtain ⟨hbound, h⟩ := check_bind_eq_ok.mp h
      cases h
      obtain ⟨hname, h₁⟩ := hfit.takeString classKeyName .nil
      obtain ⟨hsymbol, h₂⟩ := h₁.takeString classKeySymbol .nil
      obtain ⟨hdescription, h₃⟩ := h₂.takeString classKeyDescription .nil
      obtain ⟨huriHash, h₄⟩ := h₃.takeString classKeyURIhash .nil
      have h₅ := takeCreator_fit X ((h₄.takeBool classKeyMintRestricted true).takeBool classKeyUpdateRestricted true)
        hcreator
      obtain ⟨hschema, h₆⟩ := h₅.takeString classKeySchema .nil
      exact .fields rfl rfl ⟨hname, hsymbol, hdescription, huriHash, hschema⟩ h₆ rfl hbound

lemma Built.texts {uri : GoString} {cl : Class} (h : Built X uri cl) : TextsValid cl (classMetadata cl) := by
  cases h with
  | raw => exact ⟨.nil, .nil, .nil, .nil, .nil⟩
  | fields hdata _ htexts =>
    rw [classMetadata, hdata]
    exact htexts

lemma readData_writeData {rest : Members} (h : MembersFit rest) : (readData (writeData rest)).2 = true := by
  unfold writeData
  split
  · rfl
  · unfold readData
    split
    · rfl
    · rw [Json.unmarshalMap_marshal h.fits]

end ClassBuilder

/-- The class comes back with the same fields, and with the same data. -/
def ClassRestored (X : Extern) (classID : GoString) (cl : Class) : Prop := ∃ classData cl',
  ClassBuilder.buildMetadata X classID cl = .ok classData ∧ ClassBuilder.build X cl.uri classData = .ok cl' ∧
    cl'.name = cl.name ∧ cl'.symbol = cl.symbol ∧ cl'.description = cl.description ∧ cl'.uriHash = cl.uriHash ∧
    (classMetadata cl').mintRestricted = (classMetadata cl).mintRestricted ∧
    (classMetadata cl').updateRestricted = (classMetadata cl).updateRestricted ∧
    (classMetadata cl').creator = (classMetadata cl).creator ∧ (classMetadata cl').schema = (classMetadata cl).schema ∧
    SameData (classMetadata cl).data (classMetadata cl').data

/-- The texts are UTF-8, the creator is an account in its own spelling, and the data survives. -/
structure FieldsRestorable (X : Extern) (cl : Class) : Prop where
  name : Utf8.validString cl.name = true
  symbol : Utf8.validString cl.symbol = true
  description : Utf8.validString cl.description = true
  uriHash : Utf8.validString cl.uriHash = true
  schema : Utf8.validString (classMetadata cl).schema = true
  creator : ∃ acc, X.decodeAcc (ClassBuilder.creatorText X (classMetadata cl)) = .ok acc ∧
    X.accString acc = (classMetadata cl).creator
  data : DataRestorable classKeys maxDenomDataLen (classMetadata cl).data

def ClassRestorable (X : Extern) (classID : GoString) (cl : Class) : Prop :=
  SentRaw classID (classMetadata cl) ∨ FieldsRestorable X cl

section Restored

variable {X : Extern} {classID : GoString} {cl : Class}

open ClassBuilder

lemma FieldsRestorable.texts (h : FieldsRestorable X cl) : TextsValid cl (classMetadata cl) where
  name := Utf8.validString_eq_true.mp h.name
  symbol := Utf8.validString_eq_true.mp h.symbol
  description := Utf8.validString_eq_true.mp h.description
  uriHash := Utf8.validString_eq_true.mp h.uriHash
  schema := Utf8.validString_eq_true.mp h.schema

lemma build_classFields {m : DenomMetadata} (htexts : TextsValid cl m) {creator : AccAddress} (hne : creator ≠ []) :
    build X cl.uri (Base64.encodeToString (Json.marshal
      (.obj (insertAll (readData m.data).1 (classFields cl m creator))))) =
      (validateDenomMetadataBounds m.schema (writeData (withoutKeys (readData m.data).1 classKeys))).bind fun _ =>
        .ok ⟨cl.name, cl.symbol, cl.description, cl.uri, cl.uriHash, .value ⟨X.accString creator, m.schema,
          m.mintRestricted, m.updateRestricted, writeData (withoutKeys (readData m.data).1 classKeys)⟩⟩ :=
  (build_marshal X (membersFit_classFields htexts creator) cl.uri).trans (buildFromMap_classFields X hne cl.uri)

theorem restored_iff_fieldsRestorable {m : DenomMetadata} (hdata : cl.data = .value m) (hfields : ¬SentRaw classID m)
    (hschema : m.schema.length ≤ maxDenomSchemaLen) : ClassRestored X classID cl ↔ FieldsRestorable X cl := by
  have hm : classMetadata cl = m := by rw [classMetadata, hdata]
  have hmetadata := buildMetadata_fields X hdata hfields
  constructor
  · rintro ⟨classData, cl', hwritten, hbuilt, hname, hsymbol, hdescription, huriHash, -, -, hcreator, hsame, hdata'⟩
    rw [hmetadata] at hwritten
    obtain ⟨creator, hdecode, hwritten⟩ := bind_eq_ok.mp hwritten
    obtain rfl := Except.ok.inj hwritten
    have htexts : TextsValid cl m := by
      obtain ⟨h₁, h₂, h₃, h₄, h₅⟩ := (built_of_build X hbuilt).texts
      rw [hname] at h₁
      rw [hsymbol] at h₂
      rw [hdescription] at h₃
      rw [huriHash] at h₄
      rw [hsame, hm] at h₅
      exact ⟨h₁, h₂, h₃, h₄, h₅⟩
    rw [build_classFields htexts (X.decodeAcc_ok hdecode).1] at hbuilt
    obtain ⟨_, hbound, hbuilt⟩ := bind_eq_ok.mp hbuilt
    cases hbuilt
    have hdataBound := (validateDenomMetadataBounds_eq_ok.mp hbound).2
    refine ⟨Utf8.validString_eq_true.mpr htexts.name, Utf8.validString_eq_true.mpr htexts.symbol,
      Utf8.validString_eq_true.mpr htexts.description, Utf8.validString_eq_true.mpr htexts.uriHash, ?_,
      ⟨creator, hm ▸ hdecode, hcreator⟩, ?_⟩
    · rw [hm]
      exact Utf8.validString_eq_true.mpr htexts.schema
    · rw [hm] at hdata' ⊢
      exact sameData_writeData_iff.mp ⟨hdata', hdataBound⟩
  · intro h
    obtain ⟨creator, hdecode, hspelled⟩ := h.creator
    have htexts := h.texts
    have hdata' := sameData_writeData_iff.mpr h.data
    rw [hm] at hdecode htexts hdata'
    have hbound : validateDenomMetadataBounds m.schema (writeData (withoutKeys (readData m.data).1 classKeys)) =
        .ok () := validateDenomMetadataBounds_eq_ok.mpr ⟨hschema, hdata'.2⟩
    have hbuilt := @build_classFields X cl m htexts creator (X.decodeAcc_ok hdecode).1
    rw [hbound] at hbuilt
    rw [hdecode] at hmetadata
    refine ⟨_, _, hmetadata, hbuilt, rfl, rfl, rfl, rfl, ?_, ?_, hspelled, ?_, ?_⟩
    all_goals rw [hm]
    · rfl
    · rfl
    · rfl
    · exact hdata'.1

/-- A class that a message creates, or a voucher class that is built from the metadata of a packet. -/
inductive ClassOrigin (X : Extern) (classID : GoString) (cl : Class) : Prop
  | issued {nk : NftKeeper} {L L' : NftLedger} {msg : MsgIssueDenom} (hid : msg.id = classID)
      (valid : msg.validateBasic X = .ok ()) (h : issueDenom X nk L msg = .ok L') (hcl : L'.getClass classID = some cl)
  | built {uri classData : GoString} (hibc : isIBCDenom classID = true)
      (h : ClassBuilder.build X uri classData = .ok cl)

lemma sameData_refl (data : GoString) : SameData data data := by
  unfold SameData
  cases Json.value data <;> rfl

lemma restored_of_sentRaw {uri rawData : GoString} (hread : (Json.unmarshalMap rawData).2 = false)
    (hbound : validateDenomMetadataBounds [] rawData = .ok ())
    (hraw : SentRaw classID ⟨X.accString accModuleAddress, [], true, true, rawData⟩) :
    ClassRestored X classID ⟨[], [], [], uri, [], .value ⟨X.accString accModuleAddress, [], true, true, rawData⟩⟩ := by
  have hwritten : buildMetadata X classID
      ⟨[], [], [], uri, [], .value ⟨X.accString accModuleAddress, [], true, true, rawData⟩⟩ =
        .ok (Base64.encodeToString rawData) := by
    rw [buildMetadata]
    dsimp only [unmarshal]
    rw [ok_bind, if_pos (show (readData rawData).2 = false ∧ isIBCDenom classID = true from hraw)]
  refine ⟨_, _, hwritten, ?_, rfl, rfl, rfl, rfl, rfl, rfl, rfl, rfl, sameData_refl rawData⟩
  rw [build, Base64.decodeString_encodeToString]
  dsimp only
  rw [show Json.unmarshalMap rawData = ((Json.unmarshalMap rawData).1, false) by rw [← hread]]
  dsimp only
  rw [buildRaw, hbound]
  rfl

lemma issueDenom_eq_ok {nk : NftKeeper} {L L' : NftLedger} {msg : MsgIssueDenom} (h : issueDenom X nk L msg = .ok L') :
    ∃ sender, X.decodeAcc msg.sender = .ok sender ∧ isIBCDenom msg.id = false ∧
      msg.fields.schema.length ≤ maxDenomSchemaLen ∧
      L'.getClass msg.id = some ⟨msg.fields.name, msg.fields.symbol, msg.fields.description, msg.fields.uri,
        msg.fields.uriHash, .value ⟨X.accString sender, msg.fields.schema, msg.fields.mintRestricted,
          msg.fields.updateRestricted, msg.fields.data⟩⟩ := by
  obtain ⟨sender, hsender, h⟩ := bind_eq_ok.mp h
  obtain ⟨hissue, h⟩ := check_bind_eq_ok.mp h
  unfold validateIssueDenomID at hissue
  obtain ⟨-, hissue⟩ := require_bind_eq_ok.mp hissue
  unfold saveDenom at h
  obtain ⟨-, h⟩ := check_bind_eq_ok.mp h
  obtain ⟨hbound, h⟩ := check_bind_eq_ok.mp h
  obtain ⟨-, rfl⟩ := nk.saveClass_eq_ok.mp h
  exact ⟨sender, hsender, (require_bind_eq_ok.mp hissue).1, (validateDenomMetadataBounds_eq_ok.mp hbound).1, if_pos rfl⟩

lemma ClassOrigin.spec (h : ClassOrigin X classID cl) : ∃ m, cl.data = .value m ∧
    m.schema.length ≤ maxDenomSchemaLen ∧ (SentRaw classID m → ClassRestored X classID cl) := by
  cases h with
  | issued hid valid h hcl =>
    subst hid
    obtain ⟨sender, -, hlocal, hschema, hclass⟩ := issueDenom_eq_ok h
    obtain rfl := Option.some.inj (hclass.symm.trans hcl)
    refine ⟨_, rfl, hschema, fun hraw => ?_⟩
    rw [SentRaw, hlocal] at hraw
    exact absurd hraw.2 Bool.false_ne_true
  | built hibc h =>
    cases built_of_build X h with
    | raw hread hbound => exact ⟨_, rfl, Nat.zero_le _, restored_of_sentRaw hread hbound⟩
    | fields hdata _ _ hrest hleft hbound =>
      refine ⟨_, hdata, (validateDenomMetadataBounds_eq_ok.mp hbound).1, fun hraw => ?_⟩
      rw [SentRaw, hleft, readData_writeData hrest] at hraw
      exact absurd hraw.1.symm Bool.false_ne_true

/-- A class comes back as it went out exactly when its texts survive, or when it is a voucher class whose data is no
object. -/
theorem class_restored_iff (X : Extern) (classID : GoString) (cl : Class) (h : ClassOrigin X classID cl) :
    ClassRestored X classID cl ↔ ClassRestorable X classID cl := by
  obtain ⟨m, hdata, hschema, hraw⟩ := h.spec
  have hm : classMetadata cl = m := by rw [classMetadata, hdata]
  rw [ClassRestorable, hm]
  by_cases hsent : SentRaw classID m
  · exact ⟨fun _ => .inl hsent, fun _ => hraw hsent⟩
  · rw [restored_iff_fieldsRestorable hdata hsent hschema]
    exact ⟨.inr, fun hrest => hrest.resolve_left hsent⟩

end Restored

def issueWith (data : GoString) : MsgIssueDenom :=
  ⟨str "kitty", Sample.accString Sample.bob, ⟨str "Cats", [], str "CAT", false, true, [], [], [], data⟩⟩

def issuedClass (data : GoString) : Class :=
  ⟨str "Cats", str "CAT", [], [], [], .value ⟨Sample.accString Sample.bob, [], false, true, data⟩⟩

lemma origin_issuedClass {data : GoString} (hvalid : ((issueWith data).validateBasic jsonX).toBool = true)
    (hissue : (issueDenom jsonX Sample.nk .empty (issueWith data)).toBool = true) :
    ClassOrigin jsonX (str "kitty") (issuedClass data) := by
  obtain ⟨u, hok⟩ := exists_eq_ok hvalid
  obtain ⟨L, hL⟩ := exists_eq_ok hissue
  obtain ⟨sender, hsender, -, -, hclass⟩ := issueDenom_eq_ok hL
  have hbob : jsonX.decodeAcc (Sample.accString Sample.bob) = .ok Sample.bob := by decide +kernel
  obtain rfl : Sample.bob = sender := Except.ok.inj (hbob.symm.trans hsender)
  exact .issued rfl hok hL hclass

theorem class_restored_rare : ClassRestored jsonX (str "kitty") (issuedClass rareData) := by
  have horigin := @origin_issuedClass rareData (by decide +kernel) (by decide +kernel)
  refine (class_restored_iff jsonX (str "kitty") _ horigin).mpr (.inr ?_)
  exact ⟨by decide +kernel, by decide +kernel, by decide +kernel, by decide +kernel, by decide +kernel,
    ⟨Sample.bob, by decide +kernel, rfl⟩, dataRestorable_rare (by decide +kernel) (by decide)⟩

/-- A list is JSON, and a message may carry it, but it does not come back. -/
theorem class_not_restored_list : ClassOrigin jsonX (str "kitty") (issuedClass (str "[\"rare\"]")) ∧
    ¬ClassRestored jsonX (str "kitty") (issuedClass (str "[\"rare\"]")) := by
  refine ⟨origin_issuedClass (by decide +kernel) (by decide +kernel), fun hrestored => ?_⟩
  have hlocal : isIBCDenom (str "kitty") = false := by decide
  have hfields : ¬SentRaw (str "kitty") ⟨Sample.accString Sample.bob, [], false, true, str "[\"rare\"]"⟩ := by
    rintro ⟨-, hibc⟩
    rw [hlocal] at hibc
    cases hibc
  have hrestorable := (restored_iff_fieldsRestorable rfl hfields (Nat.zero_le _)).mp hrestored
  exact not_dataRestorable_list _ _ hrestorable.data

end Uptick.Collection
