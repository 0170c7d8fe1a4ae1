import Uptick.Cw721.Pairs

/-!
# Concrete accounts and hashes

The outside functions on the inputs that the concrete runs of this development use: the module
accounts, three users and one contract, with their real spellings and digests.
-/

namespace Uptick.Sample

open Text Evm

def hexBytes (s : String) : GoString := Hex.decode (str s)

def alice : AccAddress := List.replicate 20 0x11

def bob : AccAddress := List.replicate 20 0x22

def carol : AccAddress := List.replicate 20 0x33

/-- A contract address without letters: its EIP-55 spelling is its lower-case one. -/
def contract : GoString := str "0x4444444444444444444444444444444444444444"

def cwContract : AccAddress := List.replicate 32 0x55

def accounts : List (AccAddress × GoString) :=
  [(Erc721.accModuleAddress, str "uptick14f06anu6ej0239vgdprl532cm3q4v2ahvz9w8h"),
    (Cw721.accModuleAddress, str "uptick1pxmn9zf784nn3jmnlt6alves867k8j9au357uu"),
    (alice, str "uptick1zyg3zyg3zyg3zyg3zyg3zyg3zyg3zyg3jmtet7"),
    (bob, str "uptick1yg3zyg3zyg3zyg3zyg3zyg3zyg3zyg3zaxwlrf"),
    (carol, str "uptick1xvenxvenxvenxvenxvenxvenxvenxven0cezkm"),
    (cwContract, str "uptick1242424242424242424242424242424242424242424242424242sn7mf5q")]

def keccakDigests : List (GoString × GoString) :=
  [(str "1111111111111111111111111111111111111111",
      hexBytes "2d6ca42d0b5f46b311277710cd2dcf95bd59948e0957e7e167ebbf11ac592fc3"),
    (str "2222222222222222222222222222222222222222",
      hexBytes "d9c3d07fe8d65e53430f885e4ba47ea1d6e587407f9cd6016c0d60fdc1441f8c"),
    (str "3333333333333333333333333333333333333333",
      hexBytes "676b1295d28a7a1cdd66d96cb26985bfb59c0ae7f09046518c51fae3c8f2b47e"),
    (str "4444444444444444444444444444444444444444",
      hexBytes "a0cc09aeafc9fce90ef5dfea819636eed62ae304bf28183ce388997f7f4b0e3f"),
    (str "a92ca1f63c993f2dd1ec18209579e3b263fdb09c",
      hexBytes "2eb36316ad14ae6afe94be78984b9d56e824a8359694ac8e1dedee5f779965bd")]

/-- An account outside the table is spelled by its bytes in hexadecimal behind a zero. -/
def accString (acc : AccAddress) : GoString := (accounts.lookup acc).getD (48 :: Hex.encode acc)

def accAddressFromBech32 (s : GoString) : Except GoString AccAddress :=
  match accounts.find? (fun e => e.2 == s), s with
  | some e, _ => .ok e.1
  | none, 48 :: digits =>
    let acc := Hex.decode digits
    if acc ≠ [] ∧ acc.length ≤ 255 ∧ Hex.encode acc = digits then .ok acc else .error (str "decoding bech32 failed")
  | none, _ => .error (str "decoding bech32 failed")

lemma accAddressFromBech32_ok {s : GoString} {acc : AccAddress} (h : accAddressFromBech32 s = .ok acc) :
    acc ≠ [] ∧ acc.length ≤ 255 := by
  unfold accAddressFromBech32 at h
  split at h
  · rename_i hfind
    have hall : ∀ e ∈ accounts, e.1 ≠ [] ∧ e.1.length ≤ 255 := by decide +kernel
    cases h
    exact hall _ (List.mem_of_find?_eq_some hfind)
  · dsimp only at h
    split at h
    · next hacc =>
      cases h
      exact ⟨hacc.1, hacc.2.1⟩
    · cases h
  · cases h

lemma accAddressFromBech32_accString (acc : AccAddress) (hne : acc ≠ []) (hlen : acc.length ≤ 255) :
    accAddressFromBech32 (accString acc) = .ok acc := by
  by_cases hmem : acc ∈ accounts.map Prod.fst
  · have hall : ∀ a ∈ accounts.map Prod.fst, (accAddressFromBech32 (accString a)).toOption = some a := by
      decide +kernel
    have hacc := hall acc hmem
    cases h : accAddressFromBech32 (accString acc) with
    | error e =>
      rw [h] at hacc
      cases hacc
    | ok a =>
      rw [h] at hacc
      obtain rfl := Option.some.inj hacc
      rfl
  · have hlookup : accounts.lookup acc = none := by
      rw [List.lookup_eq_none_iff]
      intro e he
      have hne : acc ≠ e.1 := fun h => hmem (h ▸ List.mem_map_of_mem he)
      simpa using hne
    have hfind : accounts.find? (fun e => e.2 == 48 :: Hex.encode acc) = none := by
      have hhead : ∀ e ∈ accounts, e.2.head? = some 117 := by decide +kernel
      rw [List.find?_eq_none]
      intro e he heq
      have hz := hhead e he
      rw [beq_iff_eq.mp heq] at hz
      cases hz
    simp [accString, hlookup, accAddressFromBech32, hfind, Hex.decode_encode, hne, hlen]

lemma mem_of_lookup {α : Type} [BEq α] [LawfulBEq α] {table : List (α × GoString)} {a : α} {d : GoString}
    (h : table.lookup a = some d) : (a, d) ∈ table := by
  obtain ⟨l₁, l₂, rfl, -⟩ := List.lookup_eq_some_iff.mp h
  simp

lemma notMem_accString {b : UInt8} (hdigit : Hex.isHexDigit b = false) (htable : ∀ e ∈ accounts, b ∉ e.2)
    (acc : AccAddress) : b ∉ accString acc := by
  unfold accString
  cases hlookup : accounts.lookup acc with
  | some text => exact htable _ (mem_of_lookup hlookup)
  | none =>
    intro hmem
    rcases List.mem_cons.mp hmem with rfl | h
    · cases hdigit
    · rw [Hex.isHexDigit_of_mem_encode h] at hdigit
      cases hdigit

lemma accString_plain (acc : AccAddress) : comma ∉ accString acc ∧ toLower (accString acc) = accString acc := by
  refine ⟨notMem_accString (by decide) (by decide +kernel) acc, ?_⟩
  unfold accString
  cases hlookup : accounts.lookup acc with
  | some text =>
    have hall : ∀ e ∈ accounts, toLower e.2 = e.2 := by decide +kernel
    exact hall _ (mem_of_lookup hlookup)
  | none =>
    show lowerByte 48 :: toLower (Hex.encode acc) = 48 :: Hex.encode acc
    rw [Hex.toLower_encode]
    rfl

lemma comma_notMem_of_read {s : GoString} {acc : AccAddress} (h : accAddressFromBech32 s = .ok acc) : comma ∉ s := by
  unfold accAddressFromBech32 at h
  split at h
  · rename_i text _ _ e hfind
    have hall : ∀ e ∈ accounts, comma ∉ e.2 := by decide +kernel
    have htext : e.2 = text := by simpa using List.find?_some hfind
    rw [← htext]
    exact hall e (List.mem_of_find?_eq_some hfind)
  · dsimp only at h
    split at h
    · next digits _ hacc =>
      rw [← hacc.2.2]
      intro hmem
      rcases List.mem_cons.mp hmem with hzero | hdigit
      · cases hzero
      · cases Hex.isHexDigit_of_mem_encode hdigit
    · cases h
  · cases h

/-- A hash that has the listed digests and is injective elsewhere. -/
def tabled (digests : List (GoString × GoString)) (s : GoString) : GoString :=
  (digests.lookup s).getD (0 :: s)

/-- The table hash has no collisions when its digests are distinct and none starts with zero. -/
lemma tabled_injective {digests : List (GoString × GoString)}
    (hdistinct : ∀ e ∈ digests, ∀ e' ∈ digests, e.2 = e'.2 → e.1 = e'.1)
    (hhead : ∀ e ∈ digests, e.2.head? ≠ some 0) : Function.Injective (tabled digests) := by
  intro s s' h
  unfold tabled at h
  cases hs : digests.lookup s with
  | none =>
    cases hs' : digests.lookup s' with
    | none => simpa [hs, hs'] using h
    | some d' =>
      rw [hs, hs', Option.getD_none, Option.getD_some] at h
      exact absurd (by simp [← h]) (hhead _ (mem_of_lookup hs'))
  | some d =>
    cases hs' : digests.lookup s' with
    | none =>
      rw [hs, hs', Option.getD_none, Option.getD_some] at h
      exact absurd (by simp [h]) (hhead _ (mem_of_lookup hs))
    | some d' =>
      rw [hs, hs', Option.getD_some, Option.getD_some] at h
      exact hdistinct _ (mem_of_lookup hs) _ (mem_of_lookup hs') h

/-- The address of the first contract that the module account deploys. -/
def deployed : Address := hexToAddress (str "0xa92ca1f63c993f2dd1ec18209579e3b263fdb09c")

def createAddress (creator : Address) (nonce : Nat) : Address :=
  if creator = Erc721.moduleAddress ∧ nonce = 0 then deployed else zeroAddress

def idDigests : List (GoString × GoString) :=
  [(str "cat1", hexBytes "081706ccee3f19f01752ba7b60dec0f901a746fe4e3f8c00b70ee6671669c802")]

def pairDigests : List (GoString × GoString) :=
  [(str "uptick1242424242424242424242424242424242424242424242424242sn7mf5q|kitty",
      hexBytes "28adc2bcee05e1fb9bcc53b13ff130763a331652880e42d7c40c573fbe98a8eb"),
    (str "0xa92ca1f63c993f2dd1ec18209579e3b263fdb09c|kitty",
      hexBytes "feccbaee7c459048c0d63f40d7e50e1d9895b05aa596ff1ad91017b8f17e53be"),
    (str "0x4444444444444444444444444444444444444444|uptick-4444444444444444444444444444444444444444",
      hexBytes "4ab727ec7f22ab2e9e3d9a50461eec323b7dfdb60fa544f5d8ae650144eb9eb7")]

def X : Extern where
  keccak256 := fun s => (keccakDigests.lookup s).getD []
  sha256 := tabled idDigests
  tmhash := tabled pairDigests
  accAddressFromBech32 := accAddressFromBech32
  accString := accString
  createAddress := createAddress
  urlScheme := fun s => if s = [] then some [] else none
  jsonValid := fun s => s = []
  accAddressFromBech32_ok := accAddressFromBech32_ok
  accAddressFromBech32_accString := accAddressFromBech32_accString

lemma tmhash_injective : Function.Injective X.tmhash :=
  tabled_injective (by decide +kernel) (by decide +kernel)

lemma bar_notMem_accString (acc : AccAddress) : 124 ∉ X.accString acc :=
  notMem_accString (by decide) (by decide +kernel) acc

lemma decodeAcc_nil (acc : AccAddress) : X.decodeAcc [] ≠ .ok acc := by
  intro h
  cases h

lemma tmhash_ne_nil (s : GoString) : X.tmhash s ≠ [] := by
  have hdigests : ∀ e ∈ pairDigests, e.2 ≠ [] := by decide +kernel
  have htabled : X.tmhash s = (pairDigests.lookup s).getD (0 :: s) := rfl
  rw [htabled]
  cases hs : pairDigests.lookup s with
  | none => simp
  | some d => exact hdigests _ (mem_of_lookup hs)

end Uptick.Sample
