import Uptick.Erc721.Spelling

/-!
# The NFT ids of a batch

Both conversion modules name the NFTs of a batch of contract tokens by one rule: the NFT that the index
has for the token, which an id in the message must not contradict, or else the id in the message, or else
one derived from the token.
-/

namespace Uptick.Erc721

open Text

/-- The caller's value, the saved one, or a derived one. -/
def Picks (org saved derived r : GoString) : Prop :=
  (org = [] ∧ saved = [] ∧ r = derived) ∨ (org = [] ∧ saved ≠ [] ∧ r = saved) ∨
    (org ≠ [] ∧ (saved = [] ∨ saved = org) ∧ r = org)

lemma picks_nil {org derived r : GoString} : Picks org [] derived r ↔
    (org ≠ [] → r = org) ∧ (org = [] → r = derived) := by
  unfold Picks
  by_cases ho : org = [] <;> simp [ho]

lemma picks_of_saved {org saved derived r : GoString} (hs : saved ≠ []) : Picks org saved derived r ↔
    r = saved ∧ (org ≠ [] → r = org) := by
  unfold Picks
  by_cases ho : org = []
  · simp [ho, hs]
  · simp only [ho, false_and, false_or, ne_eq, not_false_eq_true, hs, true_and, true_imp_iff]
    constructor
    · rintro ⟨rfl, rfl⟩
      exact ⟨rfl, rfl⟩
    · rintro ⟨rfl, rfl⟩
      exact ⟨rfl, rfl⟩

/-- The NFT `n` of class `K` that a token is converted to, where `bound` is what the index has for the
token and `org` what the message has. -/
structure Names (bound K t org n : GoString) : Prop where
  bound_eq : bound = [] ∨ bound = createNFTUID K n ∧ comma ∉ K ∧ n ≠ []
  given : org ≠ [] → n = org
  derived : org = [] → bound = [] → n = createNFTIDFromTokenID t

/-- What the resolvers compute from the two halves of the bound key, for a message with a class id. -/
lemma picks_iff_names {bound n₀ K₀ K K' t org n derivedClass : GoString} (hcut : getNFTFromUID bound = (n₀, K₀))
    (hK : K ≠ []) :
    ((bound = [] ∨ n₀ ≠ [] ∧ K₀ ≠ []) ∧ Picks org n₀ (createNFTIDFromTokenID t) n ∧ Picks K K₀ derivedClass K') ↔
      K' = K ∧ Names bound K t org n := by
  by_cases hb : bound = []
  · have hnil : n₀ = [] ∧ K₀ = [] := by
      rw [hb, show getNFTFromUID ([] : GoString) = ([], []) by decide] at hcut
      exact ⟨(Prod.mk.inj hcut).1.symm, (Prod.mk.inj hcut).2.symm⟩
    obtain ⟨rfl, rfl⟩ := hnil
    rw [picks_nil, picks_nil]
    constructor
    · rintro ⟨-, ⟨hgiven, hderived⟩, hclass, -⟩
      exact ⟨hclass hK, .inl hb, hgiven, fun ho _ => hderived ho⟩
    · rintro ⟨rfl, h⟩
      exact ⟨.inl hb, ⟨h.given, fun ho => h.derived ho hb⟩, fun _ => rfl, fun h0 => absurd h0 hK⟩
  · constructor
    · rintro ⟨hne, hn, hclass⟩
      obtain ⟨hn₀, hK₀⟩ := hne.resolve_left hb
      obtain ⟨rfl, hgiven⟩ := (picks_of_saved hn₀).mp hn
      obtain ⟨hsaved, horg⟩ := (picks_of_saved hK₀).mp hclass
      obtain rfl : K = K₀ := (horg hK).symm.trans hsaved
      obtain rfl := hsaved
      obtain ⟨heq, hcomma, -⟩ := eq_of_getNFTFromUID hcut hK₀
      exact ⟨rfl, .inr ⟨heq, hcomma, hn₀⟩, hgiven, fun _ h0 => absurd h0 hb⟩
    · rintro ⟨rfl, h⟩
      obtain ⟨heq, hcomma, hn⟩ := h.bound_eq.resolve_left hb
      rw [heq, getNFTFromUID_createNFTUID hn hK hcomma] at hcut
      obtain ⟨rfl, rfl⟩ := Prod.mk.inj hcut
      exact ⟨.inr ⟨hn, hK⟩, (picks_of_saved hn).mpr ⟨rfl, h.given⟩, (picks_of_saved hK).mpr ⟨rfl, fun _ => rfl⟩⟩

/-- `Names` along a batch. The ids of the message may be fewer than the tokens. -/
inductive NamesAll (bound : GoString → GoString) (K : GoString) :
    List GoString → List GoString → List GoString → Prop
  | nil (orgs : List GoString) : NamesAll bound K [] orgs []
  | cons {t n : GoString} {ts orgs ns : List GoString} (h : Names (bound t) K t (orgs.headD []) n)
      (hs : NamesAll bound K ts orgs.tail ns) : NamesAll bound K (t :: ts) orgs (n :: ns)

variable {bound : GoString → GoString} {K : GoString} {ts orgs ns : List GoString}

lemma NamesAll.length_eq (h : NamesAll bound K ts orgs ns) : ts.length = ns.length := by
  induction h with
  | nil => rfl
  | cons _ _ ih => simp [ih]

/-- Every NFT of the batch was named for its token, by an id of the message or by none. -/
lemma NamesAll.names (h : NamesAll bound K ts orgs ns) {ids : GoString × GoString} (hids : ids ∈ ts.zip ns) :
    ∃ org, Names (bound ids.1) K ids.1 org ids.2 ∧ (org = [] ∨ org ∈ orgs) := by
  induction h with
  | nil => simp at hids
  | @cons t n ts orgs ns hn _ ih =>
    rw [List.zip_cons_cons, List.mem_cons] at hids
    rcases hids with rfl | hids
    · refine ⟨orgs.headD [], hn, ?_⟩
      cases orgs with
      | nil => exact .inl rfl
      | cons o os => exact .inr (by simp)
    · obtain ⟨org, horg, hmem⟩ := ih hids
      exact ⟨org, horg, hmem.imp_right List.mem_of_mem_tail⟩

end Uptick.Erc721
