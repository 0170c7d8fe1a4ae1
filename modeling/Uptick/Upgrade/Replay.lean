import Uptick.SampleChain
import Uptick.Upgrade.Handlers

/-!
# Replaying the v0.5.0 upgrade

A plan may be applied again, and a block whose upgrade fails is run again from the state before it. In
every such sequence the v0.4.0 change set is committed at most once, from a state without the coin
record, and after the first committed invocation the others leave the stores as they are.
-/

namespace Uptick.Upgrade

open Text Outcome

variable {T : Toolbox}

/-- The module manager ends with the current versions, and does nothing when it starts with them. -/
structure Migrates (T : Toolbox) (current : T.VersionMap) : Prop where
  result : ∀ {st st' vm vm'}, T.runMigrations st vm = .ok (st', vm') → vm' = current
  idle : ∀ st, T.runMigrations st current = .ok (st, current)

/-- The state between blocks: what a handler works on, and the version map that x/upgrade keeps. -/
structure Node (T : Toolbox) where
  ctx : Ctx T
  versions : T.VersionMap

/-- The marker of a completed run. -/
def Marked (s : Node T) : Prop := s.ctx.upgrade.has migrationsAppliedKey = true

inductive Event
  | committed | aborted | other
  deriving DecidableEq, Repr

/-- An invocation is committed when it succeeds, or its writes are dropped with the block. Everything
else that happens leaves the marker and the version map to x/upgrade. -/
inductive Step : Node T → Event → Node T → Prop
  | committed {s : Node T} {ctx : Ctx T} {vm : T.VersionMap} (h : v050Handler T s.ctx s.versions = .ok (ctx, vm)) :
      Step s .committed ⟨ctx, vm⟩
  | aborted {s : Node T} : Step s .aborted s
  | other {s s' : Node T} (marker : Marked s' ↔ Marked s) (versions : s'.versions = s.versions)
      (legacyRuns : s'.ctx.legacyRuns = s.ctx.legacyRuns) : Step s .other s'

inductive Run (s₀ : Node T) : List Event → Node T → Prop
  | start : Run s₀ [] s₀
  | step {es : List Event} {e : Event} {s s' : Node T} (before : Run s₀ es s) (h : Step s e s') : Run s₀ (es ++ [e]) s'

section Handlers

variable {current : T.VersionMap} {ctx ctx' : Ctx T} {vm vm' : T.VersionMap}

lemma v040Handler_ok (hm : Migrates T current) (h : v040Handler T ctx vm = .ok (ctx', vm')) :
    vm' = current ∧ ctx'.legacyRuns = ctx.stores :: ctx.legacyRuns := by
  unfold v040Handler at h
  obtain ⟨_, -, h⟩ := bind_eq_ok.mp h
  obtain ⟨_, -, h⟩ := bind_eq_ok.mp h
  obtain ⟨_, -, h⟩ := bind_eq_ok.mp h
  obtain ⟨_, -, h⟩ := bind_eq_ok.mp h
  obtain ⟨_, -, h⟩ := bind_eq_ok.mp h
  obtain ⟨_, -, h⟩ := bind_eq_ok.mp h
  obtain ⟨⟨st, vm₁⟩, hrun, h⟩ := bind_eq_ok.mp h
  cases h
  exact ⟨hm.result hrun, rfl⟩

lemma v041Handler_ok (hm : Migrates T current) (h : v041Handler T ctx vm = .ok (ctx', vm')) :
    vm' = current ∧ ctx'.legacyRuns = ctx.legacyRuns := by
  unfold v041Handler at h
  obtain ⟨_, -, h⟩ := bind_eq_ok.mp h
  obtain ⟨_, -, h⟩ := bind_eq_ok.mp h
  obtain ⟨⟨st, vm₁⟩, hrun, h⟩ := bind_eq_ok.mp h
  cases h
  exact ⟨hm.result hrun, rfl⟩

lemma runMigrationSet_ok (hm : Migrates T current) {fromLegacyState : Bool}
    (h : runMigrationSet T ctx vm fromLegacyState ⟨v040Handler T, v041Handler T⟩ = .ok (ctx', vm')) :
    vm' = current ∧
      ctx'.legacyRuns = (if fromLegacyState then [ctx.stores] else []) ++ ctx.legacyRuns := by
  unfold runMigrationSet at h
  obtain ⟨⟨ctx₁, vm₁⟩, hlegacy, h⟩ := bind_eq_ok.mp h
  obtain ⟨hvm, hruns⟩ := v041Handler_ok hm (mapError_eq_ok.mp h)
  refine ⟨hvm, ?_⟩
  rw [hruns]
  cases fromLegacyState with
  | true => exact (v040Handler_ok hm (mapError_eq_ok.mp hlegacy)).2
  | false =>
    obtain ⟨rfl, -⟩ := Prod.mk.inj (Except.ok.inj hlegacy)
    rfl

lemma v050Handler_of_marked (hmark : ctx.upgrade.has migrationsAppliedKey = true)
    (h : v050Handler T ctx vm = .ok (ctx', vm')) :
    T.runMigrations ctx.stores vm = .ok (ctx'.stores, vm') ∧ ctx'.upgrade = ctx.upgrade ∧
      ctx'.legacyRuns = ctx.legacyRuns := by
  unfold v050Handler at h
  obtain ⟨-, h⟩ := check_bind_eq_ok.mp h
  rw [if_pos hmark] at h
  obtain ⟨⟨st, vm₁⟩, hrun, h⟩ := bind_eq_ok.mp h
  cases h
  exact ⟨hrun, rfl, rfl⟩

lemma v050Handler_of_unmarked (hm : Migrates T current) (hmark : ¬ ctx.upgrade.has migrationsAppliedKey = true)
    (h : v050Handler T ctx vm = .ok (ctx', vm')) :
    vm' = current ∧ ctx'.upgrade.has migrationsAppliedKey = true ∧
      ctx'.legacyRuns = (if evmCoinInfoInitialized T ctx.stores then [] else [ctx.stores]) ++ ctx.legacyRuns := by
  unfold v050Handler at h
  obtain ⟨-, h⟩ := check_bind_eq_ok.mp h
  rw [if_neg hmark] at h
  obtain ⟨⟨ctx₁, vm₁⟩, hset, h⟩ := bind_eq_ok.mp h
  obtain ⟨st, -, h⟩ := bind_eq_ok.mp h
  cases h
  obtain ⟨hvm, hruns⟩ := runMigrationSet_ok hm hset
  refine ⟨hvm, ?_, ?_⟩
  · show (KVStore.get? _ _).isSome = true
    rw [KVStore.get?_set _ (by decide), if_pos rfl]
    rfl
  · show ctx₁.legacyRuns = _
    rw [hruns]
    cases evmCoinInfoInitialized T ctx.stores <;> rfl

end Handlers

/-- What holds in a run: the change set ran at most once, from a legacy state, and is marked; and once an
invocation is committed the marker and the current versions are there. -/
structure Guarded (s₀ : Node T) (current : T.VersionMap) (es : List Event) (s : Node T) : Prop where
  runs : ∃ ran, s.ctx.legacyRuns = ran ++ s₀.ctx.legacyRuns ∧ ran.length ≤ 1 ∧ (ran ≠ [] → Marked s) ∧
    ∀ st ∈ ran, evmCoinInfoInitialized T st = false
  done : .committed ∈ es → Marked s ∧ s.versions = current

lemma Guarded.step {current : T.VersionMap} (hm : Migrates T current) {s₀ s s' : Node T} {es : List Event} {e : Event}
    (hg : Guarded s₀ current es s) (h : Step s e s') : Guarded s₀ current (es ++ [e]) s' := by
  obtain ⟨ran, hran, hone, hmarked, hlegacy⟩ := hg.runs
  cases h with
  | aborted =>
    refine ⟨hg.runs, fun hmem => hg.done ?_⟩
    simpa using hmem
  | other marker versions legacyRuns =>
    constructor
    · exact ⟨ran, legacyRuns.trans hran, hone, fun hne => marker.mpr (hmarked hne), hlegacy⟩
    · intro hmem
      have hbefore := hg.done (by simpa using hmem)
      exact ⟨marker.mpr hbefore.1, versions.trans hbefore.2⟩
  | @committed ctx vm hcall =>
    by_cases hmark : s.ctx.upgrade.has migrationsAppliedKey = true
    · obtain ⟨hrun, hupgrade, hruns⟩ := v050Handler_of_marked hmark hcall
      have hmark' : Marked (⟨ctx, vm⟩ : Node T) := by
        show ctx.upgrade.has _ = true
        rw [hupgrade]
        exact hmark
      exact ⟨⟨ran, hruns.trans hran, hone, fun _ => hmark', hlegacy⟩, fun _ => ⟨hmark', hm.result hrun⟩⟩
    · -- Without the marker nothing ran before, so this is the first run of the change set, if any.
      obtain ⟨hvm, hmark', hruns⟩ := v050Handler_of_unmarked hm hmark hcall
      have hnone : ran = [] := by
        by_contra hne
        exact hmark (hmarked hne)
      rw [hnone, List.nil_append] at hran
      refine ⟨⟨_, hruns.trans (by rw [hran]), ?_, fun _ => hmark', ?_⟩, fun _ => ⟨hmark', hvm⟩⟩
      · split <;> simp
      · intro st hst
        split at hst
        · cases hst
        · rename_i hinit
          obtain rfl := List.mem_singleton.mp hst
          exact Bool.eq_false_of_not_eq_true hinit

lemma Run.guarded {current : T.VersionMap} (hm : Migrates T current) {s₀ s : Node T} {es : List Event}
    (h : Run s₀ es s) : Guarded s₀ current es s := by
  induction h with
  | start => exact ⟨⟨[], rfl, by simp, fun hne => absurd rfl hne, by simp⟩, fun hmem => by cases hmem⟩
  | step _ hstep ih => exact ih.step hm hstep

/-- In every sequence of invocations, committed or aborted, with anything else between them: the v0.4.0
change set is committed at most once and only from a state without the coin record, and after a committed
invocation every other one leaves the stores, and with them the token pairs, as they are. -/
theorem upgrade_replay_safe (T : Toolbox) (current : T.VersionMap) (hm : Migrates T current) (s₀ s : Node T)
    (es : List Event) (h : Run s₀ es s) :
    (∃ ran, s.ctx.legacyRuns = ran ++ s₀.ctx.legacyRuns ∧ ran.length ≤ 1 ∧
      ∀ st ∈ ran, evmCoinInfoInitialized T st = false) ∧
    (.committed ∈ es → ∀ e s', e ≠ .other → Step s e s' →
      s'.ctx.stores = s.ctx.stores ∧ T.getTokenPairs s'.ctx.stores = T.getTokenPairs s.ctx.stores) := by
  have hg := h.guarded hm
  constructor
  · obtain ⟨ran, hran, hone, -, hlegacy⟩ := hg.runs
    exact ⟨ran, hran, hone, hlegacy⟩
  · intro hmem e s' hne hstep
    have hstores : s'.ctx.stores = s.ctx.stores := by
      cases hstep with
      | aborted => rfl
      | other => exact absurd rfl hne
      | committed hcall =>
        obtain ⟨hmark, hversions⟩ := hg.done hmem
        obtain ⟨hrun, -⟩ := v050Handler_of_marked hmark hcall
        rw [hversions, hm.idle] at hrun
        exact (Prod.mk.inj (Except.ok.inj hrun)).1.symm
    exact ⟨hstores, by rw [hstores]⟩

namespace Sample

/-- The stores of the other modules: metadata, whether the coin record is there, and token pairs. -/
structure Modules where
  metadata : List Ibc.Metadata
  coinInfo : Bool
  pairs : List TokenPair
  params : Erc20Params

def bank : Ibc.BankKeeper where
  State := Modules
  getDenomMetaData := fun s denom => s.metadata.find? fun m => m.base = denom
  setDenomMetaData := fun s m => { s with metadata := m :: s.metadata }
  validateDenom := Ibc.listBank.validateDenom
  validate := Ibc.listBank.validate
  get_set := fun s m => by simp
  base_of_get := fun h => by simpa using List.find?_some h
  validate_ok := Ibc.listBank.validate_ok

/-- Pairs are kept in a list, the v0.4.0 step for the EVM parameters writes the coin record, and every
module has one version, which is the current one after a migration. -/
abbrev toolbox : Toolbox where
  chain := Uptick.Sample.chain
  bank := bank
  deriveDecimalsFromDenom := Ibc.attoDecimals
  order := GoMap.MapOrder.listed
  VersionMap := Bool
  upgradeStoreKey := true
  evmStoreKey := true
  hasEvmCoinInfo := fun st => Modules.coinInfo st.other
  getTokenPairs := fun st => Modules.pairs st.other
  deleteTokenPair := fun st p => ⟨st.world, { st.other with pairs := (Modules.pairs st.other).filter (· ≠ p) }⟩
  getErc20Params := fun st => Modules.params st.other
  setErc20Params := fun st params => .ok ⟨st.world, { st.other with params := params }⟩
  isDenomRegistered := fun st denom => (Modules.pairs st.other).any fun p => p.denom = denom
  registerERC20Extension := fun st denom =>
    .ok ⟨st.world, { st.other with pairs := ⟨denom, denom, true, .module⟩ :: Modules.pairs st.other }⟩
  totalSupplyDenoms := fun _ => []
  migrateEVMChainConfig := .ok
  migrateEVMParams := fun st => .ok ⟨st.world, { st.other with coinInfo := true }⟩
  migrateLegacyEVMAccounts := .ok
  migrateErc20Params := .ok
  deleteLegacyIBCTransferProvenance := id
  migrateErc721Params := .ok
  migrateCw721Params := .ok
  migrateNFTTransferPort := id
  deleteLegacyParamsSubspace := id
  migrateActiveStaticPrecompiles := .ok
  migrateICAControllerParams := id
  migrateFeeMarketBaseFee := .ok
  runMigrations := fun st _ => .ok (st, true)

lemma migrates : Migrates toolbox true :=
  ⟨fun h => (Prod.mk.inj (Except.ok.inj h)).2.symm, fun _ => rfl⟩

def legacyNode (pairs : List TokenPair) : Node toolbox where
  ctx := ⟨⟨⟨.empty, .empty, .empty, Uptick.Sample.EvmState.empty, Uptick.Sample.WasmState.empty⟩,
    ⟨[], false, pairs, ⟨true, false⟩⟩⟩, .empty, []⟩
  versions := false

/-- A pair of the module, as a received voucher registers it. -/
def voucherPair : TokenPair := ⟨str "0x01", str "ibc/3D02", true, .module⟩

end Sample

/-- From a legacy state the upgrade goes through once; a pair registered after it is still there after
the plan is applied again. -/
theorem upgrade_replay_sample : ∃ s s' : Node Sample.toolbox,
    Run (Sample.legacyNode []) [.committed, .other] s ∧ Sample.voucherPair ∈ Sample.toolbox.getTokenPairs s.ctx.stores ∧
      Step s .committed s' ∧ Sample.voucherPair ∈ Sample.toolbox.getTokenPairs s'.ctx.stores := by
  obtain ⟨⟨ctx, vm⟩, hfirst⟩ := exists_eq_ok
    (x := v050Handler Sample.toolbox (Sample.legacyNode []).ctx (Sample.legacyNode []).versions) (by decide +kernel)
  have hmarked : ctx.upgrade.has migrationsAppliedKey = true :=
    (v050Handler_of_unmarked Sample.migrates (by decide +kernel) hfirst).2.1
  let registered : Node Sample.toolbox :=
    ⟨{ ctx with stores := ⟨ctx.stores.world, { ctx.stores.other with pairs := [Sample.voucherPair] }⟩ }, vm⟩
  have hrun : Run (Sample.legacyNode []) [.committed, .other] registered :=
    .step (.step .start (.committed hfirst)) (.other (s := ⟨ctx, vm⟩) Iff.rfl rfl rfl)
  have hagain : v050Handler Sample.toolbox registered.ctx registered.versions = .ok (registered.ctx, true) := by
    have hmark : registered.ctx.upgrade.has migrationsAppliedKey = true := hmarked
    unfold v050Handler
    rw [if_pos hmark]
    rfl
  have hsafe := (upgrade_replay_safe Sample.toolbox true Sample.migrates _ _ _ hrun).2 (by simp) .committed _
    (by decide) (.committed hagain)
  refine ⟨registered, _, hrun, List.mem_singleton.mpr rfl, .committed hagain, ?_⟩
  rw [hsafe.2]
  exact List.mem_singleton.mpr rfl

end Uptick.Upgrade
