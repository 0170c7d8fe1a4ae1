import Uptick.Erc721.Prune
import Uptick.Erc721.Settlement
import Uptick.Ibc.VoucherMetadata
import Uptick.Lib.GoMap

/-!
# The v0.5.0 upgrade handler

`app/upgrades/v050`: the handler runs the v0.4.0 change set from a state that never had it, then the
v0.4.1 repairs and its own migrations, and leaves a marker in the store of x/upgrade. A run that finds
the marker only hands the version map to the module manager. What the handlers do through the keepers of
other packages enters as a function on the stores.
-/

namespace Uptick.Upgrade

open Text Outcome

/-- `erc20types.Owner` -/
inductive Owner
  | unspecified | module | external
  deriving DecidableEq, Repr

/-- `erc20types.TokenPair` -/
structure TokenPair where
  erc20Address : GoString
  denom : GoString
  enabled : Bool
  contractOwner : Owner
  deriving DecidableEq, Repr

/-- `erc20types.Params` -/
structure Erc20Params where
  enableErc20 : Bool
  permissionlessRegistration : Bool
  deriving DecidableEq, Repr

/-- The stores of the modules of this repository, and those of the others as the bank keeper's state. -/
structure Stores (C : Chain) (B : Ibc.BankKeeper) where
  world : World C
  other : B.State

/-- What the handlers are given: the keepers of other packages and the steps that only call them. -/
structure Toolbox where
  chain : Chain
  bank : Ibc.BankKeeper
  deriveDecimalsFromDenom : GoString → Except GoString UInt8
  order : GoMap.MapOrder
  VersionMap : Type
  /-- Whether the stores of x/upgrade and of the EVM module are registered. -/
  upgradeStoreKey : Bool
  evmStoreKey : Bool
  /-- `ctx.KVStore(evmStoreKey).Has(evmtypes.KeyPrefixEvmCoinInfo)` -/
  hasEvmCoinInfo : Stores chain bank → Bool
  -- x/erc20 and x/bank
  getTokenPairs : Stores chain bank → List TokenPair
  deleteTokenPair : Stores chain bank → TokenPair → Stores chain bank
  getErc20Params : Stores chain bank → Erc20Params
  setErc20Params : Stores chain bank → Erc20Params → Except Error (Stores chain bank)
  isDenomRegistered : Stores chain bank → GoString → Bool
  registerERC20Extension : Stores chain bank → GoString → Except Error (Stores chain bank)
  totalSupplyDenoms : Stores chain bank → List GoString
  -- the other steps of v0.4.0
  migrateEVMChainConfig : Stores chain bank → Except Error (Stores chain bank)
  migrateEVMParams : Stores chain bank → Except Error (Stores chain bank)
  migrateLegacyEVMAccounts : Stores chain bank → Except Error (Stores chain bank)
  migrateErc20Params : Stores chain bank → Except Error (Stores chain bank)
  deleteLegacyIBCTransferProvenance : Stores chain bank → Stores chain bank
  migrateErc721Params : Stores chain bank → Except Error (Stores chain bank)
  migrateCw721Params : Stores chain bank → Except Error (Stores chain bank)
  migrateNFTTransferPort : Stores chain bank → Stores chain bank
  deleteLegacyParamsSubspace : Stores chain bank → Stores chain bank
  -- the other steps of v0.4.1
  migrateActiveStaticPrecompiles : Stores chain bank → Except Error (Stores chain bank)
  migrateICAControllerParams : Stores chain bank → Stores chain bank
  migrateFeeMarketBaseFee : Stores chain bank → Except Error (Stores chain bank)
  -- the module manager
  runMigrations : Stores chain bank → VersionMap → Except Error (Stores chain bank × VersionMap)

variable (T : Toolbox)

/-- What a handler works on: the module stores, the store of x/upgrade, and, for the proofs, the stores
from which the v0.4.0 change set was started. -/
structure Ctx where
  stores : Stores T.chain T.bank
  upgrade : KVStore GoString
  legacyRuns : List (Stores T.chain T.bank)

/-- A handler maps the context and the version map, or fails. -/
abbrev Handler := Ctx T → T.VersionMap → Except Error (Ctx T × T.VersionMap)

/-- Every pair that the module owns is deleted, whenever it was registered. -/
def deleteLegacyOwnerModulePairs (st : Stores T.chain T.bank) : Stores T.chain T.bank :=
  (T.getTokenPairs st).foldl
    (fun st pair => if pair.contractOwner ≠ .module then st else T.deleteTokenPair st pair) st

def v040Handler : Handler T := fun ctx vm => do
  let ctx := { ctx with legacyRuns := ctx.stores :: ctx.legacyRuns }
  let st ← mapError (·.wrapf "migrate EVM chain config" []) (T.migrateEVMChainConfig ctx.stores)
  let st ← mapError (·.wrapf "migrate EVM params" []) (T.migrateEVMParams st)
  let st ← mapError (·.wrapf "migrate legacy EVM accounts" []) (T.migrateLegacyEVMAccounts st)
  let st ← mapError (·.wrapf "migrate erc20 params" []) (T.migrateErc20Params st)
  let st := deleteLegacyOwnerModulePairs T st
  let st := T.deleteLegacyIBCTransferProvenance st
  let st ← mapError (·.wrapf "migrate erc721 params" []) (T.migrateErc721Params st)
  let st ← mapError (·.wrapf "migrate cw721 params" []) (T.migrateCw721Params st)
  let st := T.migrateNFTTransferPort st
  let st := T.deleteLegacyParamsSubspace st
  let (st, vm) ← T.runMigrations st vm
  .ok ({ ctx with stores := st }, vm)

def pruneErc721UIDIndex (st : Stores T.chain T.bank) : Stores T.chain T.bank :=
  { st with world := { st.world with
      erc721 := (Erc721.pruneDuplicateUIDIndexEntries T.chain.toExtern T.order st.world.erc721).1 } }

def v041Handler : Handler T := fun ctx vm => do
  let st ← mapError (·.wrapf "migrate active static precompiles" []) (T.migrateActiveStaticPrecompiles ctx.stores)
  let st := T.migrateICAControllerParams st
  let st ← mapError (·.wrapf "migrate feemarket params" []) (T.migrateFeeMarketBaseFee st)
  let st := pruneErc721UIDIndex T st
  let (st, vm) ← T.runMigrations st vm
  .ok ({ ctx with stores := st }, vm)

def migrationsAppliedKey : GoString := str "v0.5.0/migrations-applied"

def backfillFailuresKey : GoString := str "v0.5.0/backfill-failures"

/-- The store of x/upgrade must be there, or the guard would be skipped. -/
def upgradeStore : Except Error Unit :=
  require (T.upgradeStoreKey = true)
    (external "x/upgrade store key is not registered; cannot guard the v0.4.0 stage against a replay")

/-- A store that is not registered counts as one without the record. -/
def evmCoinInfoInitialized (st : Stores T.chain T.bank) : Bool :=
  if T.evmStoreKey = false then false else T.hasEvmCoinInfo st

structure Stages where
  legacy : Handler T
  repairs : Handler T

def runMigrationSet (ctx : Ctx T) (vm : T.VersionMap) (fromLegacyState : Bool) (s : Stages T) :
    Except Error (Ctx T × T.VersionMap) := do
  let (ctx, vm) ←
    (if fromLegacyState then mapError (·.wrapf "v0.4.0 migration set" []) (s.legacy ctx vm) else .ok (ctx, vm))
  mapError (·.wrapf "v0.4.1 repairs" []) (s.repairs ctx vm)

def enablePermissionlessRegistration (st : Stores T.chain T.bank) : Except Error (Stores T.chain T.bank) :=
  let params := T.getErc20Params st
  if params.permissionlessRegistration then .ok st
  else mapError (·.wrapf "set erc20 params" [])
    (T.setErc20Params st { params with permissionlessRegistration := true })

def ibcVoucherDenoms (st : Stores T.chain T.bank) : List GoString :=
  GoMap.sortStrings ((T.totalSupplyDenoms st).filter fun denom => hasPrefix denom Ibc.voucherPrefix)

def normalizeIBCVoucherERC20Decimals (st : Stores T.chain T.bank) : Stores T.chain T.bank :=
  (ibcVoucherDenoms T st).foldl
    (fun st denom =>
      if (T.bank.getDenomMetaData st.other denom).isNone then st
      else { st with other :=
        (Ibc.normalizeVoucherDecimals T.bank T.deriveDecimalsFromDenom st.other denom).2 })
    st

/-- The stores, and the denominations that could not be registered. -/
def backfillIBCVoucherTokenPairs (st : Stores T.chain T.bank) : Stores T.chain T.bank × List GoString :=
  (ibcVoucherDenoms T st).foldl
    (fun (st, failed) denom =>
      if T.isDenomRegistered st denom then (st, failed)
      else
        match T.registerERC20Extension st denom with
        | .error _ => (st, failed ++ [denom])
        | .ok st => (st, failed))
    (st, [])

/-- `strings.Join(failed, "\n")` -/
def joinLines : List GoString → GoString
  | [] => []
  | [line] => line
  | line :: lines => line ++ 10 :: joinLines lines

def recordBackfillFailures (upgrade : KVStore GoString) (failed : List GoString) : KVStore GoString :=
  if failed = [] then upgrade.delete backfillFailuresKey else upgrade.set backfillFailuresKey (joinLines failed)

def settleIBCVoucherPairs (st : Stores T.chain T.bank) : Stores T.chain T.bank :=
  { st with world := (Erc721.settleIBCVoucherPairs st.world).world }

def v050Handler : Handler T := fun ctx vm => do
  upgradeStore T
  if ctx.upgrade.has migrationsAppliedKey then
    let (st, vm) ← T.runMigrations ctx.stores vm
    .ok ({ ctx with stores := st }, vm)
  else
    let fromLegacyState := !evmCoinInfoInitialized T ctx.stores
    let (ctx, vm) ← runMigrationSet T ctx vm fromLegacyState ⟨v040Handler T, v041Handler T⟩
    let st ← mapError (·.wrapf "enable permissionless erc20 registration" [])
      (enablePermissionlessRegistration T ctx.stores)
    let st := normalizeIBCVoucherERC20Decimals T st
    let (st, failedDenoms) := backfillIBCVoucherTokenPairs T st
    let upgrade := recordBackfillFailures ctx.upgrade failedDenoms
    let st := settleIBCVoucherPairs T st
    .ok ({ ctx with stores := st, upgrade := upgrade.set migrationsAppliedKey [1] }, vm)

end Uptick.Upgrade
