import Uptick.Lib.Text
import Uptick.Lib.Numeral
import Uptick.Lib.Hex
import Uptick.Lib.KVStore
import Uptick.Lib.Outcome
import Uptick.Evm.Address
import Uptick.Extern
import Uptick.Collection.Types
import Uptick.Erc721.Types
import Uptick.Sample
import Uptick.Erc721.Msg
import Uptick.Erc721.Spelling
import Uptick.Erc721.Pairs
import Uptick.Erc721.Index
import Uptick.Erc721.IndexInvariant
import Uptick.Erc721.SpellingAgreement
import Uptick.Collection.Keeper
import Uptick.Collection.MsgServer
import Uptick.Cw721.Pairs
import Uptick.Evm.Contract
import Uptick.Wasm.Contract
import Uptick.Chain
import Uptick.Erc721.Resolve
import Uptick.Erc721.Convert
import Uptick.Erc721.Refund
import Uptick.Cw721.Resolve
import Uptick.Cw721.Convert
import Uptick.Ibc.Hook
import Uptick.Erc721.ConvertSpec
import Uptick.Erc721.HandlerSpec
import Uptick.Erc721.BoundDelivery
import Uptick.SampleChain
import Uptick.Erc721.Prepare
import Uptick.Cw721.ConvertSpec
import Uptick.Cw721.HandlerSpec
import Uptick.Erc721.Batch
import Uptick.Cw721.Batch
import Uptick.Authority
import Uptick.Lib.Escrow
import Uptick.Erc721.RegistrySteps
import Uptick.Erc721.Prune
import Uptick.Erc721.PruneReport
import Uptick.Genesis
import Uptick.Erc721.Genesis
import Uptick.Erc721.GenesisExport
import Uptick.Erc721.GenesisImport
import Uptick.Erc721.Settlement
import Uptick.Erc721.SettlementSpec
import Uptick.Erc721.SettlementRun
import Uptick.Erc721.SettlementSweep
import Uptick.Erc721.SettlementSafe
import Uptick.Erc721.SettlementIdle
import Uptick.System
import Uptick.BoundInv
import Uptick.BoundExists
import Uptick.Erc721.Custody
import Uptick.Erc721.RefundCustody
import Uptick.Flights
import Uptick.Conforming
import Uptick.Cw721.Registry
import Uptick.Cw721.StoreRun
import Uptick.Cw721.RefundForgets
import Uptick.Erc721.RefundForgets
import Uptick.RefundForgets
import Uptick.Lib.IndexedTable
import Uptick.Registration
import Uptick.Erc721.PurgeExact
import Uptick.Ibc.Middleware
import Uptick.Writes
import Uptick.RefundOnce
import Uptick.Collection.NftStore
import Uptick.Lib.Utf8
import Uptick.Collection.Represents
import Uptick.Collection.Genesis
import Uptick.Collection.GenesisRoundTrip
import Uptick.SampleStore
import Uptick.Collection.Migration.Steps
import Uptick.Collection.Migration.Precheck
import Uptick.Collection.Migration.Content
import Uptick.Collection.Migration.Exact
import Uptick.Lib.Base64
import Uptick.Lib.Double
import Uptick.Lib.Json.Value
import Uptick.Lib.Json.Text
import Uptick.Lib.Json.RoundTrip
import Uptick.Lib.Json.Decoded
import Uptick.Lib.Json.Interface
import Uptick.Collection.Builder
import Uptick.Collection.BuilderSpec
import Uptick.Collection.TokenRoundTrip
import Uptick.Erc721.TokenIds
import Uptick.DerivedIds
import Uptick.PairContract
import Uptick.Cw721.BatchResolve
import Uptick.Ibc.VoucherMetadata
import Uptick.Upgrade.Handlers
import Uptick.Upgrade.Replay
import Uptick.Upgrade.Accounts
import Uptick.Ante.Eip712
import Uptick.Cw721.Pledges
import Uptick.Cw721.RefundReceiver
import Uptick.Collection.ClassRoundTrip
import Uptick.Internft
import Uptick.LedgerRun
import Uptick.UpdateRestricted
import Uptick.Collection.GenesisExport
import Uptick.Restart
import Uptick.BatchIds
import Uptick.Collection.GenesisPanic
import Uptick.Erc721.MappingConflict
import Uptick.Ante.Authz
import Uptick.Ante.Extract
import Uptick.Evm.ERC721Uptick
import Uptick.Ante.Security
import Uptick.Circulation
import Uptick.Holders
