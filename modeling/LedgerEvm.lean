import LedgerEvm.Ledger.CachedSnapshot
import LedgerEvm.Message.Service
import LedgerEvm.Message.TokenService
import LedgerEvm.Proofs.Actions
import LedgerEvm.Proofs.Ledger.Accounts
import LedgerEvm.Proofs.Ledger.FlatStore
import LedgerEvm.Proofs.Ledger.Evolution
import LedgerEvm.Proofs.TokenService.Evolution
import LedgerEvm.Proofs.TokenService.Calls
import LedgerEvm.Proofs.Machine.Instructions
import LedgerEvm.Proofs.Machine.Calls
import LedgerEvm.Proofs.Machine.Evolution
import LedgerEvm.Proofs.Clamp
import LedgerEvm.Proofs.Machine.Conservation
import LedgerEvm.Proofs.Machine.FailedFrames
import LedgerEvm.Proofs.Machine.GasBounds
import LedgerEvm.Proofs.Machine.GasSoundness
import LedgerEvm.Proofs.Ledger.TokenEntries
import LedgerEvm.Proofs.TokenService.Effects
import LedgerEvm.Proofs.TokenService.FungibleSupply
import LedgerEvm.Proofs.TokenService.DispatchedCalls
import LedgerEvm.Proofs.Machine.Termination
import LedgerEvm.Proofs.Machine.FrameBounds
import LedgerEvm.Proofs.Ledger.Allowances
import LedgerEvm.Proofs.TokenService.Allowances
import LedgerEvm.Proofs.Machine.StaticFrames
import LedgerEvm.Proofs.Machine.StaticEntries
import LedgerEvm.Proofs.Ledger.Ties
import LedgerEvm.Proofs.TokenService.CallTies
import LedgerEvm.Proofs.Machine.StrandedTokens
import LedgerEvm.Proofs.TokenService.PieceOwners
import LedgerEvm.Proofs.TokenService.ForeignHoldings
import LedgerEvm.Proofs.Machine.DispatchedCalls
import LedgerEvm.Proofs.Machine.ComparedRuns
import LedgerEvm.Proofs.Machine.Aborts
import LedgerEvm.Proofs.Abi.RoundTrip
import LedgerEvm.Proofs.TokenService.Arguments
import LedgerEvm.Proofs.TokenService.SystemContracts
import LedgerEvm.Proofs.Machine.OldAccounts
import LedgerEvm.Proofs.TokenService.ReadCalls
import LedgerEvm.Proofs.TokenService.ArgumentWords
import LedgerEvm.Proofs.TokenService.Outputs
import LedgerEvm.Proofs.TokenService.Redirection
import LedgerEvm.Proofs.Ledger.Inquiries
import LedgerEvm.Proofs.Service.Isolation
import LedgerEvm.Proofs.Fee.Charges
import LedgerEvm.Proofs.Fee.Prices
import LedgerEvm.Proofs.Machine.Timelines
import LedgerEvm.Proofs.TokenService.AccountBooks
import LedgerEvm.Proofs.TokenService.Refusals
import LedgerEvm.Proofs.TokenService.Batches
import LedgerEvm.Proofs.TokenService.Eligibility
import LedgerEvm.Proofs.TokenService.CurrencyLegs
import LedgerEvm.Proofs.TokenService.EntryWrites
import LedgerEvm.Proofs.TokenService.SerialNumbers
import LedgerEvm.Proofs.Machine.FrameInvariants
import LedgerEvm.Proofs.Machine.InstructionStarts
import LedgerEvm.Proofs.Machine.Operands
import LedgerEvm.Proofs.Machine.MemoryGrowth
import LedgerEvm.Proofs.Machine.MemoryExpansions
import LedgerEvm.Proofs.Machine.TouchedWindows
import LedgerEvm.Proofs.Machine.MemoryContents
import LedgerEvm.Proofs.WordArithmetic
import LedgerEvm.Proofs.Machine.Computations
import LedgerEvm.Proofs.Ledger.Slots
import LedgerEvm.Proofs.Machine.StorageWrites
import LedgerEvm.Proofs.Machine.Deployments
import LedgerEvm.Proofs.Machine.InitCode
import LedgerEvm.Proofs.Machine.SelfDestruction
import LedgerEvm.Proofs.Machine.OfferedValues
import LedgerEvm.Proofs.Machine.AllocatedAddresses
import LedgerEvm.Proofs.Service.Estimates
import LedgerEvm.Proofs.Ledger.GivenAccounts
import LedgerEvm.Proofs.Machine.GasChains
import LedgerEvm.Proofs.Machine.SurvivingEffects
import LedgerEvm.Proofs.Machine.TraceReasons
import LedgerEvm.Proofs.TokenService.LargerBodies
import LedgerEvm.Proofs.Machine.OutputWindows
import LedgerEvm.Proofs.TokenService.LegOrder
import LedgerEvm.Proofs.Machine.Objections
import LedgerEvm.Proofs.Machine.LogCharges
import LedgerEvm.Proofs.TokenService.Conversions
import LedgerEvm.Proofs.Machine.RevertReasons
import LedgerEvm.Proofs.EntityAddresses
import LedgerEvm.Proofs.Machine.SeedMixing
import LedgerEvm.Proofs.Abi.BoundedReading
import LedgerEvm.Proofs.VersionTexts
