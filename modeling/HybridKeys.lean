import HybridKeys.Adapter
import HybridKeys.Proofs.Primality
import HybridKeys.Proofs.ClassicalKeys
import HybridKeys.Proofs.EncodedKeys
import HybridKeys.Proofs.CompositeCodec
import HybridKeys.Proofs.FailedCalls
import HybridKeys.Proofs.KeyHistories
import HybridKeys.Proofs.KeyConsistency
import HybridKeys.Proofs.ExportImport
import HybridKeys.Proofs.KeyHalves
import HybridKeys.Proofs.KeyGeneration
import HybridKeys.Proofs.InterruptedCalls
import HybridKeys.Proofs.KeyGrammar
import HybridKeys.Proofs.Regeneration
import HybridKeys.Proofs.FilledRequests
import HybridKeys.Proofs.DistinctGenerations
import HybridKeys.Proofs.Diagnostics
import HybridKeys.Proofs.FetchedAdapters
import HybridKeys.Proofs.CallHistories
import HybridKeys.Proofs.FirstParameters
import HybridKeys.Proofs.GenerationSettings
import HybridKeys.Proofs.KeyMetadata
import HybridKeys.Proofs.ImportOutcome
import HybridKeys.Proofs.PublicKeyReplacement
import HybridKeys.Proofs.SlotPositions
import HybridKeys.Proofs.OpenSlots
import HybridKeys.Proofs.AnsweredRequests
import HybridKeys.Proofs.ParameterReaders
import HybridKeys.Proofs.ExportTables
import HybridKeys.Proofs.KeyComparison
import HybridKeys.Proofs.KeyPairBuffers
import HybridKeys.Proofs.NameOrder
import HybridKeys.Proofs.RegistryScan
import HybridKeys.Proofs.HandleHistories
import HybridKeys.Proofs.LengthLimits
import HybridKeys.Proofs.InterruptedCalls
