import TrustRoots.Bytes.BigEndian
import TrustRoots.Bytes.Hex
import TrustRoots.Certificate.Anchor
import TrustRoots.Certificate.Element
import TrustRoots.Config
import TrustRoots.Decimal.Binary64
import TrustRoots.Decimal.Shortest
import TrustRoots.Decimal.Word64
import TrustRoots.Digest.Block
import TrustRoots.Digest.Sha1
import TrustRoots.Digest.Sha256
import TrustRoots.Fingerprint
import TrustRoots.KeyStore.Cursor
import TrustRoots.KeyStore.Decode
import TrustRoots.KeyStore.Draft
import TrustRoots.KeyStore.Entry
import TrustRoots.KeyStore.Error
import TrustRoots.KeyStore.Guarded
import TrustRoots.KeyStore.Script
import TrustRoots.KeyStore.Seal
import TrustRoots.KeyStore.Session
import TrustRoots.KeyStore.Stream
import TrustRoots.Log
import TrustRoots.Proofs.AgreeingConfigs
import TrustRoots.Proofs.AliasLookups
import TrustRoots.Proofs.AnchorRules
import TrustRoots.Proofs.CacheLifetime
import TrustRoots.Proofs.CallerSchedule
import TrustRoots.Proofs.CallerTransitions
import TrustRoots.Proofs.CanonicalVersions
import TrustRoots.Proofs.ColonRendering
import TrustRoots.Proofs.ConsumedBytes
import TrustRoots.Proofs.ContainerEnds
import TrustRoots.Proofs.CursorReads
import TrustRoots.Proofs.DecimalNumerals
import TrustRoots.Proofs.DeclaredCounts
import TrustRoots.Proofs.DigestFingerprints
import TrustRoots.Proofs.DistinctKeys
import TrustRoots.Proofs.DraftDefects
import TrustRoots.Proofs.ExtraLoad
import TrustRoots.Proofs.GuardedCalls
import TrustRoots.Proofs.GuardedDecoding
import TrustRoots.Proofs.HandleNumbers
import TrustRoots.Proofs.HexText
import TrustRoots.Proofs.KeyStoreForm
import TrustRoots.Proofs.KeyStoreReads
import TrustRoots.Proofs.KeyStoreRoundTrip
import TrustRoots.Proofs.LastingDefects
import TrustRoots.Proofs.LoadRecords
import TrustRoots.Proofs.LoadVerdict
import TrustRoots.Proofs.LockPoison
import TrustRoots.Proofs.LongerInput
import TrustRoots.Proofs.ModifiedAliases
import TrustRoots.Proofs.ModifiedUtf8
import TrustRoots.Proofs.OverlongAliases
import TrustRoots.Proofs.Overrides
import TrustRoots.Proofs.PanickedLoads
import TrustRoots.Proofs.PositionalOrder
import TrustRoots.Proofs.RefusedForms
import TrustRoots.Proofs.ScheduledPanics
import TrustRoots.Proofs.SealAgreement
import TrustRoots.Proofs.SealCollision
import TrustRoots.Proofs.SessionHistory
import TrustRoots.Proofs.SessionLog
import TrustRoots.Proofs.SessionsInStep
import TrustRoots.Proofs.SharedOutcome
import TrustRoots.Proofs.SingleLoad
import TrustRoots.Proofs.StreamLoads
import TrustRoots.Proofs.TokenBytes
import TrustRoots.Proofs.TokenIndependence
import TrustRoots.Proofs.TrimmedText
import TrustRoots.Proofs.TrustedAnchors
import TrustRoots.Proofs.VerifiedHandles
import TrustRoots.Proofs.VersionGrammar
import TrustRoots.Proofs.VersionOrder
import TrustRoots.Provider.Basic
import TrustRoots.Provider.Callers
import TrustRoots.Provider.Locked
import TrustRoots.Provider.Session
import TrustRoots.Resource.ApiRoots
import TrustRoots.Resource.Bundled
import TrustRoots.Resource.Scripted
import TrustRoots.Resource.Source
import TrustRoots.Text.Blank
import TrustRoots.Text.DecimalDigit
import TrustRoots.Text.Utf16
import TrustRoots.Text.Utf8
import TrustRoots.Toml.Document
import TrustRoots.Toml.Layout
import TrustRoots.Toml.Moment
import TrustRoots.Toml.Number
import TrustRoots.Toml.Scalar
import TrustRoots.Toml.Scan
import TrustRoots.Toml.Table
import TrustRoots.Toml.Text
import TrustRoots.Toml.Value
import TrustRoots.TrustStore.Basic
import TrustRoots.TrustStore.Error
import TrustRoots.Version
