import AuthSigner.Bytes.Stream
import AuthSigner.Main
import AuthSigner.Proofs.FailureAtomicity
import AuthSigner.Proofs.SignedText
import AuthSigner.Proofs.CanonicalEnvelopes
import AuthSigner.Proofs.Reencoding
import AuthSigner.Proofs.ByteSplice
import AuthSigner.Proofs.PayloadInjectivity
import AuthSigner.Proofs.SpacedText
import AuthSigner.Proofs.EnvelopeLayout
import AuthSigner.Proofs.SigningSplice
import AuthSigner.Proofs.ReplayProtection
import AuthSigner.Proofs.SelfDelimiting
import AuthSigner.Proofs.LastSigning
import AuthSigner.Proofs.SteadyFormats
import AuthSigner.Proofs.IndependentWalks
import AuthSigner.Proofs.EntryIndependence
import AuthSigner.Proofs.LibrarySessions
import AuthSigner.Proofs.RunMeaning
import AuthSigner.Proofs.SolidReading
import AuthSigner.Proofs.EntryEnumeration
import AuthSigner.Proofs.StoredProofs
import AuthSigner.Proofs.PresentNames
import AuthSigner.Proofs.NetworkChoice
import AuthSigner.Proofs.CommandItems
import AuthSigner.Proofs.CommandSyntax
import AuthSigner.Proofs.CommandLine
import AuthSigner.Proofs.AmbientItems
import AuthSigner.Proofs.OptionSources
import AuthSigner.Proofs.LowercaseLaws
import AuthSigner.Proofs.NetworkNames
import AuthSigner.Proofs.EditAgreement
import AuthSigner.Proofs.SigningTranscript
import AuthSigner.Proofs.PositionalTexts
import AuthSigner.Proofs.Base32Laws
import AuthSigner.Proofs.ChecksumLaws
import AuthSigner.Proofs.KeyTexts
import AuthSigner.Proofs.HexLaws
import AuthSigner.Proofs.SecretSpellings
