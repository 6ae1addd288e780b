import TlsHandshake.Diagnostic.Views
import TlsHandshake.Memory.Bench
import TlsHandshake.Memory.Pair
import TlsHandshake.Memory.Tamper
import TlsHandshake.Proofs.Authentication
import TlsHandshake.Proofs.ChainEncoding
import TlsHandshake.Proofs.Link.Agreement
import TlsHandshake.Proofs.Link.Completeness
import TlsHandshake.Proofs.Link.KeysInStep
import TlsHandshake.Proofs.Handshakes
import TlsHandshake.Proofs.Order
import TlsHandshake.Proofs.TranscriptLog
import TlsHandshake.Proofs.Excuses
import TlsHandshake.Proofs.Link.Reliance
import TlsHandshake.Proofs.InternalErrors
import TlsHandshake.Proofs.Suspension
import TlsHandshake.Proofs.KeyUpdateLimit
import TlsHandshake.Proofs.Link.Traffic
import TlsHandshake.Proofs.Link.Quiescence
import TlsHandshake.Proofs.Signer.Slow
import TlsHandshake.Proofs.Relaxed
import TlsHandshake.Proofs.AfterSuccess
import TlsHandshake.Proofs.Retention
import TlsHandshake.Proofs.LeafKeys
import TlsHandshake.Proofs.ExtensionBlocks
import TlsHandshake.Proofs.ExtensionOrder
import TlsHandshake.Proofs.Rejection
import TlsHandshake.Proofs.SavedFinished
import TlsHandshake.Proofs.VerifyEncoding
import TlsHandshake.Proofs.TimestampLists
import TlsHandshake.Proofs.Signer.CommonScheme
import TlsHandshake.Proofs.Consumption
import TlsHandshake.Proofs.SignatureInputs
import TlsHandshake.Proofs.LeafCertificate
