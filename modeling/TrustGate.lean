import TrustGate.Attempt
import TrustGate.Bytes.Base64
import TrustGate.Bytes.Hex
import TrustGate.Bytes.Pem
import TrustGate.Bytes.Sha256
import TrustGate.Bytes.Utf8
import TrustGate.Certificate
import TrustGate.CommandLine.Argument
import TrustGate.CommandLine.Reader
import TrustGate.Commands
import TrustGate.Controller
import TrustGate.Der.Element
import TrustGate.Der.ObjectId
import TrustGate.Der.Time
import TrustGate.Disk
import TrustGate.DistinguishedName
import TrustGate.EapMethod
import TrustGate.Evaluation
import TrustGate.Exchange
import TrustGate.Flow
import TrustGate.Gate.Basic
import TrustGate.Gate.Surroundings
import TrustGate.Json.Basic
import TrustGate.Json.Printer
import TrustGate.Json.Reader
import TrustGate.Listing
import TrustGate.Main
import TrustGate.Policy
import TrustGate.Product
import TrustGate.Profile.Basic
import TrustGate.Profile.Json
import TrustGate.Program
import TrustGate.Prompt.Basic
import TrustGate.Prompt.Slot
import TrustGate.Proofs.Exchange
import TrustGate.Proofs.Gate.Effect
import TrustGate.Proofs.Gate.History
import TrustGate.Proofs.Gate.Invariant
import TrustGate.Proofs.Gate.LateAnswers
import TrustGate.Proofs.Gate.Outcomes
import TrustGate.Proofs.Gate.Pinning
import TrustGate.Proofs.Gate.SlotSite
import TrustGate.Proofs.Gate.StoreSite
import TrustGate.Proofs.Gate.Trust
import TrustGate.Proofs.Hex
import TrustGate.Proofs.Store
import TrustGate.Screen.Basic
import TrustGate.Screen.Picture
import TrustGate.Screen.Theme
import TrustGate.Session
import TrustGate.Settings
import TrustGate.Store.Basic
import TrustGate.Store.Folder
import TrustGate.Supplicant.Basic
import TrustGate.Supplicant.StandIn
import TrustGate.Terminal.Area
import TrustGate.Terminal.Canvas
import TrustGate.Terminal.Glyph
import TrustGate.Terminal.Input
import TrustGate.Terminal.Paragraph
import TrustGate.Terminal.Style
import TrustGate.Terminal.Wrap
import TrustGate.Text.Blank
import TrustGate.Text.CharSet
import TrustGate.Text.Decimal
import TrustGate.Text.Grapheme
import TrustGate.Text.Printable
import TrustGate.Text.Quoted
import TrustGate.Text.Template
import TrustGate.Text.Width
import TrustGate.Toml.Reader
import TrustGate.Toml.Scalar
import TrustGate.Toml.Value
import TrustGate.X509.AttributeType
import TrustGate.X509.Certificate
import TrustGate.X509.Name
import TrustGate.Proofs.Gate.Duplicates
import TrustGate.Proofs.Gate.NextAttempt
import TrustGate.Proofs.Gate.Resets
import TrustGate.Proofs.Gate.Standing
import TrustGate.Proofs.Gate.Answering
import TrustGate.Proofs.Utf8
import TrustGate.Proofs.Json.Lexing
import TrustGate.Proofs.Json.Reading
import TrustGate.Proofs.Json.Records
import TrustGate.Proofs.Profile
import TrustGate.Proofs.StoreFile
import TrustGate.Proofs.StoreAtomicity
import TrustGate.Proofs.Blank
import TrustGate.Proofs.AttributeType
import TrustGate.Proofs.DistinguishedName.Splitting
import TrustGate.Proofs.DistinguishedName.Fields
import TrustGate.Proofs.DistinguishedName.Rendering
import TrustGate.Proofs.Controller
import TrustGate.Service
import TrustGate.Proofs.Service.Clients
import TrustGate.Proofs.Service.Order
import TrustGate.Proofs.Gate.ForeignResponses
import TrustGate.Proofs.DistinguishedName.AttributeSets
import TrustGate.Proofs.StoreSharing
import TrustGate.Proofs.Session
import TrustGate.Proofs.Abandonment
import TrustGate.Proofs.DistinguishedName.Grammar
import TrustGate.Proofs.Gate.Certificates
import TrustGate.Proofs.Attempt
import TrustGate.Proofs.Focus
import TrustGate.Proofs.Highlight
import TrustGate.Proofs.KeyAnswers
import TrustGate.Proofs.Evaluation
import TrustGate.Proofs.Base64
import TrustGate.Proofs.Pem
import TrustGate.Proofs.CertificateFile
import TrustGate.Proofs.SlotHistory
import TrustGate.Proofs.Supplicant
import TrustGate.Proofs.StoreReordering
import TrustGate.Proofs.Json.Grammar
import TrustGate.Proofs.ProfileForms
import TrustGate.Proofs.OlderProfiles
import TrustGate.Proofs.Decimal
import TrustGate.Proofs.Addressing
import TrustGate.Proofs.Listing
import TrustGate.Proofs.DistinguishedName.Pieces
