import Hdlc.Main
import Hdlc.Stream.Codec
import Hdlc.Proofs.Content
import Hdlc.Proofs.Segment
import Hdlc.Proofs.RoundTrip
import Hdlc.Proofs.Resync
import Hdlc.Proofs.Sending
import Hdlc.Proofs.Delivery
import Hdlc.Proofs.Draining
import Hdlc.Proofs.Reading
import Hdlc.Proofs.Residue
import Hdlc.Proofs.Burst
import Hdlc.Proofs.Form
import Hdlc.Proofs.BitFlip
import Hdlc.Proofs.Disguise
import Hdlc.Proofs.Limits
import Hdlc.Proofs.Relay
import Hdlc.Proofs.Intake
import Hdlc.Proofs.Selection
import Hdlc.Proofs.Grammar
import Hdlc.Proofs.HexText
import Hdlc.Proofs.Lines
import Hdlc.Proofs.Storage
import Hdlc.Proofs.Records
import Hdlc.Proofs.Commitment
import Hdlc.Proofs.Presentation
import Hdlc.Proofs.Captures
import Hdlc.Proofs.Transparency
import Hdlc.Proofs.Numeration
import Hdlc.Proofs.Offering
import Hdlc.Proofs.Demand
import Hdlc.Proofs.Holding
import Hdlc.Proofs.Sizes
import Hdlc.Proofs.Respelling
import Hdlc.Proofs.Numerals
import Hdlc.Proofs.RecordLines
import Hdlc.Proofs.Discarding
