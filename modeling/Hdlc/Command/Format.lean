import Hdlc.Frame
import Hdlc.Octets
import Hdlc.Text.Hex
import Hdlc.Text.Record
import Hdlc.Text.Table

/-!
# Output formats

How decoded frames, rejections and encoded frames are shown in each format. JSON output is one
compact object on a line for each of them; raw output is the bare octets, and rejections have none.
Payloads that are no text are shown by their size.
-/

namespace Hdlc.Command

/-- The formats of standard output. -/
inductive Format
  | json
  | table
  | pretty
  | raw
  deriving DecidableEq, Repr

/-- What decoding puts out, in the order of the stream. -/
inductive Emission
  | frame (frame : Frame)
  | rejection (reason : Rejection)
  deriving DecidableEq, Repr

namespace Format

/-- The name of the schema that a kind of JSON output follows. -/
def schema (kind : String) : Text.Scalar :=
  .text ("https://schemas.3leaps.dev/hdlcprims/cli/v1/" ++ kind ++ ".schema.json")

def line (text : String) : Octets :=
  Text.utf8 (text ++ "\n")

/-- A table of one row with the given headers and texts. -/
def boxed (columns : List (String × String)) : Octets :=
  Text.utf8 (Text.table (columns.map fun (header, text) => .ofText header text))

/-- A payload as it is shown among other fields. -/
def payloadText (payload : Octets) : String :=
  (Text.ofUtf8? payload).getD s!"<binary {payload.length} bytes>"

def namedAddress (address : UInt64) : String :=
  toString address.toNat ++ " (" ++ Address.name address ++ ")"

def namedControl (control : Control) : String :=
  Text.hexOctet control.octet ++ " (" ++ control.name ++ ")"

def frameRecord (timestamp : String) (frame : Frame) : Text.Record :=
  [("schema_id", schema "frame-decoded"),
    ("address", .number frame.address.toNat),
    ("address_name", .text (Address.name frame.address)),
    ("control", .number frame.control.octet.toNat),
    ("control_name", .text frame.control.name),
    ("payload_size", .number frame.payload.length),
    ("payload", .text (payloadText frame.payload)),
    ("timestamp", .text timestamp)]

def rejectionRecord (timestamp : String) (reason : Rejection) : Text.Record :=
  [("schema_id", schema "frame-rejected"),
    ("error", .text reason.message),
    ("timestamp", .text timestamp)]

def encodedRecord (frame : Frame) (wire : Octets) : Text.Record :=
  [("schema_id", schema "frame-encoded"),
    ("address", .number frame.address.toNat),
    ("control", .number frame.control.octet.toNat),
    ("payload_size", .number frame.payload.length),
    ("wire_size", .number wire.length),
    ("wire", .text (Text.hex wire))]

def showFrame (format : Format) (timestamp : String) (frame : Frame) : Octets :=
  match format with
  | json => line (frameRecord timestamp frame).toJson
  | table =>
      boxed [("ADDRESS", namedAddress frame.address), ("CONTROL", namedControl frame.control),
        ("SIZE", toString frame.payload.length), ("PAYLOAD", payloadText frame.payload)]
  | pretty =>
      line ("address=" ++ namedAddress frame.address ++ " control=" ++
        namedControl frame.control ++ " size=" ++ toString frame.payload.length ++
        " payload=" ++ payloadText frame.payload)
  | raw => frame.payload

def showRejection (format : Format) (timestamp : String) (reason : Rejection) : Octets :=
  match format with
  | json => line (rejectionRecord timestamp reason).toJson
  | table => line ("rejected: " ++ reason.message)
  | pretty => line ("rejected: " ++ reason.message)
  | raw => []

def showEmission (format : Format) (timestamp : String) : Emission → Octets
  | .frame frame => format.showFrame timestamp frame
  | .rejection reason => format.showRejection timestamp reason

def showEncoded (format : Format) (frame : Frame) (wire : Octets) : Octets :=
  match format with
  | json => line (encodedRecord frame wire).toJson
  | table =>
      boxed [("ADDRESS", toString frame.address.toNat),
        ("CONTROL", Text.hexOctet frame.control.octet),
        ("SIZE", toString wire.length), ("WIRE", Text.hex wire)]
  | pretty => line (Text.hex wire)
  | raw => wire

end Format

end Hdlc.Command
