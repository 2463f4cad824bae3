import Gatehouse.Fault
import Gatehouse.Json.Parser
import Gatehouse.Json.Printer
import Gatehouse.Text.Encoding

/-!
The compact form of a signed token: header, payload and signature in URL-safe base 64 with dots
between them. `Compact.read` takes a text apart at its first and its last dot and decodes all
three parts.
-/
namespace Gatehouse
open Text

/-- A token taken apart, with its signature not yet checked. -/
structure Compact where
  header : Members
  /-- The text that the signature covers. -/
  signed : List Char
  payload : List UInt8
  signature : List UInt8

inductive CompactError where
  | malformed
  | tooDeep
  deriving DecidableEq, Repr

namespace Compact
variable [Platform]

/-- The bytes of a part. -/
def segment (cs : List Char) : Except CompactError (List UInt8) :=
  match Platform.readPart? cs with
  | some bs => .ok bs
  | none => .error .malformed

def object (bs : List UInt8) : Except CompactError Members :=
  match decodeDetected bs with
  | none => .error .malformed
  | some cs =>
    match Json.parse cs with
    | .ok (.object ms) => .ok ms
    | .ok _ => .error .malformed
    | .error .tooDeep => .error .tooDeep
    | .error _ => .error .malformed

/-- A key id, where there is one, must be a text. -/
def keyIdOk (header : Members) : Bool :=
  match header.get? "kid" with
  | none => true
  | some (.text _) => true
  | some _ => false

/-- Critical extensions, where they are listed, must be a list of the known one, and the header
must hold it. -/
def criticalOk (header : Members) : Bool :=
  match header.get? "crit" with
  | none => true
  | some (.array items) =>
    !items.isEmpty && items.all fun v =>
      match v with
      | .text s => s == "b64" && (header.get? "b64").isSome
      | _ => false
  | some _ => false

/-- The header says that the payload travels apart. -/
def isDetached (header : Members) : Bool :=
  match header.get? "b64" with
  | some (.bool false) => true
  | _ => false

/-- Takes a text apart. -/
def read (cs : List Char) : Except CompactError Compact :=
  match cutLast '.' cs with
  | none => .error .malformed
  | some (signed, signaturePart) =>
    match cutFirst '.' signed with
    | none => .error .malformed
    | some (headerPart, payloadPart) => do
      let headerBytes ← segment headerPart
      let header ← object headerBytes
      if isDetached header && !payloadPart.isEmpty then .error .malformed
      else
        let payload ← segment payloadPart
        let signature ← segment signaturePart
        if keyIdOk header && criticalOk header then .ok ⟨header, signed, payload, signature⟩
        else .error .malformed

/-- A JSON object as a part of a token. -/
def part (ms : Members) : List Char :=
  Base64Url.encode (Utf8.encode (Json.print (.object ms)))

/-- The text of a token from its signed text and its signature. -/
def write (signed : List Char) (signature : List UInt8) : String :=
  String.ofList (signed ++ '.' :: Base64Url.encode signature)

end Compact

end Gatehouse
