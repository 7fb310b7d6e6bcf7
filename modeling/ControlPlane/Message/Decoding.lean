import ControlPlane.Json.Decoding
import ControlPlane.Json.Record
import ControlPlane.Message.Basic
import ControlPlane.SystemError

/-!
# Reading messages

A frame is read in three steps: the envelope from the text, then the version, and only then the
body. So a peer that speaks another version is told so whatever the body looks like.

Tagged values are accepted as an object, with the tag anywhere among its members, or as an array
that begins with the tag. The array of a change may give the place of its content instead of the
name.

## Main definitions

- `ProtocolError`: why a frame gives no message, or a connection no frame.
- `Envelope.ofFrame`: the envelope of a frame.
- `ConfigMessage.decode`, `StreamConfig.decode`, `OutputEvent.decode`: messages of frames.
-/

namespace ControlPlane

/-- Why a frame gives no message, or a connection no frame. -/
inductive ProtocolError
  /-- The frame is no text of the right shape. -/
  | json (fault : Json.Fault)
  | unsupportedVersion (found expected : Nat)
  /-- The connection or the framing failed. -/
  | stream (source : SystemError)
  /-- The connection ended before a frame. -/
  | closed
deriving DecidableEq

/-- The text of an error. -/
def ProtocolError.message : ProtocolError → String
  | .json fault => "invalid message body: " ++ fault.message
  | .unsupportedVersion found expected =>
    "unsupported protocol version " ++ toString found ++ " (expected " ++ toString expected ++ ")"
  | .stream e => "frame I/O error: " ++ e.message
  | .closed => "connection closed before a message was received"

open Json (Mismatch Slot LengthWording Reader)

/-! ## The envelope -/

/-- A version and a body. -/
structure Envelope where
  version : Nat
  body : Json
deriving DecidableEq

/-- The fields of an envelope that have been read. -/
structure Envelope.Partial where
  version : Option Nat := none
  body : Option Json := none

/-- The fields of an envelope, in their order. The body nests one level less than a whole text. -/
def Envelope.fields : List (Json.Field Envelope.Partial) :=
  [{ key := "version", optional := false, filled := (·.version.isSome)
     read := fun p input =>
       (Json.readUnsigned 16 input).map fun (n, rest) => ({ p with version := some n }, rest) },
   { key := "body", optional := false, filled := (·.body.isSome)
     read := fun p input =>
       (Json.readValue (Json.maxLevels - 1) input).map fun (v, rest) =>
         ({ p with body := some v }, rest) }]

/-- An envelope at the front of a text. -/
def Envelope.read : Reader Envelope := fun input =>
  (Json.readRecord "struct Envelope" Envelope.fields {} input).map fun (p, rest) =>
    (⟨p.version.getD 0, p.body.getD .null⟩, rest)

/-- The envelope of a frame. -/
def Envelope.ofFrame (frame : List UInt8) : Except Json.Fault Envelope :=
  Json.ofText Envelope.read frame

/-! ## Bodies -/

/-- A query id. -/
def QueryId.slot : Slot QueryId where
  key := "qid"
  decode v := (Json.asUnsigned 64 v).map UInt64.ofNat

/-- A compiled half; `record` is what messages call it. -/
def CompiledQuery.ofJson (wording : LengthWording) (record : String) (v : Json) :
    Except Mismatch CompiledQuery :=
  (Json.asRecord₂ wording record QueryId.slot ⟨"expr", Json.asText⟩ v).map fun (id, expr) =>
    ⟨id, expr⟩

/-- What messages call the halves for each plane. -/
def CompiledQuery.recordName : Plane → String
  | .data => "struct CompiledDpQuery"
  | .stream => "struct CompiledSpQuery"

/-- A list of compiled halves for a plane. -/
def CompiledQuery.listOfJson (wording : LengthWording) (plane : Plane) (v : Json) :
    Except Mismatch (List CompiledQuery) :=
  Json.asList (CompiledQuery.ofJson wording (CompiledQuery.recordName plane)) v

/-- A configuration of the streaming manager. -/
def StreamConfig.ofJson (v : Json) : Except Mismatch StreamConfig :=
  (Json.asRecord₁ .fewer "struct StreamConfig"
    ⟨"queries", CompiledQuery.listOfJson .fewer .stream⟩ v).map StreamConfig.mk

/-- An event; `wording` depends on whether it stands inside a tagged value. -/
def OutputEvent.ofJson (wording : LengthWording) (v : Json) : Except Mismatch OutputEvent :=
  (Json.asRecord₂ wording "struct OutputEvent" QueryId.slot ⟨"payload", .ok⟩ v).map
    fun (id, payload) => ⟨id, payload⟩

/-- The two contents of a change. -/
inductive DeltaContent.Tag
  | queries
  | output
deriving DecidableEq

/-- The content that a name stands for. -/
def DeltaContent.Tag.ofName (name : String) : Except Mismatch DeltaContent.Tag :=
  if name = "queries" then .ok .queries
  else if name = "output" then .ok .output
  else .error (.unknownVariant name ["queries", "output"])

/-- The content that a number stands for: its place among the contents. -/
def DeltaContent.Tag.ofIndex (n : Int) : Except Mismatch DeltaContent.Tag :=
  if n = 0 then .ok .queries
  else if n = 1 then .ok .output
  else if n < 0 then .error (.invalidType (.int n) "variant identifier")
  else .error (.invalidValue (.int n) "variant index 0 <= i < 2")

/-- The content that the first item of an array stands for: its name or its place. -/
def DeltaContent.Tag.ofItem : Json → Except Mismatch DeltaContent.Tag
  | .string name => DeltaContent.Tag.ofName name
  | .number (.int n) => DeltaContent.Tag.ofIndex n
  | v => .error (.invalidType v.found "variant identifier")

/-- The content that the member of an object stands for: its name, or an object with the name as
its only key and nothing as its value. -/
def DeltaContent.Tag.ofMember : Json → Except Mismatch DeltaContent.Tag
  | .string name => DeltaContent.Tag.ofName name
  | .object [(name, v)] =>
    match DeltaContent.Tag.ofName name with
    | .error e => .error e
    | .ok tag =>
      match v with
      | .null => .ok tag
      | .object [] => .ok tag
      | v => .error (.invalidType v.found "unit")
  | .object _ => .error (.invalidValue .map "map with a single key")
  | v => .error (.invalidType v.found "string or map")

/-- A content of a known kind. -/
def DeltaContent.ofTagged (tag : DeltaContent.Tag) (v : Json) : Except Mismatch DeltaContent :=
  match tag with
  | .queries => (CompiledQuery.listOfJson .exactly .data v).map .queries
  | .output => (OutputEvent.ofJson .exactly v).map .output

/-- What messages call a change. -/
def DeltaContent.recordName : String := "adjacently tagged enum DeltaContent"

/-- A change. A missing tag is reported before a missing content. -/
def DeltaContent.ofJson : Json → Except Mismatch DeltaContent
  | .object members =>
    match (Json.object members).member? "type", (Json.object members).member? "content" with
    | none, _ => .error (.missingField "type")
    | some t, content =>
      match DeltaContent.Tag.ofMember t, content with
      | .error e, _ => .error e
      | .ok _, none => .error (.missingField "content")
      | .ok tag, some v => DeltaContent.ofTagged tag v
  | .array [] => .error (.invalidLength 0 DeltaContent.recordName)
  | .array [t] =>
    match DeltaContent.Tag.ofItem t with
    | .error e => .error e
    | .ok _ => .error (.invalidLength 1 DeltaContent.recordName)
  | .array (t :: v :: rest) =>
    match DeltaContent.Tag.ofItem t with
    | .error e => .error e
    | .ok tag =>
      match DeltaContent.ofTagged tag v with
      | .error e => .error e
      | .ok content =>
        if rest.isEmpty then .ok content
        else .error (.invalidLength (rest.length + 2) (LengthWording.exactly.text 2))
  | v => .error (.invalidType v.found DeltaContent.recordName)

/-- The two kinds of messages to the fabric manager. -/
inductive ConfigMessage.Tag
  | init
  | delta
deriving DecidableEq

/-- The kind that a tag stands for. -/
def ConfigMessage.Tag.ofJson : Json → Except Mismatch ConfigMessage.Tag
  | .string name =>
    if name = "init" then .ok .init
    else if name = "delta" then .ok .delta
    else .error (.unknownVariant name ["init", "delta"])
  | v => .error (.invalidType v.found "variant identifier")

/-- A message of a known kind, from what stands beside the tag. -/
def ConfigMessage.ofTagged (tag : ConfigMessage.Tag) (v : Json) : Except Mismatch ConfigMessage :=
  match tag with
  | .init =>
    (Json.asRecord₁ .exactly "struct variant ConfigMessage::Init"
      ⟨"queries", CompiledQuery.listOfJson .exactly .data⟩ v).map .init
  | .delta =>
    (Json.asRecord₁ .exactly "struct variant ConfigMessage::Delta"
      ⟨"delta", DeltaContent.ofJson⟩ v).map .delta

/-- A message to the fabric manager. -/
def ConfigMessage.ofJson : Json → Except Mismatch ConfigMessage
  | .object members =>
    match (Json.object members).member? "kind" with
    | none => .error (.missingField "kind")
    | some t =>
      match ConfigMessage.Tag.ofJson t with
      | .error e => .error e
      | .ok tag => ConfigMessage.ofTagged tag (.object members)
  | .array [] => .error (.missingField "kind")
  | .array (t :: rest) =>
    match ConfigMessage.Tag.ofJson t with
    | .error e => .error e
    | .ok tag => ConfigMessage.ofTagged tag (.array rest)
  | v => .error (.invalidType v.found "internally tagged enum ConfigMessage")

/-! ## Frames -/

/-- The message that `ofBody` finds in the body of a frame. -/
def decodeWith {α : Type} (ofBody : Json → Except Mismatch α) (frame : List UInt8) :
    Except ProtocolError α :=
  match Envelope.ofFrame frame with
  | .error fault => .error (.json fault)
  | .ok envelope =>
    if envelope.version ≠ protocolVersion then
      .error (.unsupportedVersion envelope.version protocolVersion)
    else
      match ofBody envelope.body with
      | .error e => .error (.json (.mismatch e))
      | .ok message => .ok message

/-- A message to the fabric manager. -/
def ConfigMessage.decode : List UInt8 → Except ProtocolError ConfigMessage :=
  decodeWith ConfigMessage.ofJson

/-- A message to the streaming manager. -/
def StreamConfig.decode : List UInt8 → Except ProtocolError StreamConfig :=
  decodeWith StreamConfig.ofJson

/-- An event of the stream plane. -/
def OutputEvent.decode : List UInt8 → Except ProtocolError OutputEvent :=
  decodeWith (OutputEvent.ofJson .fewer)

end ControlPlane
