import ControlPlane.Json.Printer
import ControlPlane.Query.Basic

/-!
# Messages between the planes

The fabric manager receives one initial configuration and then changes to it. The streaming manager
receives its whole configuration each time. The stream plane sends back the results of its queries.
Each message is a JSON value, wrapped together with the version of the protocol.

## Main definitions

- `ConfigMessage`, `DeltaContent`: what the fabric manager receives.
- `StreamConfig`: what the streaming manager receives.
- `OutputEvent`: what the stream plane sends back.
- `Message`: the three of them, with their frames.
-/

namespace ControlPlane

/-- A result that the stream plane reports for one query. -/
structure OutputEvent where
  id : QueryId
  payload : Json
deriving DecidableEq

/-- A change to the configuration of the fabric manager. -/
inductive DeltaContent
  /-- More compiled halves. -/
  | queries (queries : List CompiledQuery)
  /-- A result of the stream plane. -/
  | output (event : OutputEvent)
deriving DecidableEq

/-- A message to the fabric manager. -/
inductive ConfigMessage
  /-- The whole configuration. -/
  | init (queries : List CompiledQuery)
  | delta (content : DeltaContent)
deriving DecidableEq

/-- A message to the streaming manager: its whole configuration. -/
structure StreamConfig where
  queries : List CompiledQuery
deriving DecidableEq

/-- The version of the protocol. -/
def protocolVersion : Nat := 1

/-- The compiled half as a value. -/
def CompiledQuery.toJson (q : CompiledQuery) : Json :=
  .object [("qid", .ofNat q.id.toNat), ("expr", .string q.expr)]

/-- A list of compiled halves as a value. -/
def CompiledQuery.listToJson (queries : List CompiledQuery) : Json :=
  .array (queries.map toJson)

/-- The event as a value. -/
def OutputEvent.toJson (e : OutputEvent) : Json :=
  .object [("qid", .ofNat e.id.toNat), ("payload", e.payload)]

/-- The change as a value: what it is, then its content. -/
def DeltaContent.toJson : DeltaContent → Json
  | .queries qs =>
    .object [("type", .string "queries"), ("content", CompiledQuery.listToJson qs)]
  | .output event => .object [("type", .string "output"), ("content", event.toJson)]

/-- The message as a value: its kind, then its content. -/
def ConfigMessage.toJson : ConfigMessage → Json
  | .init qs => .object [("kind", .string "init"), ("queries", CompiledQuery.listToJson qs)]
  | .delta content => .object [("kind", .string "delta"), ("delta", content.toJson)]

/-- The name of the kind of a message. -/
def ConfigMessage.kindName : ConfigMessage → String
  | .init _ => "init"
  | .delta _ => "delta"

/-- The configuration as a value. -/
def StreamConfig.toJson (c : StreamConfig) : Json :=
  .object [("queries", CompiledQuery.listToJson c.queries)]

/-- A body with the version of the protocol around it. -/
def envelope (body : Json) : Json :=
  .object [("version", .ofNat protocolVersion), ("body", body)]

/-- The frame that carries a body. -/
def encodeBody (body : Json) : List UInt8 := Json.print (envelope body)

/-- The frame that carries a message to the fabric manager. -/
def ConfigMessage.encode (m : ConfigMessage) : List UInt8 := encodeBody m.toJson

/-- The frame that carries a message to the streaming manager. -/
def StreamConfig.encode (c : StreamConfig) : List UInt8 := encodeBody c.toJson

/-- The frame that carries an event. -/
def OutputEvent.encode (e : OutputEvent) : List UInt8 := encodeBody e.toJson

end ControlPlane
