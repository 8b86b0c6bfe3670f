import AutPlay.Sync.Rows

/-!
# Server events as the client reads them

`RemoteEvent` is what the transport hands to the coordinator, and the accessors are those of the
JSON library: `contentOrNull`, `intOrNull`, … of a primitive.  A read that throws and one that
returns null both end the projection, so that both are `none` here.
-/

set_option linter.unusedSectionVars false

namespace AutPlay.Client
open Sync

/-- `RemoteEvent`; the payload is parsed. -/
structure RemoteEvent where
  eventId : Uuid
  sequence : Int
  eventType : EventType
  schemaVersion : Int
  payload : Payload
  aggregateType : AggregateType
  aggregateServerId : Option Uuid
  serverRowVersion : Option Int
  operation : Operation
  tombstoneId : Option Uuid
  redirectServerId : Option Uuid

/-- `jsonPrimitive.contentOrNull`; no projection reads the text of a fraction. -/
def contentOrNull : Json → Option String
  | .str s => some s
  | .int i => some (toString i)
  | .bool b => some (toString b)
  | _ => none

/-- `payloadString`. -/
def payloadString (root : Payload) (key : String) : Option String :=
  (root.lookup key).bind contentOrNull

/-- `payloadLong`, of a number. -/
def payloadLong (root : Payload) (key : String) : Option Int :=
  match root.lookup key with
  | some (.int i) => some i
  | _ => none

/-- `payloadBoolean`. -/
def payloadBoolean (root : Payload) (key : String) : Option Bool :=
  match root.lookup key with
  | some (.bool b) => some b
  | _ => none

/-- `canonicalUuid`: the text of a UUID as `toString` prints it. -/
def canonicalUuid (s : String) : Option Uuid :=
  if h : isCanonicalUuid s = true then some ⟨s, h⟩ else none

@[simp] theorem canonicalUuid_text (u : Uuid) : canonicalUuid u.text = some u :=
  dif_pos u.canonical

end AutPlay.Client
