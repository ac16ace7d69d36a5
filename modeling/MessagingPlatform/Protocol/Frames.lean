import MessagingPlatform.Core.JsonFields

/-!
# WebSocket frames

A frame carries its payload as a JSON text of its own.  `newFrame` writes it,
`marshalFrame` embeds it in the text of the frame, `unmarshalFrame` cuts it out
again and `parsePayload` reads it into a target.  Names of members that differ
from a field's in case only are found by `foldName`, the folding of package
`encoding/json`, which is a parameter here.
-/

namespace MessagingPlatform.Frames

open JsonStrings JsonText JsonFields

section Payloads

structure ConnectionAck where
  connectionID : String := ""
  heartbeatIntervalMs : Int64 := 0

structure ConnectionClosing where
  reason : String := ""
  code : Int64 := 0

structure Ping where
  timestamp : Int64 := 0

structure Pong where
  timestamp : Int64 := 0

structure SendMessage where
  chatID : String := ""
  clientMessageID : String := ""
  contentType : String := ""
  content : String := ""

structure SendMessageAck where
  clientMessageID : String := ""
  messageID : String := ""
  sequence : UInt64 := 0
  createdAt : Int64 := 0

structure Message where
  messageID : String := ""
  chatID : String := ""
  senderID : String := ""
  clientMessageID : String := ""
  sequence : UInt64 := 0
  contentType : String := ""
  content : String := ""
  createdAt : Int64 := 0

structure Ack where
  chatID : String := ""
  sequence : UInt64 := 0

structure SyncRequest where
  chatID : String := ""
  lastAckedSequence : UInt64 := 0

structure SyncResponse where
  chatID : String := ""
  messages : Option (List Message) := none
  hasMore : Bool := false

structure Error where
  code : String := ""
  message : String := ""
  details : Option StringMap := none

/-- The eleven types of payloads. -/
inductive PayloadKind
  | connectionAck
  | connectionClosing
  | ping
  | pong
  | sendMessage
  | sendMessageAck
  | message
  | ack
  | syncRequest
  | syncResponse
  | error

def PayloadKind.Payload : PayloadKind → Type
  | .connectionAck => ConnectionAck
  | .connectionClosing => ConnectionClosing
  | .ping => Ping
  | .pong => Pong
  | .sendMessage => SendMessage
  | .sendMessageAck => SendMessageAck
  | .message => Message
  | .ack => Ack
  | .syncRequest => SyncRequest
  | .syncResponse => SyncResponse
  | .error => Error

/-- A target that nothing has been read into. -/
def PayloadKind.zero : (kind : PayloadKind) → kind.Payload
  | .connectionAck => ({} : ConnectionAck)
  | .connectionClosing => ({} : ConnectionClosing)
  | .ping => ({} : Ping)
  | .pong => ({} : Pong)
  | .sendMessage => ({} : SendMessage)
  | .sendMessageAck => ({} : SendMessageAck)
  | .message => ({} : Message)
  | .ack => ({} : Ack)
  | .syncRequest => ({} : SyncRequest)
  | .syncResponse => ({} : SyncResponse)
  | .error => ({} : Error)

end Payloads

section Layouts

variable {depth : ℕ}

/-- Deeper texts are refused by package `encoding/json`. -/
def maxNestingDepth : ℕ := 10000

def connectionAckLayout : Layout ConnectionAck depth where
  fields := [
    field "connection_id" string (·.connectionID)
      fun payload value => { payload with connectionID := value },
    field "heartbeat_interval_ms" int64 (·.heartbeatIntervalMs)
      fun payload value => { payload with heartbeatIntervalMs := value }]
  distinct := by simp [field]

def connectionClosingLayout : Layout ConnectionClosing depth where
  fields := [
    field "reason" string (·.reason)
      fun payload value => { payload with reason := value },
    field "code" int64 (·.code)
      fun payload value => { payload with code := value }]
  distinct := by simp [field]

def pingLayout : Layout Ping depth where
  fields := [
    field "timestamp" int64 (·.timestamp)
      fun payload value => { payload with timestamp := value }]
  distinct := by simp

def pongLayout : Layout Pong depth where
  fields := [
    field "timestamp" int64 (·.timestamp)
      fun payload value => { payload with timestamp := value }]
  distinct := by simp

def sendMessageLayout : Layout SendMessage depth where
  fields := [
    field "chat_id" string (·.chatID)
      fun payload value => { payload with chatID := value },
    field "client_message_id" string (·.clientMessageID)
      fun payload value => { payload with clientMessageID := value },
    field "content_type" string (·.contentType)
      fun payload value => { payload with contentType := value },
    field "content" string (·.content)
      fun payload value => { payload with content := value }]
  distinct := by simp [field]

def sendMessageAckLayout : Layout SendMessageAck depth where
  fields := [
    field "client_message_id" string (·.clientMessageID)
      fun payload value => { payload with clientMessageID := value },
    field "message_id" string (·.messageID)
      fun payload value => { payload with messageID := value },
    field "sequence" uint64 (·.sequence)
      fun payload value => { payload with sequence := value },
    field "created_at" int64 (·.createdAt)
      fun payload value => { payload with createdAt := value }]
  distinct := by simp [field]

def messageLayout : Layout Message depth where
  fields := [
    field "message_id" string (·.messageID)
      fun payload value => { payload with messageID := value },
    field "chat_id" string (·.chatID)
      fun payload value => { payload with chatID := value },
    field "sender_id" string (·.senderID)
      fun payload value => { payload with senderID := value },
    field "client_message_id" string (·.clientMessageID)
      fun payload value => { payload with clientMessageID := value },
    field "sequence" uint64 (·.sequence)
      fun payload value => { payload with sequence := value },
    field "content_type" string (·.contentType)
      fun payload value => { payload with contentType := value },
    field "content" string (·.content)
      fun payload value => { payload with content := value },
    field "created_at" int64 (·.createdAt)
      fun payload value => { payload with createdAt := value }]
  distinct := by simp [field]

def ackLayout : Layout Ack depth where
  fields := [
    field "chat_id" string (·.chatID)
      fun payload value => { payload with chatID := value },
    field "sequence" uint64 (·.sequence)
      fun payload value => { payload with sequence := value }]
  distinct := by simp [field]

def syncRequestLayout : Layout SyncRequest depth where
  fields := [
    field "chat_id" string (·.chatID)
      fun payload value => { payload with chatID := value },
    field "last_acked_sequence" uint64 (·.lastAckedSequence)
      fun payload value => { payload with lastAckedSequence := value }]
  distinct := by simp [field]

variable (foldName : String → String)

def messageCodec : Codec Message 1 :=
  messageLayout.codec maxNestingDepth foldName

def syncResponseLayout : Layout SyncResponse 2 where
  fields := [
    field "chat_id" string (·.chatID)
      fun payload value => { payload with chatID := value },
    field "messages" (slice maxNestingDepth {} (messageCodec foldName))
      (·.messages) fun payload value => { payload with messages := value },
    field "has_more" bool (·.hasMore)
      fun payload value => { payload with hasMore := value }]
  distinct := by simp [field]

/-- A map without entries counts as empty, as a nil map does. -/
def isEmptyMap (details : Option StringMap) : Bool :=
  (details.getD ∅).isEmpty

def errorLayout : Layout Error (depth + 1) where
  fields := [
    field "code" string (·.code)
      fun payload value => { payload with code := value },
    field "message" string (·.message)
      fun payload value => { payload with message := value },
    omitEmpty isEmptyMap "details" (stringMap maxNestingDepth) (·.details)
      fun payload value => { payload with details := value }]
  distinct := by simp [field, omitEmpty]

def PayloadKind.layout : (kind : PayloadKind) → Layout kind.Payload 2
  | .connectionAck => connectionAckLayout
  | .connectionClosing => connectionClosingLayout
  | .ping => pingLayout
  | .pong => pongLayout
  | .sendMessage => sendMessageLayout
  | .sendMessageAck => sendMessageAckLayout
  | .message => messageLayout
  | .ack => ackLayout
  | .syncRequest => syncRequestLayout
  | .syncResponse => syncResponseLayout foldName
  | .error => errorLayout

def PayloadKind.codec (kind : PayloadKind) : Codec kind.Payload 3 :=
  (kind.layout foldName).codec maxNestingDepth foldName

end Layouts

section Frames

/-- The payload stays a text; a nil payload is no text. -/
structure Frame where
  type : String := ""
  payload : Option (List Char) := none

/-- What `NewFrame` is given as a payload. -/
inductive Argument (P : Type)
  | nil
  | nilPointer
  | payload (value : P)

variable (foldName : String → String) {kind : PayloadKind}

/-- Writing one of the payload types never fails. -/
def newFrame (frameType : String) : Argument kind.Payload → Frame
  | .nil => { type := frameType, payload := none }
  | .nilPointer => { type := frameType, payload := some null }
  | .payload value =>
      { type := frameType,
        payload := some ((kind.codec foldName).encode value) }

/-- The text of a frame.  An empty payload is left out, and the text of any
other must be valid. -/
def marshalFrame (frame : Frame) : Option (List Char) :=
  let raw := frame.payload.getD []
  if raw = [] then some (object [("type", quote frame.type)])
  else do
    let raw ← compact maxNestingDepth raw
    some (object [("type", quote frame.type), ("payload", raw)])

def frameSlots : List (Slot Frame) := [
  { name := "type",
    read := fun frame raw =>
      (orNull unquote frame.type raw).map ({ frame with type := · }) },
  { name := "payload",
    read := fun frame raw => some { frame with payload := some raw } }]

def unmarshalFrame (text : List Char) : Option Frame :=
  unmarshal maxNestingDepth
    (readRecord maxNestingDepth foldName frameSlots) {} text

def parsePayload (frame : Frame) (target : kind.Payload) :
    Option kind.Payload :=
  match frame.payload with
  | none => some target
  | some raw =>
      unmarshal maxNestingDepth (kind.codec foldName).decode target raw

end Frames

section RoundTrip

/-- Equality of payloads that does not tell a nil map from an empty one. -/
def PayloadKind.Same : (kind : PayloadKind) →
    kind.Payload → kind.Payload → Prop
  | .error, sent, received =>
      Error.code sent = Error.code received ∧
      Error.message sent = Error.message received ∧
      (Error.details sent).getD ∅ = (Error.details received).getD ∅
  | _, sent, received => sent = received

/-- Every target takes all of a record from its fields. -/
def Complete {S : Type} {depth : ℕ} (layout : Layout S depth) : Prop :=
  ∀ sent target, layout.fields.foldlM (restore sent) target = some sent

section Complete

variable {depth : ℕ}

theorem complete_connectionAck :
    Complete (connectionAckLayout : Layout _ depth) := by
  intro sent target
  simp [connectionAckLayout, restore_field, restores_string, restores_int64]

theorem complete_connectionClosing :
    Complete (connectionClosingLayout : Layout _ depth) := by
  intro sent target
  simp [connectionClosingLayout, restore_field, restores_string,
    restores_int64]

theorem complete_ping : Complete (pingLayout : Layout _ depth) := by
  intro sent target
  simp [pingLayout, restore_field, restores_int64]

theorem complete_pong : Complete (pongLayout : Layout _ depth) := by
  intro sent target
  simp [pongLayout, restore_field, restores_int64]

theorem complete_sendMessage :
    Complete (sendMessageLayout : Layout _ depth) := by
  intro sent target
  simp [sendMessageLayout, restore_field, restores_string]

theorem complete_sendMessageAck :
    Complete (sendMessageAckLayout : Layout _ depth) := by
  intro sent target
  simp [sendMessageAckLayout, restore_field, restores_string, restores_int64,
    restores_uint64]

theorem complete_message : Complete (messageLayout : Layout _ depth) := by
  intro sent target
  simp [messageLayout, restore_field, restores_string, restores_int64,
    restores_uint64]

theorem complete_ack : Complete (ackLayout : Layout _ depth) := by
  intro sent target
  simp [ackLayout, restore_field, restores_string, restores_uint64]

theorem complete_syncRequest :
    Complete (syncRequestLayout : Layout _ depth) := by
  intro sent target
  simp [syncRequestLayout, restore_field, restores_string, restores_uint64]

end Complete

variable (foldName : String → String)

theorem restores_message : (messageCodec foldName).Restores := by
  intro target message
  rw [messageCodec, Layout.decode_encode _ (Nat.zero_le _)]
  exact complete_message message target

theorem complete_syncResponse : Complete (syncResponseLayout foldName) := by
  have hmessages :
      (slice maxNestingDepth {} (messageCodec foldName)).Restores :=
    restores_slice (restores_message foldName) (by decide)
  intro sent target
  simp [syncResponseLayout, restore_field, restores_string, restores_bool,
    hmessages]

/-- Details are read into a nil map, or left nil. -/
theorem restore_error (depth : ℕ) (sent : Error) :
    ∃ details,
      (errorLayout : Layout _ (depth + 1)).fields.foldlM (restore sent) {} =
        some { sent with details := details } ∧
      sent.details.getD ∅ = details.getD ∅ := by
  cases hempty : isEmptyMap sent.details with
  | true =>
      refine ⟨none, ?_, Std.ExtTreeMap.isEmpty_iff.mp hempty⟩
      simp [errorLayout, restore_field, restores_string,
        restore_omitEmpty_of_empty hempty]
  | false =>
      obtain ⟨entries, hentries⟩ : ∃ entries, sent.details = some entries := by
        cases hdetails : sent.details with
        | none =>
            rw [hdetails] at hempty
            cases hempty
        | some entries => exact ⟨entries, rfl⟩
      have hread : (stringMap maxNestingDepth : Codec _ (depth + 1)).decode none
          ((stringMap maxNestingDepth : Codec _ (depth + 1)).encode
            sent.details) = some (some entries) := by
        rw [hentries]
        exact decode_stringMap entries
      refine ⟨some entries, ?_, by rw [hentries]⟩
      simp [errorLayout, restore_field, restores_string,
        restore_omitEmpty hempty, hread]

/-- A payload is taken over by a target that nothing has been read into. -/
theorem restores_payload (kind : PayloadKind) (sent : kind.Payload) :
    ∃ received,
      (kind.layout foldName).fields.foldlM (restore sent) kind.zero =
        some received ∧ kind.Same sent received := by
  cases kind with
  | connectionAck => exact ⟨sent, complete_connectionAck _ _, rfl⟩
  | connectionClosing => exact ⟨sent, complete_connectionClosing _ _, rfl⟩
  | ping => exact ⟨sent, complete_ping _ _, rfl⟩
  | pong => exact ⟨sent, complete_pong _ _, rfl⟩
  | sendMessage => exact ⟨sent, complete_sendMessage _ _, rfl⟩
  | sendMessageAck => exact ⟨sent, complete_sendMessageAck _ _, rfl⟩
  | message => exact ⟨sent, complete_message _ _, rfl⟩
  | ack => exact ⟨sent, complete_ack _ _, rfl⟩
  | syncRequest => exact ⟨sent, complete_syncRequest _ _, rfl⟩
  | syncResponse => exact ⟨sent, complete_syncResponse foldName _ _, rfl⟩
  | error =>
      obtain ⟨details, hrestore, hdetails⟩ := restore_error 1 sent
      exact ⟨_, hrestore, rfl, rfl, hdetails⟩

/-- A frame whose payload is a value of its own comes back unchanged. -/
theorem unmarshal_marshal {frame : Frame} {depth : ℕ}
    (hdepth : depth + 1 ≤ maxNestingDepth)
    (hpayload : ∀ raw, frame.payload = some raw → Value depth raw) :
    ∃ text, marshalFrame frame = some text ∧
      unmarshalFrame foldName text = some frame := by
  have htype : Value depth (quote frame.type) :=
    (value_quote frame.type).mono (Nat.zero_le _)
  have hread : orNull unquote "" (quote frame.type) = some frame.type :=
    orNull_of_read quote_ne_null unquote_quote "" frame.type
  cases hraw : frame.payload with
  | none =>
      have hmembers : ∀ entry ∈ [("type", quote frame.type)],
          Value depth entry.2 := by
        simpa using htype
      refine ⟨object [("type", quote frame.type)], ?_, ?_⟩
      · simp [marshalFrame, hraw]
      · rw [unmarshalFrame, unmarshal_of_value (value_object hmembers) hdepth,
          readRecord_object hmembers (by omega)]
        simp [readInto, findSlot, frameSlots, hread, ← hraw]
  | some raw =>
      have hvalue := hpayload raw hraw
      obtain ⟨c, hopens⟩ := hvalue.opens
      have hne : raw ≠ [] := by
        rintro rfl
        cases hopens.head
      have hmembers : ∀ entry ∈ [("type", quote frame.type), ("payload", raw)],
          Value depth entry.2 := by
        simpa using ⟨htype, hvalue⟩
      refine ⟨object [("type", quote frame.type), ("payload", raw)], ?_, ?_⟩
      · simp [marshalFrame, hraw, hne,
          hvalue.compact (show depth ≤ maxNestingDepth by omega)]
      · rw [unmarshalFrame, unmarshal_of_value (value_object hmembers) hdepth,
          readRecord_object hmembers (by omega)]
        simp [readInto, findSlot, frameSlots, hread, ← hraw]

variable {kind : PayloadKind}

/-- The payload of a new frame is a value. -/
theorem value_newFrame (frameType : String) (argument : Argument kind.Payload)
    (raw : List Char)
    (hraw : (newFrame foldName frameType argument).payload = some raw) :
    Value 3 raw := by
  cases argument with
  | nil => cases hraw
  | nilPointer =>
      cases hraw
      exact value_null.mono (Nat.zero_le _)
  | payload value =>
      cases hraw
      exact (kind.codec foldName).value value

/-- What a zero target holds after a payload arrived. -/
def Arrives (argument : Argument kind.Payload) (received : kind.Payload) :
    Prop :=
  match argument with
  | .nil => received = kind.zero
  | .nilPointer => received = kind.zero
  | .payload sent => kind.Same sent received

theorem parsePayload_newFrame (frameType : String)
    (argument : Argument kind.Payload) :
    ∃ received, parsePayload foldName (newFrame foldName frameType argument)
        kind.zero = some received ∧ Arrives argument received := by
  cases argument with
  | nil => exact ⟨kind.zero, rfl, rfl⟩
  | nilPointer =>
      refine ⟨kind.zero, ?_, rfl⟩
      change unmarshal maxNestingDepth _ _ null = _
      rw [unmarshal_of_value value_null (Nat.zero_le _)]
      rfl
  | payload sent =>
      obtain ⟨received, hrestore, hsame⟩ := restores_payload foldName kind sent
      refine ⟨received, ?_, hsame⟩
      change unmarshal maxNestingDepth _ _ ((kind.codec foldName).encode sent) =
        _
      rw [unmarshal_of_value ((kind.codec foldName).value sent) (by decide),
        PayloadKind.codec, Layout.decode_encode _ (by decide), hrestore]

/-- Frames survive the wire: the text of every frame is read back as a frame of
the same type, from which a zero target takes an equal payload. -/
theorem frame_arrives (frameType : String) (argument : Argument kind.Payload) :
    ∃ text frame received,
      marshalFrame (newFrame foldName frameType argument) = some text ∧
      unmarshalFrame foldName text = some frame ∧
      frame.type = frameType ∧
      parsePayload foldName frame kind.zero = some received ∧
      Arrives argument received := by
  obtain ⟨text, hmarshal, hunmarshal⟩ :=
    unmarshal_marshal foldName (show 3 + 1 ≤ maxNestingDepth by decide)
      (value_newFrame foldName frameType argument)
  obtain ⟨received, hparse, harrives⟩ :=
    parsePayload_newFrame foldName frameType argument
  refine ⟨text, _, received, hmarshal, hunmarshal, ?_, hparse, harrives⟩
  cases argument <;> rfl

example :
    let argument : Argument PayloadKind.pong.Payload := .payload (Pong.mk (-7))
    (marshalFrame (newFrame id "pong" argument)).map String.ofList =
      some r#"{"type":"pong","payload":{"timestamp":-7}}"# := by
  decide +kernel

end RoundTrip

end MessagingPlatform.Frames
