import Synapse.Python.Value

/-!
# The JSON-RPC wire

Model of the parser, the projection and the encoders of `transport/protocol.py`. What `json.loads`
makes of a text is a parameter; the tree that it returns is a `Value`.
-/

namespace Synapse.Transport.Wire

def maxNestingDepth : ℕ := 64
def maxStringBytes : ℕ := 1024 * 1024
def maxCollectionItems : ℕ := 4096
def maxIntegerAbs : ℕ := 2 ^ 63 - 1
def maxOutputBytes : ℕ := 8 * 1024 * 1024
def maxCommandIdBytes : ℕ := 256
def maxSubscriptionIdBytes : ℕ := 128
def maxNegotiationVersions : ℕ := 16
def maxVersionTokenBytes : ℕ := 32
def maxClientNameBytes : ℕ := 128
def maxClientVersionBytes : ℕ := 64

def runtimeWireVersion : Text := Text.ofString "1"
def supportedWireVersions : List Text := [runtimeWireVersion]

/-- The id of a request. -/
inductive RequestId where
  | int (value : ℤ)
  | str (value : Text)
  deriving DecidableEq, Repr

def RequestId.value : RequestId → Value
  | .int value => .int true value
  | .str value => .str true value

structure ProtocolError where
  code : ℤ
  serviceCode : Text
  requestId : Option RequestId
  deriving DecidableEq, Repr

def protocolError (code : ℤ) (serviceCode : String) (requestId : Option RequestId) :
    ProtocolError where
  code := code
  serviceCode := Text.ofString serviceCode
  requestId := requestId

structure JsonRpcRequest where
  id : RequestId
  method : Text
  params : Entries
  deriving DecidableEq, Repr

structure Negotiation where
  versions : List Text
  clientName : Option Text
  clientVersion : Option Text
  deriving DecidableEq, Repr

/-! ### Parsing -/

/-- A string that encodes to at most `limit` bytes. -/
def fitsBytes (limit : ℕ) (value : Text) : Bool :=
  value.utf8Size?.any fun size => decide (size ≤ limit)

mutual

/-- `_validate_json_tree` accepts the value. -/
def validTree (depth : ℕ) : Value → Bool
  | .str _ value => decide (depth ≤ maxNestingDepth) && fitsBytes maxStringBytes value
  | .null | .bool _ => decide (depth ≤ maxNestingDepth)
  | .int plain value =>
    decide (depth ≤ maxNestingDepth) && (!plain || decide (value.natAbs ≤ maxIntegerAbs))
  | .float finite _ => decide (depth ≤ maxNestingDepth) && finite
  | .mapping true entries =>
    decide (depth ≤ maxNestingDepth) && decide (entries.length ≤ maxCollectionItems) &&
      validEntries depth entries
  | .sequence items =>
    decide (depth ≤ maxNestingDepth) && decide (items.length ≤ maxCollectionItems) &&
      validItems depth items
  | _ => false

def validItems (depth : ℕ) : Values → Bool
  | .nil => true
  | .cons head tail => validTree (depth + 1) head && validItems depth tail

def validEntries (depth : ℕ) : Entries → Bool
  | .nil => true
  | .cons (.str key) value rest =>
    fitsBytes maxStringBytes key && validTree (depth + 1) value && validEntries depth rest
  | .cons _ _ _ => false

end

/-- What `json.loads` does with a text: a tree, an exception that `parse_request` expects, or a
`RecursionError`. -/
inductive Loaded where
  | tree (value : Value)
  | invalid
  | recursion
  deriving DecidableEq, Repr

/-- `_valid_id`, with the id that it accepts. -/
def validId : Option Value → Option RequestId
  | some (.int true value) =>
    if value.natAbs ≤ maxIntegerAbs then some (.int value) else none
  | some (.str true value) =>
    if (0 : CodePoint) ∉ value ∧ fitsBytes maxCommandIdBytes value then some (.str value)
    else none
  | _ => none

def validMethod : Option Value → Option Text
  | some (.str _ value) =>
    if value ≠ [] ∧ fitsBytes 128 value ∧
        value.all fun point => decide (0x20 ≤ point.val) && decide (point.val ≠ 0x7F) then
      some value
    else none
  | _ => none

/-- `set(value) == expected`. -/
def hasKeys (entries : Entries) (expected : List String) : Bool :=
  let names := expected.map fun name => Key.str (Text.ofString name)
  entries.keys.all (fun key => decide (key ∈ names)) &&
    names.all fun name => decide (name ∈ entries.keys)

def field? (entries : Entries) (name : String) : Option Value :=
  entries.get? (Text.ofString name)

/-- The parser's answer: a request, a `ProtocolError`, or the exception that leaves it. -/
inductive Parsed where
  | request (request : JsonRpcRequest)
  | error (error : ProtocolError)
  | escaped
  deriving DecidableEq, Repr

/-- The id of the request, or the one that the error carries. -/
def Parsed.requestId : Parsed → Option RequestId
  | .request accepted => some accepted.id
  | .error failure => failure.requestId
  | .escaped => none

/-- `parse_request` behind the validation of the tree. -/
def parseTree : Value → Parsed
  | .mapping true entries =>
    let requestId := validId (field? entries "id")
    if hasKeys entries ["jsonrpc", "id", "method", "params"] = false then
      .error (protocolError (-32600) "invalid_request" requestId)
    else if field? entries "jsonrpc" ≠ some (.str true (Text.ofString "2.0")) then
      .error (protocolError (-32600) "invalid_request" requestId)
    else
      match requestId with
      | none => .error (protocolError (-32600) "invalid_request" none)
      | some id =>
        match validMethod (field? entries "method") with
        | none => .error (protocolError (-32600) "invalid_request" (some id))
        | some method =>
          match field? entries "params" with
          | some (.mapping true params) => .request ⟨id, method, params⟩
          | _ => .error (protocolError (-32600) "invalid_request" (some id))
  | _ => .error (protocolError (-32600) "invalid_request" none)

def parseRequest (loads : Text → Loaded) (maxBytes : ℕ) (message : Text) : Parsed :=
  match message.utf8Size? with
  | none => .error (protocolError (-32700) "parse_error" none)
  | some size =>
    if maxBytes < size then .error (protocolError (-32700) "parse_error" none)
    else
      match loads message with
      | .recursion => .escaped
      | .invalid => .error (protocolError (-32700) "parse_error" none)
      | .tree value =>
        if validTree 0 value then parseTree value
        else .error (protocolError (-32700) "parse_error" none)

/-! ### Parameters of the connection's own methods -/

def invalidParams : ProtocolError :=
  protocolError (-32602) "invalid_params" none

/-- `_bounded_text`. -/
def boundedText (maximum : ℕ) : Option Value → Option Text
  | some (.str true value) =>
    if value ≠ [] ∧ (0 : CodePoint) ∉ value ∧ fitsBytes maxStringBytes value ∧
        fitsBytes maximum value then
      some value
    else none
  | _ => none

def isAlphanumeric (point : CodePoint) : Bool :=
  decide (0x30 ≤ point.val ∧ point.val ≤ 0x39) || decide (0x41 ≤ point.val ∧ point.val ≤ 0x5A) ||
    decide (0x61 ≤ point.val ∧ point.val ≤ 0x7A)

/-- `_VERSION_TOKEN` matches the whole text. -/
def isVersionToken : Text → Bool
  | [] => false
  | first :: rest =>
    isAlphanumeric first && rest.all fun point =>
      isAlphanumeric point || decide (point.val ∈ [0x2E, 0x5F, 0x7E, 0x2D])

/-- The loop over the offered versions. -/
def decodeVersions (tokens : List Text) : List Value → Option (List Text)
  | [] => some tokens
  | version :: versions =>
    match boundedText maxVersionTokenBytes (some version) with
    | some token =>
      if isVersionToken token = false ∨ token ∈ tokens then none
      else decodeVersions (tokens ++ [token]) versions
    | none => none

def decodeNegotiation (params : Entries) : Except ProtocolError Negotiation :=
  let fields := params.keys.filter fun key => key ≠ .str (Text.ofString "client")
  match field? params "versions" with
  | some (.sequence versions) =>
    if fields ≠ [.str (Text.ofString "versions")] ∨ versions.toList = [] ∨
        maxNegotiationVersions < versions.length then
      .error invalidParams
    else
      match decodeVersions [] versions.toList with
      | none => .error invalidParams
      | some tokens =>
        match field? params "client" with
        | none => .ok ⟨tokens, none, none⟩
        | some (.mapping true client) =>
          match hasKeys client ["name", "version"],
              boundedText maxClientNameBytes (field? client "name"),
              boundedText maxClientVersionBytes (field? client "version") with
          | true, some name, some version => .ok ⟨tokens, some name, some version⟩
          | _, _, _ => .error invalidParams
        | some _ => .error invalidParams
  | _ => .error invalidParams

def negotiate (versions : List Text) : Option Text :=
  versions.find? fun version => decide (version ∈ supportedWireVersions)

/-- `decode_params` for `runtime.events.unwatch`. -/
def decodeUnwatch (params : Entries) : Except ProtocolError Text :=
  match hasKeys params ["subscription_id"],
      boundedText maxSubscriptionIdBytes (field? params "subscription_id") with
  | true, some subscriptionId => .ok subscriptionId
  | _, _ => .error invalidParams

/-! ### Projection -/

mutual

/-- `_wire`. Any exception is `none`, as `project_result` treats all of them alike. `copied` says
that the value lies inside the result of `dataclasses.asdict`, where dataclasses are dictionaries
already. -/
def wire (copied : Bool) (depth : ℕ) : Value → Option Value
  | .null => if maxNestingDepth < depth then none else some .null
  | .bool value => if maxNestingDepth < depth then none else some (.bool value)
  | .int true value =>
    if maxNestingDepth < depth ∨ maxIntegerAbs < value.natAbs then none
    else some (.int true value)
  | .str true value =>
    if maxNestingDepth < depth ∨ fitsBytes maxStringBytes value = false then none
    else some (.str true value)
  | .float finite literal =>
    if maxNestingDepth < depth ∨ finite = false then none else some (.float finite literal)
  | .record fields =>
    let inner := if copied then depth else depth + 1
    if maxNestingDepth < inner ∨ maxCollectionItems < fields.length then none
    else (wireEntries true inner fields).map (.mapping true)
  | .mapping plain entries =>
    if maxNestingDepth < depth ∨ maxCollectionItems < entries.length then none
    else (wireEntries (copied && plain) depth entries).map (.mapping true)
  | .sequence items =>
    if maxNestingDepth < depth ∨ maxCollectionItems < items.length then none
    else (wireItems copied depth items).map fun projected => .sequence (Values.ofList projected)
  | .set items =>
    if maxNestingDepth < depth ∨ maxCollectionItems < items.length then none
    else
      (wireItems false depth items).bind fun projected =>
        match sortByDump projected with
        | .ok ordered => some (.sequence (Values.ofList ordered))
        | .error _ => none
  | .int false _ | .str false _ | .enumeration _ | .bytes _ | .rendered _ | .cycle | .raising
  | .unknown => none

def wireItems (copied : Bool) (depth : ℕ) : Values → Option (List Value)
  | .nil => some []
  | .cons head tail => do
      let first ← wire copied (depth + 1) head
      let others ← wireItems copied depth tail
      return first :: others

def wireEntries (copied : Bool) (depth : ℕ) : Entries → Option Entries
  | .nil => some .nil
  | .cons key value rest =>
    match key with
    | .str name => do
        let projected ← wire copied (depth + 1) value
        let others ← wireEntries copied depth rest
        return .cons (.str name) projected others
    | _ => none

end

def projectResult (value : Value) : Option Value :=
  wire false 0 value

/-- How an encoder fails: with a `WireProjectionError`, or with the `UnicodeEncodeError` of the
measurement, which is outside the `try` of `_encode`. -/
inductive EncodeError where
  | projection
  | unicode
  deriving DecidableEq, Repr

def encode (payload : Value) : Except EncodeError Text :=
  match payload.dumps true with
  | .error _ => .error .projection
  | .ok text =>
    match text.utf8Size? with
    | none => .error .unicode
    | some size => if maxOutputBytes < size then .error .projection else .ok text

def member (name : String) (value : Value) : Key × Value :=
  (.str (Text.ofString name), value)

def idValue (requestId : Option RequestId) : Value :=
  requestId.elim .null RequestId.value

def jsonrpcVersion : Value := .str true (Text.ofString "2.0")

def metaValue : Value :=
  .mapping true (.ofList [member "wire_version" (.str true runtimeWireVersion)])

def encodeResponse (requestId : Option RequestId) (result : Value) : Except EncodeError Text :=
  match projectResult result with
  | none => .error .projection
  | some projected =>
    encode (.mapping true (.ofList
      [member "jsonrpc" jsonrpcVersion, member "id" (idValue requestId), member "meta" metaValue,
        member "result" projected]))

/-- `_SAFE_MESSAGES.get(code, "internal error")`. -/
def safeMessage (code : ℤ) : String :=
  if code = -32700 then "parse error"
  else if code = -32600 then "invalid request"
  else if code = -32601 then "method not found"
  else if code = -32602 then "invalid params"
  else if code = -32603 then "internal error"
  else if code = -32000 then "runtime service error"
  else if code = -32001 then "transport is busy"
  else if code = -32002 then "wire version is unsupported"
  else if code = -32003 then "protocol version is already selected"
  else "internal error"

def errorObject (code : ℤ) (serviceCode : Text) : Value :=
  .mapping true (.ofList
    [member "code" (.int true code),
      member "message" (.str true (Text.ofString (safeMessage code))),
      member "data" (.mapping true (.ofList [member "service_code" (.str true serviceCode)]))])

def encodeError (requestId : Option RequestId) (code : ℤ) (serviceCode : Text) :
    Except EncodeError Text :=
  encode (.mapping true (.ofList
    [member "jsonrpc" jsonrpcVersion, member "id" (idValue requestId), member "meta" metaValue,
      member "error" (errorObject code serviceCode)]))

def encodeNotification (method : String) (params : Value) : Except EncodeError Text :=
  match projectResult params with
  | none => .error .projection
  | some projected =>
    encode (.mapping true (.ofList
      [member "jsonrpc" jsonrpcVersion, member "meta" metaValue,
        member "method" (.str true (Text.ofString method)), member "params" projected]))

/-- `uuid.uuid4().hex`. -/
def isHexId (value : Text) : Bool :=
  decide (value.length = 32) && value.all fun point =>
    decide (0x30 ≤ point.val ∧ point.val ≤ 0x39) || decide (0x61 ≤ point.val ∧ point.val ≤ 0x66)

/-! ### Encodings that succeed -/

theorem maxIntegerAbs_lt : maxIntegerAbs < 10 ^ maxStrDigits :=
  calc maxIntegerAbs < 10 ^ 20 := by decide
    _ ≤ 10 ^ maxStrDigits := Nat.pow_le_pow_right (by decide) (by decide)

theorem fitsBytes_iff {limit : ℕ} {value : Text} : fitsBytes limit value = true ↔
    value.Within limit := by
  unfold fitsBytes Text.Within
  cases value.utf8Size? with
  | none => simp
  | some size => simp

/-- The measurement raises only where a value holds a lone surrogate. -/
theorem encode_ne_unicode {payload : Value} (writable : payload.writable = true) :
    encode payload ≠ .error .unicode := by
  rcases Value.dumps_of_writable true payload writable with ⟨text, dumped, size, measured, _⟩
  unfold encode
  simp only [dumped, measured]
  split <;> exact nofun

theorem encode_ok {payload : Value} (writable : payload.writable = true)
    (small : payload.weight ≤ maxOutputBytes) : ∃ text, encode payload = .ok text := by
  rcases Value.dumps_of_writable true payload writable with ⟨text, dumped, size, measured, bounded⟩
  refine ⟨text, ?_⟩
  unfold encode
  simp only [dumped, measured]
  exact if_neg (by omega)

theorem writable_int {plain : Bool} {value : ℤ} (small : value.natAbs ≤ maxIntegerAbs) :
    (Value.int plain value).writable = true := by
  simp only [Value.writable, decide_eq_true_eq]
  exact lt_of_le_of_lt small maxIntegerAbs_lt

mutual

/-- No key of the tree holds a lone surrogate. The projection checks the strings, and not the
keys. -/
def keysEncode : Value → Bool
  | .float _ literal => literal.encodes
  | .record fields => entryKeysEncode fields
  | .mapping _ entries => entryKeysEncode entries
  | .sequence items => itemKeysEncode items
  | .set items => itemKeysEncode items
  | _ => true

def itemKeysEncode : Values → Bool
  | .nil => true
  | .cons head tail => keysEncode head && itemKeysEncode tail

def entryKeysEncode : Entries → Bool
  | .nil => true
  | .cons (.str key) value rest => key.encodes && keysEncode value && entryKeysEncode rest
  | .cons _ value rest => keysEncode value && entryKeysEncode rest

end

mutual

/-- What the projection of a value with such keys returns can be written. -/
theorem wire_writable {copied : Bool} {depth : ℕ} {value projected : Value}
    (keys : keysEncode value = true) (wired : wire copied depth value = some projected) :
    projected.writable = true := by
  cases value with
  | null | bool _ =>
    rcases Option.ite_none_left_eq_some.mp wired with ⟨_, ⟨⟩⟩
    rfl
  | int plain value =>
    cases plain with
    | false => cases wired
    | true =>
      rcases Option.ite_none_left_eq_some.mp wired with ⟨inside, ⟨⟩⟩
      exact writable_int (Nat.not_lt.mp fun large => inside (.inr large))
  | float finite literal =>
    rcases Option.ite_none_left_eq_some.mp wired with ⟨inside, ⟨⟩⟩
    have isFinite : finite = true := by
      by_contra infinite
      exact inside (.inr (Bool.not_eq_true _ ▸ infinite))
    simp only [Value.writable, isFinite, Bool.true_and]
    exact keys
  | str plain value =>
    cases plain with
    | false => cases wired
    | true =>
      rcases Option.ite_none_left_eq_some.mp wired with ⟨inside, ⟨⟩⟩
      have fits : fitsBytes maxStringBytes value = true := by
        by_contra large
        exact inside (.inr (Bool.not_eq_true _ ▸ large))
      exact (Text.Within.encodes (fitsBytes_iff.mp fits)).1
  | record fields =>
    simp only [wire] at wired
    generalize (if copied = true then depth else depth + 1) = inner at wired
    rcases Option.ite_none_left_eq_some.mp wired with ⟨_, wired⟩
    rcases Option.map_eq_some_iff.mp wired with ⟨entries, mapped, rfl⟩
    exact wireEntries_writable keys mapped
  | mapping plain entries =>
    rcases Option.ite_none_left_eq_some.mp wired with ⟨_, wired⟩
    rcases Option.map_eq_some_iff.mp wired with ⟨projected, mapped, rfl⟩
    exact wireEntries_writable keys mapped
  | sequence items =>
    rcases Option.ite_none_left_eq_some.mp wired with ⟨_, wired⟩
    rcases Option.map_eq_some_iff.mp wired with ⟨projected, mapped, rfl⟩
    exact (Values.ofList_writable projected).mpr (wireItems_writable keys mapped)
  | set items =>
    rcases Option.ite_none_left_eq_some.mp wired with ⟨_, wired⟩
    rcases Option.bind_eq_some_iff.mp wired with ⟨projected, mapped, ordered⟩
    split at ordered
    · rename_i order sorted
      cases ordered
      exact (Values.ofList_writable order).mpr fun item inside =>
        wireItems_writable keys mapped item (sortByDump_mem sorted inside)
    · cases ordered
  | enumeration _ | bytes _ | rendered _ | cycle | raising | unknown => cases wired

theorem wireItems_writable {copied : Bool} {depth : ℕ} {items : Values} {projected : List Value}
    (keys : itemKeysEncode items = true) (wired : wireItems copied depth items = some projected) :
    ∀ item ∈ projected, item.writable = true := by
  cases items with
  | nil =>
    cases wired
    exact nofun
  | cons head tail =>
    simp only [itemKeysEncode, Bool.and_eq_true] at keys
    rcases Option.bind_eq_some_iff.mp wired with ⟨first, wiredHead, rest⟩
    rcases Option.bind_eq_some_iff.mp rest with ⟨others, wiredTail, ended⟩
    cases ended
    intro item inside
    rcases List.mem_cons.mp inside with rfl | later
    · exact wire_writable keys.1 wiredHead
    · exact wireItems_writable keys.2 wiredTail item later

theorem wireEntries_writable {copied : Bool} {depth : ℕ} {entries projected : Entries}
    (keys : entryKeysEncode entries = true)
    (wired : wireEntries copied depth entries = some projected) : projected.writable = true := by
  cases entries with
  | nil =>
    cases wired
    rfl
  | cons key value rest =>
    cases key with
    | str name =>
      simp only [entryKeysEncode, Bool.and_eq_true] at keys
      rcases Option.bind_eq_some_iff.mp wired with ⟨first, wiredHead, others⟩
      rcases Option.bind_eq_some_iff.mp others with ⟨remaining, wiredTail, ended⟩
      cases ended
      simp only [Entries.writable, keys.1.1, wire_writable keys.1.2 wiredHead,
        wireEntries_writable keys.2 wiredTail, Bool.and_self]
    | scalar literal => cases wired
    | other => cases wired

end

mutual

theorem keysEncode_of_writable {value : Value} (writable : value.writable = true) :
    keysEncode value = true := by
  cases value with
  | float finite literal =>
    simp only [Value.writable, Bool.and_eq_true] at writable
    exact writable.2
  | mapping plain entries =>
    cases plain with
    | false => cases writable
    | true => exact entryKeysEncode_of_writable writable
  | sequence items => exact itemKeysEncode_of_writable writable
  | record _ | set _ => cases writable
  | null | bool _ | int _ _ | str _ _ | enumeration _ | bytes _ | rendered _ | cycle | raising
  | unknown => rfl

theorem itemKeysEncode_of_writable {items : Values} (writable : items.writable = true) :
    itemKeysEncode items = true := by
  cases items with
  | nil => rfl
  | cons head tail =>
    simp only [Values.writable, Bool.and_eq_true] at writable
    simp only [itemKeysEncode, keysEncode_of_writable writable.1,
      itemKeysEncode_of_writable writable.2, Bool.and_self]

theorem entryKeysEncode_of_writable {entries : Entries} (writable : entries.writable = true) :
    entryKeysEncode entries = true := by
  cases entries with
  | nil => rfl
  | cons key value rest =>
    cases key with
    | str name =>
      simp only [Entries.writable, Bool.and_eq_true] at writable
      simp only [entryKeysEncode, writable.1.1, keysEncode_of_writable writable.1.2,
        entryKeysEncode_of_writable writable.2, Bool.and_self]
    | scalar literal =>
      simp only [Entries.writable, Bool.and_eq_true] at writable
      simp only [entryKeysEncode, keysEncode_of_writable writable.1.2,
        entryKeysEncode_of_writable writable.2, Bool.and_self]
    | other => cases writable

end

/-- An id that `_valid_id` accepts. -/
def RequestId.Valid : RequestId → Prop
  | .int value => value.natAbs ≤ maxIntegerAbs
  | .str value => value.Within maxCommandIdBytes

variable {id : RequestId}

theorem validId_valid {value : Option Value} (accepted : validId value = some id) :
    id.Valid := by
  unfold validId at accepted
  split at accepted
  · rcases Option.ite_none_right_eq_some.mp accepted with ⟨_, ⟨⟩⟩
    assumption
  · rcases Option.ite_none_right_eq_some.mp accepted with ⟨fits, ⟨⟩⟩
    exact fitsBytes_iff.mp fits.2
  · cases accepted

theorem idValue_writable {requestId : Option RequestId}
    (valid : ∀ id, requestId = some id → id.Valid) :
    (idValue requestId).writable = true ∧ (idValue requestId).weight ≤ 5000 := by
  cases requestId with
  | none => decide
  | some id =>
    have accepted := valid id rfl
    cases id with
    | int value =>
      refine ⟨writable_int accepted, ?_⟩
      show maxStrDigits + 1 ≤ 5000
      decide
    | str value =>
      have within := Text.Within.encodes accepted
      refine ⟨within.1, ?_⟩
      have bounded := within.2
      simp only [maxCommandIdBytes] at bounded
      simp only [idValue, Option.elim_some, RequestId.value, Value.weight]
      omega

variable {name : String} {rest : List (Key × Value)}

theorem cons_member_writable {value : Value} :
    (Value.mapping true (.ofList (member name value :: rest))).writable =
      ((Text.ofString name).encodes && value.writable &&
        (Value.mapping true (.ofList rest)).writable) := by
  simp only [member, Entries.ofList, Value.writable, Entries.writable]

theorem cons_member_weight {value : Value} :
    (Value.mapping true (.ofList (member name value :: rest))).weight =
      6 * (Text.ofString name).size + 4 + value.weight +
        (Value.mapping true (.ofList rest)).weight := by
  simp only [member, Entries.ofList, Value.weight, Entries.weight]
  omega

/-- The response to a valid id with the body `body`. -/
def responsePayload (requestId : Option RequestId) (name : String) (body : Value) : Value :=
  .mapping true (.ofList
    [member "jsonrpc" jsonrpcVersion, member "id" (idValue requestId),
      member "meta" metaValue, member name body])

theorem responsePayload_writable {requestId : Option RequestId} {body : Value}
    (valid : ∀ id, requestId = some id → id.Valid) (named : name = "error" ∨ name = "result")
    (writable : body.writable = true) :
    (responsePayload requestId name body).writable = true ∧
      (responsePayload requestId name body).weight ≤ body.weight + 10000 := by
  have id := idValue_writable valid
  have names : (Text.ofString name).encodes = true ∧ (Text.ofString name).size ≤ 12 := by
    rcases named with rfl | rfl <;> decide
  have literals : (Text.ofString "jsonrpc").encodes = true ∧ (Text.ofString "id").encodes = true ∧
      (Text.ofString "meta").encodes = true ∧ jsonrpcVersion.writable = true ∧
      metaValue.writable = true ∧ (Value.mapping true (.ofList [])).writable = true := by
    decide
  have weights : (Text.ofString "jsonrpc").size = 7 ∧ (Text.ofString "id").size = 2 ∧
      (Text.ofString "meta").size = 4 ∧ jsonrpcVersion.weight = 20 ∧ metaValue.weight ≤ 200 ∧
      (Value.mapping true (.ofList [])).weight = 2 := by
    decide
  rcases literals with ⟨first, second, third, version, described, last⟩
  rcases weights with ⟨one, two, three, four, five, six⟩
  constructor
  · simp only [responsePayload, cons_member_writable, first, second, third, version, described,
      last, id.1, names.1, writable, Bool.and_self]
  · have idWeight := id.2
    have nameSize := names.2
    simp only [responsePayload, cons_member_weight, one, two, three, four, six]
    omega

/-- A response to a valid id with a short body that can be written can be sent. -/
theorem response_encodes {requestId : Option RequestId} {body : Value}
    (valid : ∀ id, requestId = some id → id.Valid) (named : name = "error" ∨ name = "result")
    (writable : body.writable = true) (small : body.weight ≤ 100000) :
    ∃ text, encode (responsePayload requestId name body) = .ok text := by
  have payload := responsePayload_writable valid named writable
  apply encode_ok payload.1
  have bounded := payload.2
  simp only [maxOutputBytes]
  omega

theorem writable_str (plain : Bool) (value : Text) :
    (Value.str plain value).writable = value.encodes := rfl

theorem weight_str (plain : Bool) (value : Text) :
    (Value.str plain value).weight = 6 * value.size + 2 := rfl

theorem weight_int (plain : Bool) (value : ℤ) : (Value.int plain value).weight = 4301 := rfl

theorem nil_members : (Value.mapping true (.ofList [])).writable = true ∧
    (Value.mapping true (.ofList [])).weight = 2 := ⟨rfl, rfl⟩

theorem errorObject_writable {code : ℤ} {serviceCode : Text}
    (known : code.natAbs ≤ maxIntegerAbs) (short : serviceCode.Within maxCommandIdBytes) :
    (errorObject code serviceCode).writable = true ∧
      (errorObject code serviceCode).weight ≤ 20000 := by
  have service := Text.Within.encodes short
  have message : (Text.ofString (safeMessage code)).Within 50 := by
    unfold safeMessage
    split_ifs <;> decide
  have messageSize := message.encodes.2
  have serviceSize := service.2
  simp only [maxCommandIdBytes] at serviceSize
  have literals : (Text.ofString "code").encodes = true ∧
      (Text.ofString "message").encodes = true ∧ (Text.ofString "data").encodes = true ∧
      (Text.ofString "service_code").encodes = true := by
    decide
  have sizes : (Text.ofString "code").size = 4 ∧ (Text.ofString "message").size = 7 ∧
      (Text.ofString "data").size = 4 ∧ (Text.ofString "service_code").size = 12 := by
    decide
  rcases literals with ⟨first, second, third, fourth⟩
  rcases sizes with ⟨one, two, three, four⟩
  constructor
  · simp only [errorObject, cons_member_writable, first, second, third, fourth, nil_members.1,
      writable_str, writable_int known, message.encodes.1, service.1, Bool.and_self]
  · simp only [errorObject, cons_member_weight, one, two, three, four, nil_members.2, weight_str,
      weight_int]
    omega

theorem encodeError_ok {requestId : Option RequestId} {code : ℤ} {serviceCode : Text}
    (valid : ∀ id, requestId = some id → id.Valid) (known : code.natAbs ≤ maxIntegerAbs)
    (short : serviceCode.Within maxCommandIdBytes) :
    ∃ text, encodeError requestId code serviceCode = .ok text := by
  have error := errorObject_writable known short
  exact response_encodes valid (.inl rfl) error.1 (by omega)

/-! ### Values that are their own projection -/

variable {copied : Bool} {depth : ℕ}

theorem wire_str {value : Text} (shallow : depth ≤ maxNestingDepth)
    (short : value.Within maxStringBytes) :
    wire copied depth (.str true value) = some (.str true value) := by
  rw [wire, if_neg]
  rintro (deep | long)
  · exact absurd shallow (Nat.not_le.mpr deep)
  · rw [fitsBytes_iff.mpr short] at long
    cases long

theorem wire_int {value : ℤ} (shallow : depth ≤ maxNestingDepth)
    (small : value.natAbs ≤ maxIntegerAbs) :
    wire copied depth (.int true value) = some (.int true value) := by
  rw [wire, if_neg]
  rintro (deep | large)
  · exact absurd shallow (Nat.not_le.mpr deep)
  · exact absurd small (Nat.not_le.mpr large)

theorem toList_ofList (members : List (Key × Value)) : (Entries.ofList members).toList = members := by
  induction members with
  | nil => rfl
  | cons head rest ih => rw [Entries.ofList, Entries.toList, ih]

/-- A short object whose members are their own projections is its own projection. -/
theorem wire_members {members : List (Key × Value)}
    (shallow : depth ≤ maxNestingDepth) (few : members.length ≤ maxCollectionItems)
    (each : ∀ entry ∈ members, ∃ name, entry.1 = .str name ∧
      wire copied (depth + 1) entry.2 = some entry.2) :
    wire copied depth (.mapping true (.ofList members)) = some (.mapping true (.ofList members)) := by
  have entries : wireEntries copied depth (.ofList members) = some (.ofList members) := by
    clear few
    induction members with
    | nil => rfl
    | cons head rest ih =>
      rcases each head List.mem_cons_self with ⟨name, key, projected⟩
      have others := ih fun entry inside => each entry (List.mem_cons_of_mem _ inside)
      rcases head with ⟨named, value⟩
      subst key
      simp only [Entries.ofList, wireEntries, projected, others]
      rfl
  have short : (Entries.ofList members).length ≤ maxCollectionItems := by
    rw [Entries.length, toList_ofList]
    exact few
  rw [wire, if_neg, Bool.and_true, entries, Option.map_some]
  rintro (deep | long)
  · exact absurd shallow (Nat.not_le.mpr deep)
  · exact absurd short (Nat.not_le.mpr long)

theorem encodeNotification_ok {method : String} {params projected : Value}
    (wired : projectResult params = some projected)
    (named : (Text.ofString method).Within 100) (writable : projected.writable = true)
    (small : projected.weight ≤ 100000) : ∃ text, encodeNotification method params = .ok text := by
  have literals : (Text.ofString "jsonrpc").encodes = true ∧
      (Text.ofString "meta").encodes = true ∧ (Text.ofString "method").encodes = true ∧
      (Text.ofString "params").encodes = true ∧ jsonrpcVersion.writable = true ∧
      metaValue.writable = true ∧ (Value.mapping true (.ofList [])).writable = true := by
    decide
  have weights : (Text.ofString "jsonrpc").size = 7 ∧ (Text.ofString "meta").size = 4 ∧
      (Text.ofString "method").size = 6 ∧ (Text.ofString "params").size = 6 ∧
      jsonrpcVersion.weight = 20 ∧ metaValue.weight ≤ 200 ∧
      (Value.mapping true (.ofList [])).weight = 2 := by
    decide
  have text : (Value.str true (Text.ofString method)).writable = true := named.encodes.1
  have size : (Value.str true (Text.ofString method)).weight =
      6 * (Text.ofString method).size + 2 := rfl
  have bounded := named.encodes.2
  rcases literals with ⟨first, second, third, fourth, version, described, last⟩
  rcases weights with ⟨one, two, three, four, five, six, seven⟩
  unfold encodeNotification
  simp only [wired]
  apply encode_ok
  · simp only [cons_member_writable, first, second, third, fourth, version, described, last, text,
      writable, Bool.and_self]
  · simp only [cons_member_weight, one, two, three, four, five, seven, size, maxOutputBytes]
    omega

/-- A result without a lone surrogate in a key is sent, or is refused as unprojectable. -/
theorem encodeResponse_of_keys {result : Value} (valid : id.Valid)
    (keys : keysEncode result = true) : encodeResponse (some id) result ≠ .error .unicode := by
  have accepted : ∀ other, some id = some other → other.Valid := by
    rintro other same
    cases same
    exact valid
  unfold encodeResponse
  split
  · exact nofun
  · rename_i projected wired
    exact encode_ne_unicode
      (responsePayload_writable accepted (.inr rfl) (wire_writable keys wired)).1

/-- The projected result has been checked once, and is checked again. -/
theorem encodeResponse_of_projected {result projected : Value} (valid : id.Valid)
    (keys : keysEncode result = true) (wired : projectResult result = some projected) :
    encodeResponse (some id) projected ≠ .error .unicode :=
  encodeResponse_of_keys valid (keysEncode_of_writable (wire_writable keys wired))

end Synapse.Transport.Wire
