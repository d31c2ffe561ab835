import OpcUaAdapter.HistoryBackend

/-! What reaches the client when a value is stored. The loop over several values writes
each of them with its index, but the conversion never hands it more than one. -/

namespace OpcUaAdapter

universe u

private theorem elementsToStrings_single {kind : UaTypeKind} {elements : List kind.Value} {fieldValues : List FieldValue}
    (converted : elementsToStrings kind elements = some fieldValues) :
    fieldValues = (elements.take 1).map (uaValueToString kind) := by
  cases elements with
  | nil => cases converted
  | cons element rest =>
    simp only [elementsToStrings] at converted
    split at converted
    next => cases converted; rfl
    next => cases converted

theorem variantToStrings_single {variant : UaVariant} {fieldValues : List FieldValue}
    (converted : variantToStrings variant = some fieldValues) : ∃ fieldValue, fieldValues = [fieldValue] := by
  cases variant with
  | empty => cases converted
  | scalar kind value =>
    simp only [variantToStrings] at converted
    split at converted
    next => cases converted; exact ⟨_, rfl⟩
    next => cases converted
  | array kind elements =>
    simp only [variantToStrings] at converted
    split at converted
    next => cases converted
    next some =>
      cases elements with
      | nil => exact absurd rfl some
      | cons element rest => exact ⟨_, elementsToStrings_single converted⟩

section Write
variable {σ : Type u} (member : HistoryClient σ)

private theorem writeIndexed_handed (takes : ∀ point client, (member.writePoint point client).1 = true)
    (point : FieldValue → List TagInformation → PendingWritePoint) (tags : List TagInformation) (start : Nat)
    (fieldValues : List FieldValue) (client : σ) :
    (writeIndexed member point tags start fieldValues client).status = .good ∧
      (writeIndexed member point tags start fieldValues client).handed =
        (fieldValues.zipIdx start).map fun (fieldValue, i) =>
          point fieldValue (tags ++ [⟨"index", intText i, []⟩]) := by
  induction fieldValues generalizing start client with
  | nil => exact ⟨rfl, rfl⟩
  | cons fieldValue rest ih =>
    have kept := takes (point fieldValue (tags ++ [⟨"index", intText start, []⟩])) client
    simp only [writeIndexed, kept, ite_true]
    obtain ⟨status, handed⟩ := ih (start + 1) _
    exact ⟨status, by simpa only [List.zipIdx_cons, List.map_cons, List.cons.injEq, true_and] using handed⟩

variable (hdbContext : Option InfluxHistoryBackendContext) (nodeId : Option UaNodeId) (historizing : Bool)
  (value : Option UaDataValue) (now : Int) (client : σ)

private theorem serverSetHistoryDataInflux_handed_length :
    (serverSetHistoryDataInflux member hdbContext nodeId historizing value now client).handed.length ≤ 1 := by
  unfold serverSetHistoryDataInflux
  split
  next ctx node value =>
    split
    · exact Nat.zero_le _
    split
    · exact Nat.zero_le _
    split
    · exact Nat.zero_le _
    split
    · exact Nat.zero_le _
    next fieldValues converted =>
      obtain ⟨fieldValue, rfl⟩ := variantToStrings_single converted
      exact Nat.le_refl _
  next => exact Nat.zero_le _

def elementPoints (ctx : InfluxHistoryBackendContext) (addExtraTags : Bool) (node : UaNodeId) (timestamp : Int)
    (kind : UaTypeKind) (elements : List kind.Value) : List PendingWritePoint :=
  elements.zipIdx.map fun (element, i) =>
    ⟨ctx.influxFieldName, uaValueToString kind element,
      commonTags ctx addExtraTags node ++ [⟨"index", intText i, []⟩], some timestamp⟩

/-- Given the values of all elements, the writer stores an array as it should be. -/
theorem writeValues_elements (takes : ∀ point client, (member.writePoint point client).1 = true)
    (ctx : InfluxHistoryBackendContext) (addExtraTags : Bool) (node : UaNodeId) (timestamp : Int) {kind : UaTypeKind}
    {elements : List kind.Value} (several : 2 ≤ elements.length) :
    (writeValues member (fun fieldValue tags => ⟨ctx.influxFieldName, fieldValue, tags, some timestamp⟩)
        (commonTags ctx addExtraTags node) (elements.map (uaValueToString kind)) client).handed =
      elementPoints ctx addExtraTags node timestamp kind elements := by
  match elements, several with
  | first :: second :: rest, _ =>
    simp only [writeValues, List.map_cons]
    rw [(writeIndexed_handed member takes _ _ _ _ _).2, elementPoints, ← List.map_cons, ← List.map_cons,
      List.zipIdx_map, List.map_map]
    rfl

/-- An array of two or more elements is never stored element by element. -/
theorem array_history_incomplete (ctx : InfluxHistoryBackendContext) (node : UaNodeId) (value : UaDataValue)
    {kind : UaTypeKind} {elements : List kind.Value} (several : 2 ≤ elements.length) :
    (serverSetHistoryDataInflux member (some ctx) (some node) historizing
          (some { value with value := .array kind elements }) now client).handed ≠
      elementPoints ctx (member.addExtraTags client) node
        (valueTimestamp { value with value := .array kind elements } now) kind elements := by
  intro same
  have one := serverSetHistoryDataInflux_handed_length member (some ctx) (some node) historizing
    (some { value with value := .array kind elements }) now client
  rw [same, elementPoints, List.length_map, List.length_zipIdx] at one
  omega

theorem array_history_first {ctx : InfluxHistoryBackendContext} (node : UaNodeId) {value : UaDataValue}
    {kind : UaTypeKind} {first : kind.Value} {rest : List kind.Value} (present : value.hasValue = true)
    (connected : ctx.hasClient = true) (sound : member.hasFundamentalError client = false)
    (valid : checkValue (uaValueToString kind first).value (uaValueToString kind first).isString = true)
    (array : value.value = .array kind (first :: rest)) :
    serverSetHistoryDataInflux member (some ctx) (some node) true (some value) now client =
      let point := ⟨ctx.influxFieldName, uaValueToString kind first, commonTags ctx (member.addExtraTags client) node,
        some (valueTimestamp value now)⟩
      { status := if (member.writePoint point client).1 then .good else .badInternalError
        client := (member.writePoint point client).2
        handed := [point] } := by
  simp [serverSetHistoryDataInflux, present, connected, sound, array, variantToStrings, elementsToStrings, valid,
    writeValues]

end Write

private theorem batchingClient_writePoint {client : InfluxClient} (enabled : client.config.writeBatching.enabled = true)
    (admits : client.refusesWrites = false)
    (room : client.writeQueue.length < client.config.writeBatching.maxQueuePoints) (point : PendingWritePoint) :
    batchingClient.writePoint point client = (true, { client with writeQueue := client.writeQueue ++ [point] }) := by
  have queued : client.writePoint point (some []) [] =
      some { ok := true, error := some [], client := { client with writeQueue := client.writeQueue ++ [point] } } := by
    unfold InfluxClient.writePoint InfluxClient.enqueue
    simp only [enabled, admits, Bool.not_true, Bool.false_eq_true, ite_false, if_neg (Nat.not_le.mpr room)]
  simp only [batchingClient, queued]

/-- With room in the queue the call reports success, and of the array only its first element is queued. -/
theorem array_history_queued {client : InfluxClient} {ctx : InfluxHistoryBackendContext} (node : UaNodeId)
    {value : UaDataValue} (now : Int) {kind : UaTypeKind} {first : kind.Value} {rest : List kind.Value}
    (enabled : client.config.writeBatching.enabled = true) (admits : client.refusesWrites = false)
    (room : client.writeQueue.length < client.config.writeBatching.maxQueuePoints)
    (present : value.hasValue = true) (connected : ctx.hasClient = true) (sound : client.hasFundamentalError = false)
    (valid : checkValue (uaValueToString kind first).value (uaValueToString kind first).isString = true)
    (array : value.value = .array kind (first :: rest)) :
    (serverSetHistoryDataInflux batchingClient (some ctx) (some node) true (some value) now client).status = .good ∧
      (serverSetHistoryDataInflux batchingClient (some ctx) (some node) true (some value) now client).client.writeQueue =
        client.writeQueue ++
          [⟨ctx.influxFieldName, uaValueToString kind first, commonTags ctx client.config.addNameTags node,
            some (valueTimestamp value now)⟩] := by
  rw [array_history_first batchingClient now client node present connected sound valid array]
  simp only [batchingClient_writePoint enabled admits room]
  exact ⟨rfl, rfl⟩

section Demo

def takingClient : HistoryClient Unit := ⟨fun _ => false, fun _ => false, fun _ client => (true, client)⟩

def demoContext : InfluxHistoryBackendContext :=
  { influxFieldName := "f", nodeIdTagName := "nodeId", engineeringUnit := [], host := "h", applicationName := "a",
    port := 16664 }

theorem array_history_incomplete_of_two :
    (serverSetHistoryDataInflux takingClient (some demoContext) (some ⟨some "ns=1;s=x"⟩) true
          (some ⟨true, .array .int32 [1, 2], some unixEpoch, none⟩) 0 ()).handed ≠
      elementPoints demoContext false ⟨some "ns=1;s=x"⟩ 0 .int32 [1, 2] :=
  array_history_incomplete takingClient true 0 () demoContext ⟨some "ns=1;s=x"⟩
    ⟨true, .empty, some unixEpoch, none⟩ (by decide)

/-- Two elements, of which only the first reaches the client. -/
theorem second_element_missing :
    ¬ ∀ (member : HistoryClient Unit) (ctx : InfluxHistoryBackendContext) (node : UaNodeId) (value : UaDataValue)
      (now : Int) (kind : UaTypeKind) (elements : List kind.Value), 2 ≤ elements.length →
      (∀ element ∈ elements,
        checkValue (uaValueToString kind element).value (uaValueToString kind element).isString = true) →
      (∀ point client, (member.writePoint point client).1 = true) → member.hasFundamentalError () = false →
      ctx.hasClient = true → value.hasValue = true → value.value = .array kind elements →
      (serverSetHistoryDataInflux member (some ctx) (some node) true (some value) now ()).handed =
        elementPoints ctx (member.addExtraTags ()) node (valueTimestamp value now) kind elements := by
  intro complete
  have stored := complete takingClient demoContext ⟨some "ns=1;s=x"⟩
    ⟨true, .array .int32 [1, 2], some unixEpoch, none⟩ 0 .int32 [1, 2] (by decide) (List.all_eq_true.mp (by decide))
    (fun _ _ => rfl) rfl rfl rfl rfl
  revert stored
  decide

end Demo

end OpcUaAdapter
