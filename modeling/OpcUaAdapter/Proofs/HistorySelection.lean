import OpcUaAdapter.HistoryAccess
import OpcUaAdapter.Proofs.ArrayHistory

/-! Whether history that was written is found again. A line of the line protocol is
stored under its series, a query selects series by measurement, field and tags. The
configured extra tags are merged into the line, and the query knows nothing of them. -/

namespace OpcUaAdapter

universe u

/-- What the database stores a point under. -/
structure Series where
  measurement : Text
  field : Text
  tags : List TagInformation

def Series.line (series : Series) (fieldValue : FieldValue) (timestampNanoseconds : Option Int) : Text :=
  escapeLineProtocolIdentifier series.measurement ++ series.tags.flatMap tagText ++
    ' ' :: fieldText series.field fieldValue timestampNanoseconds

def PendingWritePoint.series (config : InfluxConfig) (point : PendingWritePoint) : Series :=
  ⟨config.measurement, point.influxFieldName, mergedTags config point.tags⟩

theorem PendingWritePoint.line_series (config : InfluxConfig) (point : PendingWritePoint) :
    point.line config = (point.series config).line point.fieldValue point.timestampNanoseconds := rfl

structure SeriesFilter where
  measurement : Text
  field : Text
  tags : List TagInformation

def SeriesFilter.text (filter : SeriesFilter) : Text :=
  " |> filter(fn: (r) => r._measurement == \"" ++ escapeJson filter.measurement ++ "\")" ++
    fluxFieldFilter filter.field ++ filter.tags.flatMap fluxTagFilter

def HistoryRead.filter (config : InfluxConfig) : HistoryRead → SeriesFilter
  | .readRange _ _ => ⟨config.measurement, [], []⟩
  | .readRangeUnixNanoseconds _ _ influxFieldName tags => ⟨config.measurement, influxFieldName, tags⟩

def rangeText (config : InfluxConfig) (startExpression stopExpression : Text) : Text :=
  "from(bucket: \"" ++ escapeJson config.bucket ++ "\")" ++
    " |> range(start: " ++ startExpression ++ ", stop: " ++ stopExpression ++ ")"

theorem buildFluxReadQuery_filter (config : InfluxConfig) (startExpression stopExpression fieldKey : Text)
    (tags : List TagInformation) :
    buildFluxReadQuery config startExpression stopExpression fieldKey tags =
      rangeText config startExpression stopExpression ++ SeriesFilter.text ⟨config.measurement, fieldKey, tags⟩ := by
  unfold buildFluxReadQuery rangeText SeriesFilter.text
  simp only [List.append_assoc]

def valuesOf (key : Text) (tags : List TagInformation) : List Text :=
  (tags.filter fun tag => tag.key = key).map TagInformation.value

/-- The tags have the key of the filter, and with no value but that of the filter. -/
def Carries (tags : List TagInformation) (filter : TagInformation) : Prop :=
  valuesOf filter.key tags ≠ [] ∧ ∀ value ∈ valuesOf filter.key tags, value = filter.value

structure SeriesFilter.Selects (filter : SeriesFilter) (series : Series) : Prop where
  measurement : series.measurement = filter.measurement
  field : series.field = filter.field
  tags : ∀ tag ∈ filter.tags, Carries series.tags tag

theorem mem_valuesOf {key value : Text} {tags : List TagInformation} :
    value ∈ valuesOf key tags ↔ ∃ tag ∈ tags, tag.key = key ∧ tag.value = value := by
  simp [valuesOf, and_assoc]

private theorem valuesOf_updateTag (key : Text) (tags : List TagInformation) (tagInfo : TagInformation) :
    valuesOf key (updateTag tags tagInfo) =
      if tagInfo.key = key then tagInfo.value :: (valuesOf key tags).tail else valuesOf key tags := by
  induction tags with
  | nil => by_cases same : tagInfo.key = key <;> simp [valuesOf, updateTag, same]
  | cons tag rest ih =>
    simp only [valuesOf] at ih ⊢
    by_cases found : tag.key = tagInfo.key
    · by_cases same : tagInfo.key = key <;> simp [updateTag, found, same]
    · by_cases same : tagInfo.key = key
      · have other : tag.key ≠ key := fun equal => found (equal.trans same.symm)
        rw [updateTag, if_neg found, List.filter_cons_of_neg (by simpa using other), ih, if_pos same, if_pos same,
          List.filter_cons_of_neg (by simpa using other)]
      · rw [if_neg same] at ih ⊢
        rw [updateTag, if_neg found, List.filter_cons, List.filter_cons]
        split
        · rw [List.map_cons, List.map_cons, ih]
        · exact ih

/-- The last configured tag with the key that is meant for the variable the base tags describe. -/
def lastExtraTag (config : InfluxConfig) (tags : List TagInformation) (key : Text) : Option TagInformation :=
  (config.extraTags.filter fun tagInfo => extraTagApplies tags tagInfo && tagInfo.key = key).getLast?

/-- Under each key the last applicable extra tag replaces the first base tag. -/
theorem valuesOf_mergedTags (config : InfluxConfig) (tags : List TagInformation) (key : Text) :
    valuesOf key (mergedTags config tags) =
      match lastExtraTag config tags key with
      | none => valuesOf key tags
      | some tagInfo => tagInfo.value :: (valuesOf key tags).tail := by
  unfold mergedTags lastExtraTag
  induction config.extraTags using List.reverseRecOn with
  | nil => rfl
  | append_singleton extraTags tagInfo ih =>
    rw [List.foldl_append, List.foldl_cons, List.foldl_nil, List.filter_append]
    by_cases applies : extraTagApplies tags tagInfo = true
    · rw [if_pos applies, valuesOf_updateTag, ih]
      by_cases same : tagInfo.key = key
      · rw [if_pos same]
        simp only [applies, same, decide_true, Bool.and_self, List.filter_cons_of_pos, List.filter_nil,
          List.getLast?_concat]
        split <;> rfl
      · simp [applies, same]
    · rw [if_neg applies, ih]
      simp [applies]

/-- The tags the backend writes itself do not contradict a filter, and neither does
the last applicable extra tag under the key of a filter. -/
structure TagsAgree (config : InfluxConfig) (ctx : InfluxHistoryBackendContext) (addExtraTags : Bool)
    (nodeId : UaNodeId) : Prop where
  common : ∀ filter ∈ readTagsOf ctx nodeId, ∀ tag ∈ commonTags ctx addExtraTags nodeId,
    tag.key = filter.key → tag.value = filter.value
  extra : ∀ filter ∈ readTagsOf ctx nodeId,
    ∀ tagInfo ∈ lastExtraTag config (commonTags ctx addExtraTags nodeId) filter.key, tagInfo.value = filter.value

theorem head_valuesOf_commonTags {ctx : InfluxHistoryBackendContext} {nodeId : UaNodeId} (addExtraTags : Bool)
    {filter : TagInformation} (filtered : filter ∈ readTagsOf ctx nodeId) :
    ∃ first ∈ readTagsOf ctx nodeId, first.key = filter.key ∧
      (valuesOf filter.key (commonTags ctx addExtraTags nodeId)).head? = some first.value := by
  obtain ⟨more, split⟩ : ∃ more, commonTags ctx addExtraTags nodeId = readTagsOf ctx nodeId ++ more :=
    ⟨_, List.append_assoc ..⟩
  cases values : (readTagsOf ctx nodeId).filter (fun tag => tag.key = filter.key) with
  | nil => exact absurd (List.filter_eq_nil_iff.mp values filter filtered) (by simp)
  | cons first rest =>
    have member : first ∈ (readTagsOf ctx nodeId).filter fun tag => tag.key = filter.key := by simp [values]
    obtain ⟨read, same⟩ := List.mem_filter.mp member
    refine ⟨first, read, by simpa using same, ?_⟩
    rw [split, valuesOf, List.filter_append, values]
    rfl

private theorem tagsAgree_iff (config : InfluxConfig) (ctx : InfluxHistoryBackendContext) (addExtraTags : Bool)
    (nodeId : UaNodeId) :
    (∀ filter ∈ readTagsOf ctx nodeId, Carries (mergedTags config (commonTags ctx addExtraTags nodeId)) filter) ↔
      TagsAgree config ctx addExtraTags nodeId := by
  constructor
  · intro carries
    refine ⟨?_, ?_⟩
    · intro filter filtered tag common key
      obtain ⟨first, read, same, head⟩ := head_valuesOf_commonTags addExtraTags filtered
      have inside : tag.value ∈ valuesOf filter.key (commonTags ctx addExtraTags nodeId) :=
        mem_valuesOf.mpr ⟨tag, common, key, rfl⟩
      have here := (carries filter filtered).2
      have there := (carries first read).2
      rw [same] at there
      rw [valuesOf_mergedTags] at here there
      cases last : lastExtraTag config (commonTags ctx addExtraTags nodeId) filter.key with
      | none =>
        rw [last] at here
        exact here _ inside
      | some tagInfo =>
        rw [last] at here there
        obtain ⟨rest, shape⟩ := List.head?_eq_some_iff.mp head
        rw [shape, List.tail_cons] at here there
        rw [shape] at inside
        rcases List.mem_cons.mp inside with at_front | later
        · rw [at_front, ← there _ List.mem_cons_self, here _ List.mem_cons_self]
        · exact here _ (List.mem_cons_of_mem _ later)
    · intro filter filtered tagInfo last
      have here := (carries filter filtered).2
      rw [valuesOf_mergedTags, last] at here
      exact here _ List.mem_cons_self
  · intro agree filter filtered
    have common : ∀ value ∈ valuesOf filter.key (commonTags ctx addExtraTags nodeId), value = filter.value := by
      intro value inside
      obtain ⟨tag, member, key, rfl⟩ := mem_valuesOf.mp inside
      exact agree.common filter filtered tag member key
    unfold Carries
    rw [valuesOf_mergedTags]
    cases last : lastExtraTag config (commonTags ctx addExtraTags nodeId) filter.key with
    | none =>
      obtain ⟨first, _, _, head⟩ := head_valuesOf_commonTags addExtraTags filtered
      exact ⟨fun empty => by simp [empty] at head, common⟩
    | some tagInfo =>
      refine ⟨List.cons_ne_nil _ _, ?_⟩
      intro value inside
      rcases List.mem_cons.mp inside with rfl | later
      · exact agree.extra filter filtered tagInfo last
      · exact common value (List.mem_of_mem_tail later)

section Write
variable {σ : Type u} (member : HistoryClient σ) {ctx : InfluxHistoryBackendContext} {nodeId : UaNodeId}
  {historizing : Bool} {value : Option UaDataValue} {now : Int} {client : σ}

theorem serverSetHistoryDataInflux_handed {point : PendingWritePoint}
    (handed : point ∈ (serverSetHistoryDataInflux member (some ctx) (some nodeId) historizing value now client).handed) :
    point.influxFieldName = ctx.influxFieldName ∧
      point.tags = commonTags ctx (member.addExtraTags client) nodeId := by
  cases value with
  | none => cases handed
  | some value =>
    simp only [serverSetHistoryDataInflux] at handed
    split at handed
    · cases handed
    split at handed
    · cases handed
    split at handed
    · cases handed
    split at handed
    · cases handed
    next fieldValues converted =>
      obtain ⟨fieldValue, rfl⟩ := variantToStrings_single converted
      cases List.mem_singleton.mp handed
      exact ⟨rfl, rfl⟩

/-- What is written for a node is found by the reads of the node exactly when no extra
tag overrides a tag that the reads filter on. -/
theorem written_point_selected_iff (config : InfluxConfig) (call : HistoryCall) (environment : UaEnvironment)
    {point : PendingWritePoint}
    (handed : point ∈ (serverSetHistoryDataInflux member (some ctx) (some nodeId) historizing value now client).handed) :
    ((historyQuery ctx nodeId call environment).filter config).Selects (point.series config) ↔
      TagsAgree config ctx (member.addExtraTags client) nodeId := by
  obtain ⟨field, tags⟩ := serverSetHistoryDataInflux_handed member handed
  rw [← tagsAgree_iff]
  constructor
  · intro selected
    have carried := selected.tags
    rwa [PendingWritePoint.series, tags] at carried
  · intro carried
    refine ⟨rfl, field, ?_⟩
    rwa [PendingWritePoint.series, tags]

end Write

section Demo

def demoNode : UaNodeId := ⟨some "ns=1;s=x"⟩

def demoCall : HistoryCall := { start := 0, stop := 1, nodeId := some demoNode }

def demoStored : Stored Unit :=
  serverSetHistoryDataInflux takingClient (some demoContext) (some demoNode) true
    (some ⟨true, .scalar .int32 1, some unixEpoch, none⟩) 0 ()

def demoWritten : PendingWritePoint := ⟨"f", ⟨"1", false⟩, commonTags demoContext false demoNode, some 0⟩

private theorem demoWritten_handed : demoWritten ∈ demoStored.handed := by decide

theorem written_point_selected_with_extra_tag :
    ((historyQuery demoContext demoNode demoCall ⟨0, 0, true, true⟩).filter
        { measurement := "m", extraTags := [⟨"site", "north", []⟩] }).Selects
      (demoWritten.series { measurement := "m", extraTags := [⟨"site", "north", []⟩] }) :=
  (written_point_selected_iff takingClient _ _ _ demoWritten_handed).mpr
    ⟨by decide, by decide⟩

/-- A configured tag `host` replaces the host in the line, and the query still asks for the host. -/
theorem overridden_host_not_selected :
    ¬ ∀ (member : HistoryClient Unit) (config : InfluxConfig) (ctx : InfluxHistoryBackendContext) (nodeId : UaNodeId)
      (value : UaDataValue) (now : Int) (call : HistoryCall) (environment : UaEnvironment),
      ∀ point ∈ (serverSetHistoryDataInflux member (some ctx) (some nodeId) true (some value) now ()).handed,
        ((historyQuery ctx nodeId call environment).filter config).Selects (point.series config) := by
  intro selected
  have carried := (selected takingClient { measurement := "m", extraTags := [⟨"host", "other", []⟩] } demoContext demoNode
    ⟨true, .scalar .int32 1, some unixEpoch, none⟩ 0 demoCall ⟨0, 0, true, true⟩ demoWritten demoWritten_handed).tags
    ⟨"host", "h", []⟩ (by decide)
  exact absurd (carried.2 "other" (by decide)) (by decide)

end Demo
end OpcUaAdapter
