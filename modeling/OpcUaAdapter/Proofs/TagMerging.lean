import OpcUaAdapter.Library.FirstByKey
import OpcUaAdapter.Proofs.HistorySelection

/-! The tags of a line: the base tags, overridden and extended by the configured extra
tags that are meant for the variable. -/

namespace OpcUaAdapter

private theorem find_isSome_iff {part text : Text} : (find part text).isSome = true ↔ part <:+: text := by
  induction text with
  | nil => simp [find]
  | cons c rest ih =>
    rw [find, List.infix_cons_iff]
    split
    next start => simp [List.isPrefixOf_iff_prefix.mp start]
    next other =>
      have not_start : ¬ part <+: c :: rest := mt List.isPrefixOf_iff_prefix.mpr other
      rw [Option.isSome_map, ih]
      simp [not_start]

private theorem valuesOf_of_distinct {tags : List TagInformation} (distinct : (tags.map (·.key)).Nodup) {tag : TagInformation}
    (member : tag ∈ tags) : valuesOf tag.key tags = [tag.value] := by
  induction tags with
  | nil => cases member
  | cons first rest ih =>
    obtain ⟨fresh, distinct⟩ := List.nodup_cons.mp distinct
    have others (key : Text) (absent : key ∉ rest.map (·.key)) : valuesOf key rest = [] := by
      rw [valuesOf, List.map_eq_nil_iff, List.filter_eq_nil_iff]
      intro other inside
      simpa using fun same : other.key = key => absent (same ▸ List.mem_map_of_mem inside)
    rcases List.mem_cons.mp member with rfl | inner
    · have none := others tag.key fresh
      unfold valuesOf at none ⊢
      rw [List.filter_cons_of_pos (by simp), List.map_cons, none]
    · have key : tag.key ∈ rest.map (·.key) := List.mem_map_of_mem inner
      have other : first.key ≠ tag.key := fun same => fresh (by rwa [← same] at key)
      have inside := ih distinct inner
      unfold valuesOf at inside ⊢
      rw [List.filter_cons_of_neg (by simpa using other), inside]

theorem extraTagApplies_iff {tags : List TagInformation} (distinct : (tags.map (·.key)).Nodup)
    (tagInfo : TagInformation) :
    extraTagApplies tags tagInfo = true ↔
      tagInfo.sourceName = [] ∨ ∃ base ∈ tags, base.key = "nodeId" ∧ tagInfo.sourceName <:+: base.value := by
  unfold extraTagApplies
  by_cases everywhere : tagInfo.sourceName = []
  · simp [everywhere]
  · rw [if_neg (by simpa using everywhere)]
    cases found : tags.find? fun tag : TagInformation => tag.key = "nodeId" with
    | none =>
      have absent := List.find?_eq_none.mp found
      constructor
      · exact fun impossible => absurd impossible (by simp)
      · rintro (empty | ⟨base, member, key, _⟩)
        · exact absurd empty everywhere
        · exact absurd (decide_eq_true key) (absent base member)
    | some sourceId =>
      have key : sourceId.key = "nodeId" := by simpa only [decide_eq_true_eq] using List.find?_some found
      have member := List.mem_of_find?_eq_some found
      dsimp only
      rw [find_isSome_iff]
      constructor
      · exact fun inside => .inr ⟨sourceId, member, key, inside⟩
      · rintro (empty | ⟨base, there, same, inside⟩)
        · exact absurd empty everywhere
        · have first := valuesOf_of_distinct distinct member
          have second := valuesOf_of_distinct distinct there
          rw [key] at first
          rw [same, first] at second
          rw [List.singleton_inj.mp second]
          exact inside

private theorem map_key_updateTag (tags : List TagInformation) (tagInfo : TagInformation) :
    (updateTag tags tagInfo).map (·.key) = insertNew id (tags.map (·.key)) tagInfo.key := by
  unfold insertNew
  induction tags with
  | nil => simp [updateTag]
  | cons tag rest ih =>
    by_cases found : tag.key = tagInfo.key
    · simp [updateTag, found]
    · rw [updateTag, if_neg found, List.map_cons, ih, List.map_cons, List.any_cons]
      simp only [id_eq, found, decide_false, Bool.false_or]
      split <;> simp

private theorem mergedTags_filter (config : InfluxConfig) (tags : List TagInformation) :
    mergedTags config tags = (config.extraTags.filter (extraTagApplies tags)).foldl updateTag tags := by
  rw [List.foldl_filter]
  rfl

private theorem map_key_foldl_updateTag (extraTags tags : List TagInformation) :
    (extraTags.foldl updateTag tags).map (·.key) = (extraTags.map (·.key)).foldl (insertNew id) (tags.map (·.key)) := by
  induction extraTags generalizing tags with
  | nil => rfl
  | cons tagInfo rest ih => rw [List.foldl_cons, ih, map_key_updateTag, List.map_cons, List.foldl_cons]

/-- The merged tags of base tags with different keys: their keys are different and in
this order, and each has the last value that is meant for the variable. -/
theorem mergedTags_of_distinct (config : InfluxConfig) {tags : List TagInformation}
    (distinct : (tags.map (·.key)).Nodup) :
    ((mergedTags config tags).map (·.key)).Nodup ∧
    (mergedTags config tags).map (·.key) = tags.map (·.key) ++
      (firstByKey id ((config.extraTags.filter (extraTagApplies tags)).map (·.key))).filter (· ∉ tags.map (·.key)) ∧
    (∀ tag ∈ mergedTags config tags,
      match (config.extraTags.filter fun tagInfo => extraTagApplies tags tagInfo && tagInfo.key = tag.key).getLast? with
      | some tagInfo => tag.value = tagInfo.value
      | none => ∃ base ∈ tags, base.key = tag.key ∧ tag.value = base.value) ∧
    (∀ tagInfo, extraTagApplies tags tagInfo = true ↔
      tagInfo.sourceName = [] ∨ ∃ base ∈ tags, base.key = "nodeId" ∧ tagInfo.sourceName <:+: base.value) ∧
    ∀ influxFieldName fieldValue timestamp, buildLineProtocol config influxFieldName fieldValue tags timestamp =
      escapeLineProtocolIdentifier config.measurement ++ (mergedTags config tags).flatMap tagText ++
        ' ' :: fieldText influxFieldName fieldValue timestamp := by
  have keys : (mergedTags config tags).map (·.key) = tags.map (·.key) ++
      (firstByKey id ((config.extraTags.filter (extraTagApplies tags)).map (·.key))).filter (· ∉ tags.map (·.key)) := by
    rw [mergedTags_filter, map_key_foldl_updateTag, foldl_insertNew]
    congr 1
    apply List.filter_congr
    intro key _
    rw [Bool.eq_iff_iff]
    simp
  have nodup : ((mergedTags config tags).map (·.key)).Nodup := by
    rw [keys, List.nodup_append]
    refine ⟨distinct, ?_, ?_⟩
    · have := @nodup_firstByKey _ _ _ id ((config.extraTags.filter (extraTagApplies tags)).map (·.key))
      rw [List.map_id] at this
      exact this.filter _
    · intro key there other member same
      simpa [← same, there] using (List.mem_filter.mp member).2
  refine ⟨nodup, keys, fun tag member => ?_, extraTagApplies_iff distinct, fun _ _ _ => rfl⟩
  have value := valuesOf_of_distinct nodup member
  have merged := valuesOf_mergedTags config tags tag.key
  rw [value] at merged
  unfold lastExtraTag at merged
  split at merged
  next none =>
    rw [none]
    obtain ⟨base, there, same, equal⟩ := mem_valuesOf.mp (merged ▸ List.mem_singleton_self tag.value)
    exact ⟨base, there, same, equal.symm⟩
  next tagInfo last =>
    rw [last]
    exact (List.cons.inj merged).1

/-- The node id is overridden first, and the tag for this node still applies. -/
theorem mergedTags_of_drive :
    (mergedTags { measurement := "m", extraTags := [⟨"nodeId", "speed", []⟩, ⟨"area", "hall", "drive"⟩] }
      [⟨"nodeId", "ns=1;s=drive/speed", []⟩]).map (·.key) = ["nodeId".toList, "area".toList] :=
  (mergedTags_of_distinct _ (by decide)).2.1.trans (by decide)

end OpcUaAdapter
