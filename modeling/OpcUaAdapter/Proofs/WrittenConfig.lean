import Mathlib.Data.Option.Basic
import OpcUaAdapter.Generator.ConfigTree
import OpcUaAdapter.Proofs.SetupReading
import OpcUaAdapter.Proofs.XmlElements

/-! Reading a config element that was written by the map file generator: each of its parts is
found once, whatever texts and entries stand around it, and no attribute is lost. -/

namespace OpcUaAdapter

open Effects Generator XmlNode ServerSettings

section Trees

variable {α : Type}

theorem namedAmong_leaves {elementName tag : Text} {write : α → XmlNode}
    (leaf : ∀ part, ∃ attributes, write part = .element tag attributes []) (parts : List α) :
    namedAmong elementName (parts.map write) = if tag = elementName then parts.map write else [] := by
  induction parts with
  | nil => simp [namedAmong]
  | cons part parts ih =>
    obtain ⟨attributes, written⟩ := leaf part
    rw [List.map_cons, namedAmong, ih, written, named, namedAmong]
    split <;> simp

private theorem filter_tagged {elementName tag : Text} {write : α → XmlNode}
    (tagged : ∀ part, ∃ attributes children, write part = .element tag attributes children) (parts : List α) :
    (parts.map write).filter (isElement elementName) = if tag = elementName then parts.map write else [] := by
  induction parts with
  | nil => rw [List.map_nil, List.filter_nil, ite_self]
  | cons part parts ih =>
    obtain ⟨attributes, children, written⟩ := tagged part
    rw [List.map_cons, List.filter_cons, ih, written, isElement]
    split <;> simp_all

private theorem namedAmong_historizing {elementName : Text} (other : elementName ≠ "setup") (setups : Option (List Generator.SetupElement)) :
    namedAmong elementName (setups.toList.map historizingNode) =
      if "historizing" = elementName then setups.toList.map historizingNode else [] := by
  cases setups with
  | none => rw [Option.toList_none, List.map_nil, namedAmong, ite_self]
  | some setups =>
    have leaves := @namedAmong_leaves _ elementName "setup" SetupElement.node (fun _ => ⟨_, rfl⟩) setups
    rw [if_neg other.symm] at leaves
    have single : namedAmong elementName [historizingNode setups] = (historizingNode setups).named elementName := by
      rw [namedAmong, namedAmong, List.append_nil]
    rw [Option.toList_some, List.map_singleton, single, historizingNode, named, leaves, List.append_nil]

def partsOf (config : ConfigElement) : List (Text × List XmlNode) :=
  [("server", config.server.toList.map ServerElement.node), ("lds", config.lds.toList.map LdsElement.node),
    ("login", config.login.toList.map LoginElement.node), ("security", config.security.toList.map SecurityElement.node),
    ("voidHandling", config.voidHandling.toList.map VoidHandlingElement.node),
    ("historizing", config.historizing.toList.map historizingNode)]

def partsNamed (config : ConfigElement) (elementName : Text) : List XmlNode :=
  ((partsOf config).lookup elementName).getD []

theorem search_parts {elementName : Text} {search : List XmlNode → List XmlNode} (empty : search [] = [])
    (append : ∀ nodes others, search (nodes ++ others) = search nodes ++ search others)
    {parts : List (Text × List XmlNode)} (distinct : (parts.map Prod.fst).Nodup)
    (own : ∀ part ∈ parts, search part.2 = if part.1 = elementName then part.2 else []) :
    search (parts.flatMap Prod.snd) = (parts.lookup elementName).getD [] := by
  induction parts with
  | nil => exact empty
  | cons part parts ih =>
    obtain ⟨tag, nodes⟩ := part
    obtain ⟨first, others⟩ := List.forall_mem_cons.mp own
    obtain ⟨fresh, distinct⟩ := List.nodup_cons.mp distinct
    rw [List.flatMap_cons, append, ih distinct others, first, List.lookup_cons]
    by_cases found : tag = elementName
    · have absent : parts.lookup elementName = none := by
        rw [List.lookup_eq_none_iff]
        intro part member
        have other : part.1 ≠ tag := fun same => fresh (List.mem_map.mpr ⟨part, member, same⟩)
        simpa [← found] using other.symm
      rw [if_pos found, absent, found, beq_self_eq_true]
      simp
    · have other : (elementName == tag) = false := by simpa using fun same => found same.symm
      rw [if_neg found, other, List.nil_append]

private theorem children_node (config : ConfigElement) : config.node.children = (partsOf config).flatMap Prod.snd := by
  rw [ConfigElement.node, children, partsOf]
  simp only [List.flatMap_cons, List.flatMap_nil, List.append_nil, List.append_assoc]

private theorem partsOf_distinct (config : ConfigElement) : ((partsOf config).map Prod.fst).Nodup := by
  change [("server" : Text), "lds", "login", "security", "voidHandling", "historizing"].Nodup
  decide

private theorem inside_written (config : ConfigElement) {elementName : Text} (other : elementName ≠ "setup") :
    config.node.inside elementName = partsNamed config elementName := by
  rw [inside, children_node]
  apply @search_parts elementName (namedAmong elementName) rfl (namedAmong_append elementName) _ (partsOf_distinct config)
  unfold partsOf
  rw [List.forall_mem_cons, List.forall_mem_cons, List.forall_mem_cons, List.forall_mem_cons, List.forall_mem_cons,
    List.forall_mem_singleton]
  exact ⟨@namedAmong_leaves _ elementName "server" ServerElement.node (fun _ => ⟨_, rfl⟩) _,
    @namedAmong_leaves _ elementName "lds" LdsElement.node (fun _ => ⟨_, rfl⟩) _,
    @namedAmong_leaves _ elementName "login" LoginElement.node (fun _ => ⟨_, rfl⟩) _,
    @namedAmong_leaves _ elementName "security" SecurityElement.node (fun _ => ⟨_, rfl⟩) _,
    @namedAmong_leaves _ elementName "voidHandling" VoidHandlingElement.node (fun _ => ⟨_, rfl⟩) _,
    namedAmong_historizing other _⟩

private theorem filter_written (config : ConfigElement) (elementName : Text) :
    config.node.children.filter (isElement elementName) = partsNamed config elementName := by
  rw [children_node]
  apply @search_parts elementName (List.filter (isElement elementName)) rfl (fun _ _ => List.filter_append _ _) _
    (partsOf_distinct config)
  unfold partsOf
  rw [List.forall_mem_cons, List.forall_mem_cons, List.forall_mem_cons, List.forall_mem_cons, List.forall_mem_cons,
    List.forall_mem_singleton]
  exact ⟨@filter_tagged _ elementName "server" ServerElement.node (fun _ => ⟨_, _, rfl⟩) _,
    @filter_tagged _ elementName "lds" LdsElement.node (fun _ => ⟨_, _, rfl⟩) _,
    @filter_tagged _ elementName "login" LoginElement.node (fun _ => ⟨_, _, rfl⟩) _,
    @filter_tagged _ elementName "security" SecurityElement.node (fun _ => ⟨_, _, rfl⟩) _,
    @filter_tagged _ elementName "voidHandling" VoidHandlingElement.node (fun _ => ⟨_, _, rfl⟩) _,
    @filter_tagged _ elementName "historizing" historizingNode (fun _ => ⟨_, _, rfl⟩) _⟩

end Trees

def taken (config : ConfigElement) (applicationName influxError : Option Text) (listed : MapFile) :
    Except ConfigError ServerSettings := do
  let settings ← readServer applicationName (config.server.map ServerElement.node) {}
  let settings := readVoidHandling (config.voidHandling.map VoidHandlingElement.node)
    (readLds (config.lds.map LdsElement.node) settings)
  let settings := readRootFolder config.node { settings with
    history := .ofElements ((config.historizing.getD []).map fun setup => setupElement influxError setup.node) }
  let settings ← readLogin (config.login.map LoginElement.node) settings
  return { readSecurity (config.security.map SecurityElement.node) settings with
    pvSeparator := "/"
    exclude := listed.exclude
    folderWithHistory := listed.folderWithHistory }

/-- A document with the elements that the generator writes, and any texts between them. The
entries hold no further element of the configuration. -/
structure Written (config : ConfigElement) (entries : List XmlNode) (document : XmlNode) : Prop where
  same : SameTags document (config.document entries)
  config : namedAmong "config" entries = []
  historizing : namedAmong "historizing" entries = []

section Reading

variable {applicationName influxError : Option Text} {found other : Option XmlNode}

private theorem single_written {α : Type} (tag : Text) {nodes : List XmlNode} {part : Option α} {write : α → XmlNode}
    (same : List.Forall₂ SameTags nodes (part.toList.map write)) :
    ∃ found, single tag nodes = .ok found ∧ Option.Rel SameTags found (part.map write) := by
  cases part with
  | none =>
    cases same
    exact ⟨none, rfl, .none⟩
  | some part =>
    cases same with
    | cons first rest =>
      cases rest
      exact ⟨_, rfl, .some first⟩

theorem read_same {β : Type} {read : Option XmlNode → β}
    (alike : ∀ node other, SameTags node other → read (some node) = read (some other))
    (same : Option.Rel SameTags found other) : read found = read other := by
  cases same with
  | none => rfl
  | some same => exact alike _ _ same

private theorem readServer_same (same : Option.Rel SameTags found other) (settings : ServerSettings) :
    readServer applicationName found settings = readServer applicationName other settings := by
  apply read_same _ same
  intro node other alike
  simp only [readServer, alike.attributeValue]

private theorem readLds_same (same : Option.Rel SameTags found other) (settings : ServerSettings) :
    readLds found settings = readLds other settings := by
  apply read_same _ same
  intro node other alike
  simp only [readLds, alike.attributeValue]

private theorem readVoidHandling_same (same : Option.Rel SameTags found other) (settings : ServerSettings) :
    readVoidHandling found settings = readVoidHandling other settings := by
  apply read_same _ same
  intro node other alike
  simp only [readVoidHandling, alike.attributeValue]

private theorem readLogin_same (same : Option.Rel SameTags found other) (settings : ServerSettings) :
    readLogin found settings = readLogin other settings := by
  apply read_same _ same
  intro node other alike
  simp only [readLogin, alike.attributeValue]

private theorem readSecurity_same (same : Option.Rel SameTags found other) (settings : ServerSettings) :
    readSecurity found settings = readSecurity other settings := by
  apply read_same _ same
  intro node other alike
  simp only [readSecurity, alike.attributeValue]

private theorem readHistory_tolerant (elements : List SetupElement) {settings : ServerSettings}
    (tolerant : settings.mappingExceptions = false) :
    readHistory elements settings = .ok { settings with history := .ofElements elements } := by
  obtain ⟨reports, read, -⟩ := (Mapping.readHistorizing_checks elements).tolerant settings.adapter tolerant
  unfold readHistory
  rw [read]
  rfl

variable {config : ConfigElement} {entries : List XmlNode} {document node : XmlNode}

private theorem named_node (config : ConfigElement) (elementName : Text) :
    config.node.named elementName =
      (if "config" = elementName then [config.node] else []) ++ config.node.inside elementName := rfl

private theorem named_document (config : ConfigElement) (entries : List XmlNode) {elementName : Text}
    (other : "uamapping" ≠ elementName) (free : namedAmong elementName entries = []) :
    (config.document entries).named elementName = config.node.named elementName := by
  rw [ConfigElement.document, named, if_neg other, namedAmong, free, List.append_nil, List.nil_append]

theorem Written.named_config (written : Written config entries document) :
    ∃ node, document.named "config" = [node] ∧ SameTags node config.node := by
  have all := written.same.named "config"
  rw [named_document config entries (by decide) written.config, named_node, if_pos rfl,
    inside_written config (by decide), show partsNamed config "config" = [] from rfl, List.append_nil] at all
  generalize document.named "config" = found at all ⊢
  cases all with
  | cons first rest =>
    cases rest
    exact ⟨_, rfl, first⟩

private theorem setupElements_same {nodes : List XmlNode} {setups : List Generator.SetupElement}
    (same : List.Forall₂ SameTags nodes (setups.map SetupElement.node)) :
    nodes.map (setupElement influxError) = setups.map fun setup => setupElement influxError setup.node := by
  rw [map_of_forall₂ same fun node other same => by simp only [setupElement, same.getProp], List.map_map]
  rfl

private theorem setupElements_written (written : Written config entries document)
    (same : SameTags node config.node) :
    setupElements influxError document node =
      (config.historizing.getD []).map fun setup => setupElement influxError setup.node := by
  have here := same.filter "historizing"
  have all := written.same.named "historizing"
  rw [filter_written, show partsNamed config "historizing" = config.historizing.toList.map historizingNode from rfl] at here
  rw [named_document config entries (by decide) written.historizing, named_node, if_neg (by decide), List.nil_append,
    inside_written config (by decide),
    show partsNamed config "historizing" = config.historizing.toList.map historizingNode from rfl] at all
  have any_iff : node.children.any (isElement "historizing") = true ↔
      node.children.filter (isElement "historizing") ≠ [] := by
    rw [ne_eq, List.filter_eq_nil_iff, List.any_eq_true]
    simp
  unfold setupElements
  generalize document.named "historizing" = found at all ⊢
  generalize node.children.filter (isElement "historizing") = own at here any_iff
  cases historizing : config.historizing with
  | none =>
    rw [historizing] at here
    cases here
    rw [if_neg fun any => any_iff.mp any rfl]
    rfl
  | some setups =>
    rw [historizing] at here all
    obtain ⟨first, rfl⟩ : ∃ first, found = [first] := by
      cases all with
      | cons _ rest => cases rest; exact ⟨_, rfl⟩
    have filled : own ≠ [] := by
      cases here
      exact List.cons_ne_nil _ _
    obtain ⟨alike, -⟩ := List.forall₂_cons.mp all
    have setups_here := alike.filter "setup"
    rw [show (historizingNode setups).children = setups.map SetupElement.node from rfl,
      @filter_tagged _ "setup" "setup" SetupElement.node (fun _ => ⟨_, _, rfl⟩) setups, if_pos rfl] at setups_here
    rw [if_pos (any_iff.mpr filled), List.flatMap_cons, List.flatMap_nil, List.append_nil, setupElements_same setups_here]
    rfl

private theorem readRootFolder_same {first second : XmlNode} (same : SameTags first second) (settings : ServerSettings) :
    readRootFolder first settings = readRootFolder second settings := by
  simp only [readRootFolder, same.attributeValue]

private theorem readServer_tolerant {settings after : ServerSettings} (read : readServer applicationName found settings = .ok after) :
    after.mappingExceptions = settings.mappingExceptions := by
  cases found with
  | none =>
    cases read
    rfl
  | some node =>
    dsimp only [readServer] at read
    cases port : readPort (node.attributeValue "port") settings.opcuaPort with
    | error error => rw [port] at read; cases read
    | ok opcuaPort =>
      rw [port] at read
      cases read
      rfl

private theorem readLds_tolerant (settings : ServerSettings) :
    (readLds found settings).mappingExceptions = settings.mappingExceptions := by
  cases found <;> rfl

private theorem readVoidHandling_tolerant (settings : ServerSettings) :
    (readVoidHandling found settings).mappingExceptions = settings.mappingExceptions := by
  unfold readVoidHandling
  cases found with
  | none => rfl
  | some node => dsimp only; split <;> rfl

theorem Written.part (same : SameTags node config.node) {elementName : Text} (other : elementName ≠ "setup") :
    List.Forall₂ SameTags (node.inside elementName) (partsNamed config elementName) :=
  inside_written config other ▸ same.inside elementName

private theorem readMappingExceptions_written (same : SameTags node config.node) : readMappingExceptions node = false := by
  have none_here := same.filter "mapping_exceptions"
  rw [filter_written, show partsNamed config "mapping_exceptions" = [] from rfl, List.forall₂_nil_right_iff] at none_here
  unfold readMappingExceptions
  rw [none_here]

private theorem readSeparator_written (same : SameTags node config.node) :
    readSeparator (node.inside "process_variable_hierarchy") = "/" := by
  have none_here := same.inside "process_variable_hierarchy"
  rw [inside_written config (by decide), show partsNamed config "process_variable_hierarchy" = [] from rfl,
    List.forall₂_nil_right_iff] at none_here
  rw [none_here, readSeparator]

private theorem readInside_written (written : Written config entries document) (same : SameTags node config.node) :
    readInside applicationName influxError document (some node) =
      (readServer applicationName (config.server.map ServerElement.node) {}).bind fun settings =>
        .ok (readRootFolder config.node
          { readVoidHandling (config.voidHandling.map VoidHandlingElement.node)
              (readLds (config.lds.map LdsElement.node) settings) with
            history := .ofElements
              ((config.historizing.getD []).map fun setup => setupElement influxError setup.node) }) := by
  obtain ⟨server, server_found, server_same⟩ := single_written "server"
    (Written.part same (by decide) : List.Forall₂ _ (node.inside "server") (config.server.toList.map _))
  obtain ⟨lds, lds_found, lds_same⟩ := single_written "lds"
    (Written.part same (by decide) : List.Forall₂ _ (node.inside "lds") (config.lds.toList.map _))
  obtain ⟨voidHandling, void_found, void_same⟩ := single_written "voidHandling"
    (Written.part same (by decide) : List.Forall₂ _ (node.inside "voidHandling") (config.voidHandling.toList.map _))
  dsimp only [readInside]
  rw [server_found, lds_found, void_found, readMappingExceptions_written same, setupElements_written written same]
  dsimp only [bind, Except.bind]
  rw [readServer_same server_same]
  cases read : readServer applicationName (config.server.map ServerElement.node) {} with
  | error error => rfl
  | ok settings =>
    have tolerant : (readVoidHandling (config.voidHandling.map VoidHandlingElement.node)
        (readLds (config.lds.map LdsElement.node) settings)).mappingExceptions = false := by
      rw [readVoidHandling_tolerant, readLds_tolerant, readServer_tolerant read]
    dsimp only
    rw [readLds_same lds_same, readVoidHandling_same void_same, readHistory_tolerant _ tolerant]
    exact congrArg Except.ok (readRootFolder_same same _)

/-- Reading a document that the generator wrote. -/
theorem readConfig_written (written : Written config entries document) :
    readConfig applicationName influxError document =
      taken config applicationName influxError (listedEntries document) := by
  obtain ⟨node, found, same⟩ := written.named_config
  obtain ⟨login, login_found, login_same⟩ := single_written "login"
    (Written.part same (by decide) : List.Forall₂ _ (node.inside "login") (config.login.toList.map _))
  obtain ⟨security, security_found, security_same⟩ := single_written "security"
    (Written.part same (by decide) : List.Forall₂ _ (node.inside "security") (config.security.toList.map _))
  dsimp only [readConfig, taken]
  rw [found, show single "config" [node] = .ok (some node) from rfl]
  dsimp only [bind, Except.bind, Option.elim]
  rw [readInside_written written same, login_found, security_found, readSeparator_written same]
  cases readServer applicationName (config.server.map ServerElement.node) {} with
  | error error => rfl
  | ok settings =>
    dsimp only [Except.bind]
    rw [readLogin_same login_same]
    cases readLogin (config.login.map LoginElement.node) _ with
    | error error => rfl
    | ok settings =>
      dsimp only
      rw [readSecurity_same security_same]

end Reading

section Attributes

theorem lookup_attributesOf {values : List (Text × Option Text)} (distinct : (values.map Prod.fst).Nodup) (name : Text) :
    (attributesOf values).lookup name = (values.lookup name).getD none := by
  induction values with
  | nil => rfl
  | cons first values ih =>
    obtain ⟨key, value⟩ := first
    obtain ⟨fresh, distinct⟩ := List.nodup_cons.mp distinct
    by_cases found : name = key
    · have absent : values.lookup name = none := by
        rw [List.lookup_eq_none_iff]
        intro other member
        have apart : other.1 ≠ key := fun same => fresh (List.mem_map.mpr ⟨other, member, same⟩)
        simpa [found] using apart.symm
      have later := ih distinct
      rw [absent] at later
      subst found
      cases value with
      | none => simpa [attributesOf] using later
      | some text => simp [attributesOf]
    · have other : (name == key) = false := by simpa using found
      rw [List.lookup_cons, other]
      refine Eq.trans ?_ (ih distinct)
      cases value with
      | none => rfl
      | some text =>
        change List.lookup name ((key, text) :: attributesOf values) = _
        rw [List.lookup_cons, other]

theorem getProp_setup (setup : Generator.SetupElement) (name : Text) :
    setup.node.getProp name = (setup.attributes.lookup name).getD none := by
  refine lookup_attributesOf ?_ name
  change [("name" : Text), "entries_per_response", "interval", "useInfluxBackend", "buffer_length"].Nodup
  decide

private theorem attributeValue_written {tag : Text} {values : List (Text × Option Text)} {children : List XmlNode}
    (distinct : (values.map Prod.fst).Nodup) (name : Text) :
    (XmlNode.element tag (attributesOf values) children).attributeValue name =
      ((values.lookup name).getD none).getD [] :=
  congrArg (fun value : Option Text => value.getD []) (lookup_attributesOf distinct name)

theorem attributeValue_server (server : ServerElement) (name : Text) :
    server.node.attributeValue name = ((server.attributes.lookup name).getD none).getD [] := by
  apply attributeValue_written
  change [("applicationName" : Text), "port", "logLevel"].Nodup
  decide

theorem attributeValue_lds (lds : LdsElement) (name : Text) :
    lds.node.attributeValue name = ((lds.attributes.lookup name).getD none).getD [] := by
  apply attributeValue_written
  change [("register" : Text), "address", "registryName", "registerPeriod"].Nodup
  decide

theorem attributeValue_login (login : LoginElement) (name : Text) :
    login.node.attributeValue name = ((login.attributes.lookup name).getD none).getD [] := by
  apply attributeValue_written
  change [("username" : Text), "password"].Nodup
  decide

theorem attributeValue_security (security : SecurityElement) (name : Text) :
    security.node.attributeValue name = ((security.attributes.lookup name).getD none).getD [] := by
  apply attributeValue_written
  change [("unsecure" : Text), "allowAnyCertificate", "privatekey", "certificate", "trustlist", "issuerlist",
    "blocklist"].Nodup
  decide

theorem attributeValue_config (config : ConfigElement) (name : Text) :
    config.node.attributeValue name =
      (([(("rootFolder" : Text), config.rootFolder), ("description", config.description)].lookup name).getD none).getD [] := by
  apply attributeValue_written
  change [("rootFolder" : Text), "description"].Nodup
  decide

end Attributes

end OpcUaAdapter
