import OpcUaAdapter.Text

/-! The entries of a map file, in document order. An attribute or a first child element
that is missing is `none`. -/

namespace OpcUaAdapter

structure ExcludeEntry where
  sourceName : Option Text

structure FolderEntry where
  line : Nat := 0
  sourceName : Option Text := none
  copy : Option Text := none
  history : Option Text := none
  destination : Option Text := none
  name : Option Text := none
  description : Option Text := none

structure DestinationElement where
  content : Text
  unrollPath : Option Text := none

structure ProcessVariableEntry where
  line : Nat := 0
  sourceName : Option Text := none
  copy : Option Text := none
  history : Option Text := none
  destination : Option DestinationElement := none
  name : Option Text := none
  unit : Option Text := none
  description : Option Text := none

structure AdditionalVariableEntry where
  line : Nat := 0
  destination : Option Text := none
  name : Option Text := none
  description : Option Text := none
  value : Option Text := none

structure MapFile where
  excludes : List ExcludeEntry := []
  folders : List FolderEntry := []
  processVariables : List ProcessVariableEntry := []
  additionalVariables : List AdditionalVariableEntry := []

def getAttributeValueFromNode (content : Option Text) : Text := content.getD []

def getContentFromNode (content : Text) : Text := trim content

namespace MapFile

/-- The `exclude` list of `readConfig`, last entry first. -/
def exclude (mapFile : MapFile) : List Text :=
  mapFile.excludes.foldl
    (fun exclude entry =>
      let excludeString := getAttributeValueFromNode entry.sourceName
      if excludeString.isEmpty then exclude else ('/' :: excludeString) :: exclude) []

/-- The `folder_with_history` list of `readConfig`. -/
def folderWithHistory (mapFile : MapFile) : List Text :=
  mapFile.folders.foldl
    (fun folderWithHistory entry =>
      let folder := getAttributeValueFromNode entry.sourceName
      let history := getAttributeValueFromNode entry.history
      if !folder.isEmpty && !history.isEmpty then ('/' :: folder) :: folderWithHistory else folderWithHistory) []

def getAllMappedPvSourceNames (mapFile : MapFile) : List Text :=
  mapFile.processVariables.foldl
    (fun mappedPvSources entry => getAttributeValueFromNode entry.sourceName :: mappedPvSources) []

end MapFile

end OpcUaAdapter
