import OpcUaAdapter.Config
import OpcUaAdapter.Generator.Config

/-! The tree that `createConfig` adds to the root of the map file. -/

namespace OpcUaAdapter.Generator

/-- The attributes that are set, in their order. -/
def attributesOf (values : List (Text × Option Text)) : List (Text × Text) :=
  values.filterMap fun (name, value) => value.map fun text => (name, text)

namespace SetupElement

def attributes (setup : SetupElement) : List (Text × Option Text) :=
  [("name", setup.name), ("entries_per_response", setup.entriesPerResponse), ("interval", setup.interval),
    ("useInfluxBackend", setup.useInfluxBackend), ("buffer_length", setup.bufferLength)]

def node (setup : SetupElement) : XmlNode := .element "setup" (attributesOf setup.attributes) []

end SetupElement

namespace ServerElement

def attributes (server : ServerElement) : List (Text × Option Text) :=
  [("applicationName", server.applicationName), ("port", server.port), ("logLevel", server.logLevel)]

def node (server : ServerElement) : XmlNode := .element "server" (attributesOf server.attributes) []

end ServerElement

namespace LdsElement

def attributes (lds : LdsElement) : List (Text × Option Text) :=
  [("register", lds.register), ("address", lds.address), ("registryName", lds.registryName),
    ("registerPeriod", lds.registerPeriod)]

def node (lds : LdsElement) : XmlNode := .element "lds" (attributesOf lds.attributes) []

end LdsElement

namespace LoginElement

def attributes (login : LoginElement) : List (Text × Option Text) :=
  [("username", login.username), ("password", login.password)]

def node (login : LoginElement) : XmlNode := .element "login" (attributesOf login.attributes) []

end LoginElement

namespace SecurityElement

def attributes (security : SecurityElement) : List (Text × Option Text) :=
  [("unsecure", security.unsecure), ("allowAnyCertificate", security.allowAnyCertificate),
    ("privatekey", security.privatekey), ("certificate", security.certificate), ("trustlist", security.trustlist),
    ("issuerlist", security.issuerlist), ("blocklist", security.blocklist)]

def node (security : SecurityElement) : XmlNode := .element "security" (attributesOf security.attributes) []

end SecurityElement

def VoidHandlingElement.node (voidHandling : VoidHandlingElement) : XmlNode :=
  .element "voidHandling" (attributesOf [("useBool", voidHandling.useBool)]) []

def historizingNode (setups : List SetupElement) : XmlNode :=
  .element "historizing" [] (setups.map SetupElement.node)

namespace ConfigElement

/-- The elements in the order `createConfig` adds them. -/
def node (config : ConfigElement) : XmlNode :=
  .element "config" (attributesOf [("rootFolder", config.rootFolder), ("description", config.description)])
    (config.server.toList.map ServerElement.node ++ config.lds.toList.map LdsElement.node ++
      config.login.toList.map LoginElement.node ++ config.security.toList.map SecurityElement.node ++
      config.voidHandling.toList.map VoidHandlingElement.node ++ config.historizing.toList.map historizingNode)

/-- The document that `save` writes: the config element and the entries of the directory. -/
def document (config : ConfigElement) (entries : List XmlNode) : XmlNode :=
  .element "uamapping" [] (config.node :: entries)

end ConfigElement

end OpcUaAdapter.Generator
