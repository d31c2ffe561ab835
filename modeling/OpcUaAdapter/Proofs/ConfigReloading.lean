import OpcUaAdapter.Proofs.ConfigReading

/-! One `config` element read after another one: what the first one leaves behind. -/

namespace OpcUaAdapter.Generator

/-- What is read before is kept where nothing is read now. -/
theorem or_or_eq_iff {earlier later : Option α} : later.or earlier = later ↔ (earlier.isSome → later.isSome) := by
  cases later <;> cases earlier <;> simp

private theorem or_or_or_eq_iff {earlier later fresh : Option α} :
    later.or (earlier.or fresh) = later.or fresh ↔ ∀ value ∈ earlier, later.isSome ∨ fresh = some value := by
  cases later <;> cases earlier <;> simp [eq_comm]

private theorem getD_getD_eq_iff {earlier later : Option α} {fresh : α} :
    later.getD (earlier.getD fresh) = later.getD fresh ↔ ∀ value ∈ earlier, later.isSome ∨ value = fresh := by
  cases later <;> cases earlier <;> simp

theorem bind_or_eq_iff {child : Option β} {earlier : Option α} {later : β → Option α} :
    (child.bind fun element => (later element).or earlier) = child.bind later ↔
      ∀ element ∈ child, earlier.isSome → (later element).isSome := by
  cases child with
  | none => simp
  | some element => simpa using or_or_eq_iff

namespace Config

def fresh (name : Option Text) : Config := { applicationName := name }

/-- Whatever the first element gives, the second one gives too, or it is what the
generator starts with. Login and security only carry over where both elements have them. -/
structure Overwritten (name : Option Text) (f g : ConfigElement) : Prop where
  rootFolder : f.rootFolder.isSome → g.rootFolder.isSome
  applicationName : ∀ text ∈ f.server.bind (·.applicationName),
    (g.server.bind (·.applicationName)).isSome ∨ name = some text
  port : (f.server.bind (·.port)).isSome → (g.server.bind (·.port)).isSome
  logLevel : ∀ level ∈ (f.server.bind (·.logLevel)).bind levelOf,
    ((g.server.bind (·.logLevel)).bind levelOf).isSome ∨ level = "INFO"
  register : ∀ text ∈ f.lds.bind (·.register), upper text = "TRUE" → (g.lds.bind (·.register)).isSome
  address : (f.lds.bind (·.address)).isSome → (g.lds.bind (·.address)).isSome
  registryName : (f.lds.bind (·.registryName)).isSome → (g.lds.bind (·.registryName)).isSome
  registerPeriod : ∀ period ∈ (f.lds.bind (·.registerPeriod)).bind int,
    ((g.lds.bind (·.registerPeriod)).bind int).isSome ∨ period = 10
  useBool : ∀ text ∈ f.voidHandling.bind (·.useBool), upper text = "TRUE" →
    ∃ text ∈ g.voidHandling.bind (·.useBool), upper text = "TRUE"
  username : ∀ login ∈ g.login, (f.login.bind (·.username)).isSome → login.username.isSome
  password : ∀ login ∈ g.login, (f.login.bind (·.password)).isSome → login.password.isSome
  unsecure : ∀ security ∈ g.security, f.security.bind (·.unsecure) = some ("True" : Text) →
    security.unsecure = some ("True" : Text)
  allowAnyCertificate : ∀ security ∈ g.security, f.security.bind (·.allowAnyCertificate) = some ("True" : Text) →
    security.allowAnyCertificate = some ("True" : Text)
  privatekey : ∀ security ∈ g.security, (f.security.bind (·.privatekey)).isSome → security.privatekey.isSome
  certificate : ∀ security ∈ g.security, (f.security.bind (·.certificate)).isSome → security.certificate.isSome
  trustlist : ∀ security ∈ g.security, (f.security.bind (·.trustlist)).isSome → security.trustlist.isSome
  issuerlist : ∀ security ∈ g.security, (f.security.bind (·.issuerlist)).isSome → security.issuerlist.isSome
  blocklist : ∀ security ∈ g.security, (f.security.bind (·.blocklist)).isSome → security.blocklist.isSome
  settings : firstByKey (·.name) (settingsOf f) <+: firstByKey (·.name) (settingsOf g)

theorem description_overwritten {f g : ConfigElement}
    (described : g.rootFolder.isSome → g.description.isSome) (rootFolder : f.rootFolder.isSome → g.rootFolder.isSome) :
    (g.rootFolder.bind fun _ => g.description).getD ((f.rootFolder.bind fun _ => f.description).getD []) =
      (g.rootFolder.bind fun _ => g.description).getD ([] : Text) := by
  cases second : g.rootFolder with
  | some path =>
    rw [second] at described
    obtain ⟨text, shape⟩ := Option.isSome_iff_exists.mp (described rfl)
    rw [shape]
    rfl
  | none =>
    cases first : f.rootFolder with
    | none => rfl
    | some path => rw [first, second] at rootFolder; exact absurd (rootFolder rfl) (by simp)

private theorem port_overwritten {f g : Option Text} (readF : ∀ text ∈ f, (int text).isSome)
    (readG : ∀ text ∈ g, (int text).isSome) :
    ((f.bind int).isSome → (g.bind int).isSome) ↔ (f.isSome → g.isSome) := by
  cases f <;> cases g <;> simp_all

private theorem register_overwritten {f g : Option Text} :
    (∀ value ∈ f.map fun register => decide (upper register = "TRUE"),
        (g.map fun register => decide (upper register = "TRUE")).isSome ∨ value = false) ↔
      ∀ text ∈ f, upper text = "TRUE" → g.isSome := by
  generalize ("TRUE" : Text) = yes
  cases f with
  | none => simp
  | some text => by_cases enabled : upper text = yes <;> simp [enabled]

private theorem useBool_overwritten {f g : Option Text} :
    (((false || (f.map fun useBool => decide (upper useBool = "TRUE")).getD false) ||
        (g.map fun useBool => decide (upper useBool = "TRUE")).getD false) =
      (false || (g.map fun useBool => decide (upper useBool = "TRUE")).getD false)) ↔
      ∀ text ∈ f, upper text = "TRUE" → ∃ text ∈ g, upper text = "TRUE" := by
  cases f with
  | none => simp
  | some first =>
    cases g with
    | none => simp
    | some second =>
      by_cases before : upper first = "TRUE" <;> by_cases now : upper second = "TRUE" <;> simp [before, now]

private theorem flag_overwritten {child : Option SecurityElement} {earlier : Option Text}
    {flag : SecurityElement → Option Text} :
    (child.elim false fun security =>
        (decide (earlier = some ("True" : Text)) || decide (flag security = some ("True" : Text)))) =
      (child.elim false fun security => (false || decide (flag security = some ("True" : Text)))) ↔
      ∀ security ∈ child, earlier = some ("True" : Text) → flag security = some ("True" : Text) := by
  cases child with
  | none => simp
  | some security => by_cases before : earlier = some ("True" : Text) <;> simp [before]

private theorem elim_flag (child : Option SecurityElement) (flag : SecurityElement → Option Text) :
    (child.elim false fun security => (false || decide (flag security = some ("True" : Text)))) =
      decide (child.bind flag = some ("True" : Text)) := by
  cases child <;> simp

private theorem settings_reloaded_iff {name : Option Text} {f g : ConfigElement} (readF : Readable f (settingsOf f))
    (readG : Readable g (settingsOf g)) :
    afterConfig g (settingsOf g) (afterConfig f (settingsOf f) (fresh name)) =
      afterConfig g (settingsOf g) (fresh name) ↔ Overwritten name f g := by
  -- what the first element alone leaves, then what the second one makes of it
  rw [afterConfig_eq f]
  simp only [elim_flag, fresh]
  simp only [afterConfig_eq g, Config.mk.injEq, EncryptionSettings.mk.injEq, Option.or_none, or_or_eq_iff,
    or_or_or_eq_iff, getD_getD_eq_iff, bind_or_eq_iff, register_overwritten, useBool_overwritten, flag_overwritten,
    port_overwritten readF.port readG.port, foldl_insertNew_nil, foldl_insertNew_eq_iff, true_and]
  have description := description_overwritten (f := f) readG.described
  rw [getD_getD_eq_iff] at description
  constructor
  · rintro ⟨⟨allowAnyCertificate, unsecure, certificate, privatekey, blocklist, trustlist, issuerlist⟩, username,
      password, applicationName, rootFolder, _, port, settings, logLevel, useBool, register, address, registryName,
      registerPeriod⟩
    exact ⟨rootFolder, applicationName, port, logLevel, register, address, registryName, registerPeriod, useBool,
      username, password, unsecure, allowAnyCertificate, privatekey, certificate, trustlist, issuerlist, blocklist,
      settings⟩
  · intro h
    exact ⟨⟨h.allowAnyCertificate, h.unsecure, h.certificate, h.privatekey, h.blocklist, h.trustlist, h.issuerlist⟩,
      h.username, h.password, h.applicationName, h.rootFolder, description h.rootFolder, h.port, h.settings,
      h.logLevel, h.useBool, h.register, h.address, h.registryName, h.registerPeriod⟩

/-- A file without the element leaves the configuration alone, also login and security. -/
def ElementOverwritten (name : Option Text) : Option ConfigElement → Option ConfigElement → Prop
  | none, _ => True
  | some f, none => f.login = none ∧ f.security = none ∧ Overwritten name f {}
  | some f, some g => Overwritten name f g

private theorem empty_readable : Readable {} (settingsOf {}) := ⟨by simp, by simp, rfl⟩

theorem afterConfig_empty {s : Config} (login : s.enableLogin = false ∧ s.username = none ∧ s.password = none)
    (security : s.toEncryptionSettings = {}) : afterConfig {} (settingsOf {}) s = s := by
  obtain ⟨enableLogin, username, password⟩ := login
  obtain ⟨encryption, rest⟩ := s
  cases security
  cases enableLogin
  cases username
  cases password
  rfl

theorem reloaded_element_iff {name : Option Text} {f g : Option ConfigElement}
    (readF : ∀ element ∈ f, Readable element (settingsOf element))
    (readG : ∀ element ∈ g, Readable element (settingsOf element)) :
    configAfter g (configAfter f (fresh name)) = configAfter g (fresh name) ↔ ElementOverwritten name f g := by
  cases f with
  | none => exact iff_of_true rfl trivial
  | some f =>
    cases g with
    | some g => exact settings_reloaded_iff (readF f rfl) (readG g rfl)
    | none =>
      have empty : afterConfig {} (settingsOf {}) (fresh name) = fresh name :=
        afterConfig_empty ⟨rfl, rfl, rfl⟩ rfl
      have overwritten := @settings_reloaded_iff name f {} (readF f rfl) empty_readable
      rw [empty] at overwritten
      change afterConfig f (settingsOf f) (fresh name) = fresh name ↔
        f.login = none ∧ f.security = none ∧ Overwritten name f {}
      constructor
      · intro same
        have login : f.login.isSome = false := by
          have := congrArg Config.enableLogin same
          rwa [afterConfig_eq] at this
        have security : f.security.isSome = false := by
          have := congrArg (fun s : Config => s.encryptionEnabled) same
          rwa [afterConfig_eq] at this
        exact ⟨Option.isNone_iff_eq_none.mp (by simpa using login), Option.isNone_iff_eq_none.mp (by simpa using security),
          overwritten.mp (by rw [same, empty])⟩
      · rintro ⟨login, security, rest⟩
        have kept : afterConfig {} (settingsOf {}) (afterConfig f (settingsOf f) (fresh name)) =
            afterConfig f (settingsOf f) (fresh name) := by
          apply afterConfig_empty
          · rw [afterConfig_eq, login]
            exact ⟨rfl, rfl, rfl⟩
          · rw [afterConfig_eq, security]
            rfl
        rw [← kept]
        exact overwritten.mpr rest

end Config

end OpcUaAdapter.Generator
