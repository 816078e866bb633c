import EdgeMonitor.Scripts.PlannedBundles

/-!
# The initial bundle

Library `Scripts`. `scripts/generate-mqtt-security.sh` when it creates a bundle. The
certificates and keys of OpenSSL and the hashes of the Mosquitto image come from outside.
-/

namespace EdgeMonitor.Scripts
open EdgeMonitor.Base
open EdgeMonitor.Backend (validateDeviceIdSyntax)

/-! ### Passwords in client files -/

/-- The password in a client file: its last line, or the last option of a configuration. -/
def storedPassword (suffix : String) (content : Text) : Option Text :=
  match content.splitlines.getLast? with
  | none => none
  | some line =>
    if suffix = ".password" then some line
    else if (Text.ofString "--pw ").isPrefixOf line then some (line.drop 5)
    else none

theorem storedPassword_password {password : Text} (h : password.Unbroken) :
    storedPassword ".password" (password ++ Text.ofString "\n") = some password := by
  have hlines : (password ++ Text.ofString "\n").splitlines = [password] := by
    rw [Text.splitlines, show Text.ofString "\n" = [0x0A] from rfl, Text.splitlinesFrom_append h]
    rfl
  rw [storedPassword, hlines]
  rfl

theorem storedPassword_conf {suffix : String} (hsuffix : suffix ≠ ".password")
    {password : Text} (h : password.Unbroken) (options : Text) :
    storedPassword suffix
      (options ++ Text.ofString "\n--pw " ++ password ++ Text.ofString "\n") = some password := by
  have hoption : ∀ c ∈ Text.ofString "--pw ", Text.isLineBreak c = false := by decide
  have hline : (Text.ofString "--pw " ++ password).Unbroken := by
    intro c hc
    rcases List.mem_append.mp hc with hc | hc
    · exact hoption c hc
    · exact h c hc
  have hcontent : options ++ Text.ofString "\n--pw " ++ password ++ Text.ofString "\n" =
      options ++ 0x0A :: ((Text.ofString "--pw " ++ password) ++ [0x0A]) := by
    simp [Text.ofString]
  have hlast := Text.getLast?_splitlines options hline
  rw [storedPassword, hcontent, hlast]
  simp only [if_neg hsuffix]
  rw [if_pos (List.isPrefixOf_iff_prefix.mpr (List.prefix_append _ _))]
  rfl

/-! ### The generator -/

/-- `reserved_identities`, `generate-mqtt-security.sh:13`. -/
def serviceIdentities : List Text :=
  ["collector", "healthcheck", "simulator", "legacy-test"].map Text.ofString

/-- The devices that are always generated, `generate-mqtt-security.sh:12`. -/
def defaultDevices : List Text := ["edge-node-01", "edge-node-02"].map Text.ofString

/-- An output of `openssl rand -hex 32`. -/
def HexPassword := { t : Text // t.length = 64 ∧
  t.all fun c ↦ (0x30 ≤ c && c ≤ 0x39) || (0x61 ≤ c && c ≤ 0x66) }

/-- The lines `identity:password`. -/
def passwordLines (entries : List (Text × HexPassword)) : Text :=
  entries.flatMap fun (identity, password) ↦
    identity ++ Text.ofString ":" ++ password.val ++ Text.ofString "\n"

/-- What the generator takes from OpenSSL and from the Mosquitto image. -/
structure GeneratorTools (env : LifecycleEnv) where
  caCertificate : Text
  caKey : Text
  serverCertificate : Text
  serverKey : Text
  /-- `mosquitto_passwd -U`. -/
  hashPasswords : Text → Text
  /-- `mosquitto_passwd -U` replaces each password by a hash of it. -/
  verifies_hashPasswords {entries : List (Text × HexPassword)} {identities : List (Text × Text)}
    (hnames : ∀ entry ∈ entries, validateDeviceIdSyntax entry.1 = true)
    (hload : loadPasswords (hashPasswords (passwordLines entries)).universalNewlines =
      .ok identities) :
    (∀ user hash, (user, hash) ∈ identities → ∃ password, (user, password) ∈ entries ∧
      env.verifies hash password.val = true) ∧
    ∀ entry ∈ entries, entry.1 ∈ identities.map (·.1)

/-- `clients/*.host.conf`, `generate-mqtt-security.sh:244–252`. -/
def hostConf (outputDir identity password : Text) : Text :=
  Text.ofString "--host localhost\n--port 8883\n--id " ++ deviceClientId identity ++
  Text.ofString "-host\n--cafile " ++ outputDir ++
  Text.ofString "/ca/ca.crt\n--tls-version tlsv1.2\n--username " ++ identity ++
  Text.ofString "\n--pw " ++ password ++ Text.ofString "\n"

/-- `clients/healthcheck.container.conf`, `generate-mqtt-security.sh:255–263`. -/
def healthcheckConf (password : Text) : Text :=
  Text.ofString "--host 127.0.0.1\n--port 8883\n--id iem-healthcheck-compose\n--cafile " ++
  Text.ofString "/run/mqtt-security/ca/ca.crt\n--tls-version tlsv1.2\n--username healthcheck" ++
  Text.ofString "\n--pw " ++ password ++ Text.ofString "\n"

/-- The client files of an identity, `generate-mqtt-security.sh:230–252`. -/
def writeClientFiles (outputDir : Text) (bundle : Directory) (entry : Text × HexPassword) :
    Directory :=
  let (identity, password) := entry
  ((bundle.insert (clientPath identity ".password")
      (.text (password.val ++ Text.ofString "\n"))).insert
    (clientPath identity ".container.conf")
      (.text (containerConf identity (deviceClientId identity) password.val))).insert
    (clientPath identity ".host.conf") (.text (hostConf outputDir identity password.val))

/-- The checks of the devices, `generate-mqtt-security.sh:100–109`. -/
def checkDevices (seen : List Text) : List Text → Except PythonError Unit
  | [] => .ok ()
  | deviceId :: devices =>
    match checkDeviceId deviceId with
    | .error _ => .error (.value (Text.ofString "Invalid device ID: " ++ deviceId))
    | .ok _ =>
      if deviceId ∈ seen then
        .error (.value (Text.ofString "Duplicate device ID: " ++ deviceId))
      else checkDevices (seen ++ [deviceId]) devices

/-- The identities with their passwords. -/
def generatedEntries (devices : List Text) (passwords : Text → HexPassword) :
    List (Text × HexPassword) :=
  (serviceIdentities ++ (defaultDevices ++ devices)).map fun identity ↦
    (identity, passwords identity)

/-- The files of the bundle but for the password file and what is built from it. -/
def generatedFiles {env : LifecycleEnv} (tools : GeneratorTools env) (outputDir : Text)
    (entries : List (Text × HexPassword)) (healthcheck : HexPassword) : Directory :=
  let certificates : Directory := ((((∅ : Directory).insert caPath (.text tools.caCertificate)).insert
      (.ofStrings ["ca", "ca.key"]) (.text tools.caKey)).insert
      (.ofStrings ["server", "server.crt"]) (.text tools.serverCertificate)).insert
      (.ofStrings ["server", "server.key"]) (.text tools.serverKey)
  ((entries.foldl (writeClientFiles outputDir) certificates).insert
    (clientPath (Text.ofString "healthcheck") ".container.conf")
      (.text (healthcheckConf healthcheck.val))).insert
    markerPath (.text (Text.ofString "1\n"))

/-- `generate-mqtt-security.sh` with the devices of its options. -/
def generateBundle (env : LifecycleEnv) (tools : GeneratorTools env) (outputDir : Text)
    (devices : List Text) (passwords : Text → HexPassword) : Except PythonError Directory := do
  checkDevices [] (defaultDevices ++ devices)
  let entries := generatedEntries devices passwords
  let hashed := tools.hashPasswords (passwordLines entries)
  let configuration ← buildConfiguration (← env.policy) (← loadPasswords hashed.universalNewlines)
  return ((generatedFiles tools outputDir entries (passwords (Text.ofString "healthcheck"))).insert
      passwordsPath (.text hashed)).insert
      securityPath (.text (env.dumps configuration.toJson ++ Text.ofString "\n"))

/-! ### The generated files -/

/-- A file in `clients`. -/
def IsClientPath (path : Path) : Prop := ∃ name, path = [Text.ofString "clients", name]

theorem isClientPath_clientPath (deviceId : Text) (suffix : String) :
    IsClientPath (clientPath deviceId suffix) := ⟨_, rfl⟩

theorem not_isClientPath {directory : Text} {names : Path} (h : directory ≠ Text.ofString "clients") :
    ¬ IsClientPath (directory :: names) := fun ⟨_, hpath⟩ ↦ h (List.cons.inj hpath).1

/-- Every file of a bundle is one whose bytes are UTF-8. -/
def AllText (bundle : Directory) : Prop :=
  ∀ path entry, bundle.lookup path = some entry → ∃ content, entry = .text content

/-- Every file in `clients` is one of an identity and holds its password. -/
def HoldsPasswords (entries : List (Text × HexPassword)) (bundle : Directory) : Prop :=
  ∀ name entry, bundle.lookup [Text.ofString "clients", name] = some entry →
    ∃ e ∈ entries, ∃ suffix ∈ clientSuffixes, name = e.1 ++ Text.ofString suffix ∧
      ∃ content, entry = .text content ∧ storedPassword suffix content = some e.2.val

section Generated
variable {bundle : Directory} {path : Path} {content : Text} {outputDir : Text}
  {entries : List (Text × HexPassword)} {entry : Text × HexPassword}

theorem HexPassword.unbroken (password : HexPassword) : password.val.Unbroken := by
  intro c hc
  have hall := List.all_eq_true.mp password.property.2 c hc
  simp only [Text.isLineBreak, Bool.or_eq_true, Bool.and_eq_true, decide_eq_true_eq,
    Bool.or_eq_false_iff, Bool.and_eq_false_iff, decide_eq_false_iff_not, beq_eq_false_iff_ne]
    at hall ⊢
  omega

theorem AllText.insert (h : AllText bundle) : AllText (bundle.insert path (.text content)) := by
  intro path' entry' hlookup
  by_cases hpath : path' = path
  · rw [hpath, AList.lookup_insert, Option.some.injEq] at hlookup
    exact ⟨content, hlookup.symm⟩
  · rw [AList.lookup_insert_ne hpath] at hlookup
    exact h path' entry' hlookup

theorem HoldsPasswords.insert_of_not (h : HoldsPasswords entries bundle)
    (hpath : ¬ IsClientPath path) : HoldsPasswords entries (bundle.insert path (.text content)) := by
  intro name entry' hlookup
  rw [AList.lookup_insert_ne fun hname ↦ hpath ⟨name, hname.symm⟩] at hlookup
  exact h name entry' hlookup

theorem HoldsPasswords.insert (h : HoldsPasswords entries bundle) (hentry : entry ∈ entries)
    {suffix : String} (hsuffix : suffix ∈ clientSuffixes)
    (hstored : storedPassword suffix content = some entry.2.val) :
    HoldsPasswords entries (bundle.insert (clientPath entry.1 suffix) (.text content)) := by
  intro name entry' hlookup
  by_cases hname : [Text.ofString "clients", name] = clientPath entry.1 suffix
  · rw [hname, AList.lookup_insert, Option.some.injEq] at hlookup
    exact ⟨entry, hentry, suffix, hsuffix, (List.cons.inj (List.cons.inj hname).2).1, content,
      hlookup.symm, hstored⟩
  · rw [AList.lookup_insert_ne hname] at hlookup
    exact h name entry' hlookup

theorem storedPassword_containerConf {identity clientId password : Text}
    (h : password.Unbroken) :
    storedPassword ".container.conf" (containerConf identity clientId password) =
      some password :=
  storedPassword_conf (by decide) h _

theorem storedPassword_hostConf {identity password : Text} (h : password.Unbroken) :
    storedPassword ".host.conf" (hostConf outputDir identity password) = some password :=
  storedPassword_conf (by decide) h _

/-- The client files of an identity are written with its password. -/
theorem HoldsPasswords.writeClientFiles (h : HoldsPasswords entries bundle)
    (hentry : entry ∈ entries) :
    HoldsPasswords entries (writeClientFiles outputDir bundle entry) := by
  have hunbroken := entry.2.unbroken
  exact ((h.insert hentry (by decide) (storedPassword_password hunbroken)).insert hentry
    (by decide) (storedPassword_containerConf hunbroken)).insert hentry (by decide)
    (storedPassword_hostConf hunbroken)

theorem HoldsPasswords.foldl (h : HoldsPasswords entries bundle)
    {rest : List (Text × HexPassword)} (hrest : ∀ entry ∈ rest, entry ∈ entries) :
    HoldsPasswords entries (rest.foldl (Scripts.writeClientFiles outputDir) bundle) := by
  induction rest generalizing bundle with
  | nil => exact h
  | cons entry rest ih =>
    exact ih (h.writeClientFiles (hrest entry List.mem_cons_self))
      fun e he ↦ hrest e (List.mem_cons_of_mem _ he)

theorem AllText.foldl (h : AllText bundle) (rest : List (Text × HexPassword)) :
    AllText (rest.foldl (Scripts.writeClientFiles outputDir) bundle) := by
  induction rest generalizing bundle with
  | nil => exact h
  | cons entry rest ih => exact ih h.insert.insert.insert

/-- Client files are the only ones that are written for the identities. -/
theorem lookup_foldl_writeClientFiles (hpath : ¬ IsClientPath path)
    (rest : List (Text × HexPassword)) :
    (rest.foldl (writeClientFiles outputDir) bundle).lookup path = bundle.lookup path := by
  have hne (entry : Text × HexPassword) (suffix : String) : path ≠ clientPath entry.1 suffix :=
    fun h ↦ hpath (h ▸ isClientPath_clientPath entry.1 suffix)
  induction rest generalizing bundle with
  | nil => rfl
  | cons entry rest ih =>
    rw [List.foldl_cons, ih]
    change AList.lookup path (((bundle.insert (clientPath entry.1 _) _).insert
      (clientPath entry.1 _) _).insert (clientPath entry.1 _) _) = _
    rw [AList.lookup_insert_ne (hne _ _), AList.lookup_insert_ne (hne _ _),
      AList.lookup_insert_ne (hne _ _)]

/-- An identity has a password file and a configuration for containers. -/
theorem mem_foldl_writeClientFiles {rest : List (Text × HexPassword)}
    {suffix : String} (hsuffix : suffix ∈ clientSuffixes)
    (h : clientPath entry.1 suffix ∈ bundle ∨ entry ∈ rest) :
    clientPath entry.1 suffix ∈ rest.foldl (writeClientFiles outputDir) bundle := by
  induction rest generalizing bundle with
  | nil => exact h.resolve_right List.not_mem_nil
  | cons e rest ih =>
    refine ih ?_
    simp only [writeClientFiles, AList.mem_insert]
    rcases h with h | h
    · exact .inl (.inr (.inr (.inr h)))
    · rcases List.mem_cons.mp h with rfl | h
      · simp only [clientSuffixes, List.mem_cons, List.not_mem_nil, or_false] at hsuffix
        rcases hsuffix with rfl | rfl | rfl
        · exact .inl (.inr (.inr (.inl rfl)))
        · exact .inl (.inr (.inl rfl))
        · exact .inl (.inl rfl)
      · exact .inr h

end Generated

/-- The bundle that the generator makes: it is managed, and its identities have the passwords
of their client files. -/
structure GeneratedBundle (env : LifecycleEnv) (entries : List (Text × HexPassword))
    (bundle : Directory) : Prop where
  managed : ensureManagedBundle bundle = .ok ()
  identities : ∃ identities, readIdentities bundle = .ok identities ∧
    (∀ user hash, (user, hash) ∈ identities → ∃ password, (user, password) ∈ entries ∧
      env.verifies hash password.val = true) ∧
    ∀ entry ∈ entries, entry.1 ∈ identities.map (·.1)
  holds : HoldsPasswords entries bundle
  present : ∀ entry ∈ entries, ∀ suffix ∈ clientSuffixes, clientPath entry.1 suffix ∈ bundle

/-- Devices that are checked have the syntax of device ids. -/
theorem valid_of_checkDevices {seen devices : List Text} (h : checkDevices seen devices = .ok ()) :
    ∀ deviceId ∈ devices, validateDeviceIdSyntax deviceId = true := by
  induction devices generalizing seen with
  | nil => simp
  | cons deviceId devices ih =>
    rw [checkDevices] at h
    split at h
    next => cases h
    next hchecked =>
      split at h
      next => cases h
      next =>
        intro d hd
        rcases List.mem_cons.mp hd with rfl | hd
        · exact (checkDeviceId_eq_ok hchecked).2
        · exact ih h d hd

theorem allText_empty : AllText ∅ := fun _ _ h ↦ by
  rw [AList.lookup_empty] at h
  cases h

theorem holdsPasswords_empty (entries : List (Text × HexPassword)) : HoldsPasswords entries ∅ :=
  fun _ _ h ↦ by
    rw [AList.lookup_empty] at h
    cases h

section Files
variable {env : LifecycleEnv} (tools : GeneratorTools env) (outputDir : Text)
  (entries : List (Text × HexPassword)) (healthcheck : HexPassword)

theorem allText_generatedFiles :
    AllText (generatedFiles tools outputDir entries healthcheck) :=
  (AllText.foldl allText_empty.insert.insert.insert.insert entries).insert.insert

theorem lookup_generatedFiles_marker :
    (generatedFiles tools outputDir entries healthcheck).lookup markerPath =
      some (.text (Text.ofString "1\n")) := AList.lookup_insert _

theorem lookup_generatedFiles_ca :
    (generatedFiles tools outputDir entries healthcheck).lookup caPath =
      some (.text tools.caCertificate) := by
  have hclient : ¬ IsClientPath caPath := not_isClientPath (by decide)
  have hconf : caPath ≠ clientPath (Text.ofString "healthcheck") ".container.conf" :=
    fun h ↦ hclient (h ▸ isClientPath_clientPath _ _)
  rw [generatedFiles, AList.lookup_insert_ne (by decide), AList.lookup_insert_ne hconf,
    lookup_foldl_writeClientFiles hclient, AList.lookup_insert_ne (by decide),
    AList.lookup_insert_ne (by decide), AList.lookup_insert_ne (by decide), AList.lookup_insert]

theorem holdsPasswords_generatedFiles
    (hentry : (Text.ofString "healthcheck", healthcheck) ∈ entries) :
    HoldsPasswords entries (generatedFiles tools outputDir entries healthcheck) := by
  unfold generatedFiles
  refine .insert_of_not (.insert (.foldl (.insert_of_not (.insert_of_not (.insert_of_not
    (.insert_of_not (holdsPasswords_empty entries) ?_) ?_) ?_) ?_) fun _ h ↦ h) hentry
    (by decide) (storedPassword_conf (by decide) healthcheck.unbroken _)) ?_ <;>
  exact not_isClientPath (by decide)

theorem mem_generatedFiles {entry : Text × HexPassword} (hentry : entry ∈ entries)
    {suffix : String} (hsuffix : suffix ∈ clientSuffixes) :
    clientPath entry.1 suffix ∈ generatedFiles tools outputDir entries healthcheck :=
  AList.mem_insert _ |>.mpr (.inr (AList.mem_insert _ |>.mpr
    (.inr (mem_foldl_writeClientFiles hsuffix (.inr hentry)))))

end Files

/-- Text files with the marker and what is required make a managed bundle. -/
theorem ensureManagedBundle_of_allText {bundle : Directory} (h : AllText bundle)
    (hmarker : bundle.lookup markerPath = some (.text (Text.ofString "1\n")))
    (hrequired : ∀ path ∈ requiredFiles, path ∈ bundle) : ensureManagedBundle bundle = .ok () := by
  have hsymlink (path : Path) : bundle.isSymlink path = false := by
    rw [Directory.isSymlink, decide_eq_false_iff_not]
    intro hlookup
    obtain ⟨content, hcontent⟩ := h path _ hlookup
    cases hcontent
  refine ensureManagedBundle_eq_ok_iff.mpr ⟨hsymlink _, ⟨Text.ofString "1\n", ?_, by decide⟩,
    fun path _ ↦ hsymlink path, fun path hpath ↦ ?_⟩
  · rw [Directory.readText, hmarker]
    rfl
  · obtain ⟨entry, hentry⟩ := Option.isSome_iff_exists.mp
      (AList.lookup_isSome.mpr (hrequired path hpath))
    obtain ⟨content, rfl⟩ := h path entry hentry
    rw [Directory.isFile, hentry]

theorem except_bind_eq_ok {α β : Type} {m : Except PythonError α} {f : α → Except PythonError β}
    {b : β} : m >>= f = .ok b ↔ ∃ a, m = .ok a ∧ f a = .ok b := by
  cases m <;> simp [bind, Except.bind]

/-- The bundle that the generator leaves is managed and holds the passwords of its
identities. -/
theorem generatedBundle_of_generate {env : LifecycleEnv} {tools : GeneratorTools env}
    {outputDir : Text} {devices : List Text} {passwords : Text → HexPassword} {bundle : Directory}
    (h : generateBundle env tools outputDir devices passwords = .ok bundle) :
    GeneratedBundle env (generatedEntries devices passwords) bundle := by
  simp only [generateBundle, except_bind_eq_ok] at h
  obtain ⟨_, hdevices, policy, -, identities, hload, configuration, -, h⟩ := h
  obtain rfl := Except.ok.inj h
  have hhealthcheck : (Text.ofString "healthcheck", passwords (Text.ofString "healthcheck")) ∈
      generatedEntries devices passwords :=
    List.mem_map.mpr ⟨_, List.mem_append_left _ (by decide), rfl⟩
  have hservices : ∀ identity ∈ serviceIdentities, validateDeviceIdSyntax identity = true := by
    decide
  have hnames : ∀ entry ∈ generatedEntries devices passwords,
      validateDeviceIdSyntax entry.1 = true := by
    intro entry hentry
    obtain ⟨identity, hidentity, rfl⟩ := List.mem_map.mp hentry
    rcases List.mem_append.mp hidentity with hservice | hdevice
    · exact hservices identity hservice
    · exact valid_of_checkDevices hdevices identity hdevice
  generalize generatedEntries devices passwords = entries at hload hhealthcheck hnames ⊢
  have hfiles := allText_generatedFiles tools outputDir entries
    (passwords (Text.ofString "healthcheck"))
  have hholds := holdsPasswords_generatedFiles tools outputDir entries _ hhealthcheck
  have hmarker := lookup_generatedFiles_marker tools outputDir entries
    (passwords (Text.ofString "healthcheck"))
  have hca := lookup_generatedFiles_ca tools outputDir entries
    (passwords (Text.ofString "healthcheck"))
  have hmem {entry : Text × HexPassword} (hentry : entry ∈ entries) {suffix : String}
      (hsuffix : suffix ∈ clientSuffixes) :=
    mem_generatedFiles tools outputDir entries (passwords (Text.ofString "healthcheck")) hentry
      hsuffix
  generalize generatedFiles tools outputDir entries (passwords (Text.ofString "healthcheck")) =
    files at hfiles hholds hmarker hca hmem ⊢
  exact
    { managed := by
        refine ensureManagedBundle_of_allText hfiles.insert.insert ?_ fun path hpath ↦ ?_
        · rw [AList.lookup_insert_ne (by decide), AList.lookup_insert_ne (by decide), hmarker]
        · simp only [AList.mem_insert]
          simp only [requiredFiles, List.mem_cons, List.not_mem_nil, or_false] at hpath
          rcases hpath with rfl | rfl | rfl
          · exact .inr (.inr (AList.lookup_isSome.mp (by rw [hca]; rfl)))
          · exact .inr (.inl rfl)
          · exact .inl rfl
      identities := ⟨identities, by
          rw [← hload]
          refine readIdentities_of_lookup ?_
          rw [AList.lookup_insert_ne (by decide), AList.lookup_insert],
        tools.verifies_hashPasswords hnames hload⟩
      holds := (hholds.insert_of_not (not_isClientPath (by decide))).insert_of_not
        (not_isClientPath (by decide))
      present := fun entry hentry suffix hsuffix ↦
        AList.mem_insert _ |>.mpr (.inr (AList.mem_insert _ |>.mpr (.inr (hmem hentry hsuffix)))) }

end EdgeMonitor.Scripts
