import EdgeMonitor.Scripts.CredentialCommands

/-!
# What the commands publish

Library `Scripts`. The bundle that a command publishes, file by file: the password file as
`load_passwords` reads it, the files of the device, and the files that stay.
-/

namespace EdgeMonitor.Scripts
open EdgeMonitor.Base
open EdgeMonitor.Backend (validateDeviceIdSyntax)

/-! ### Client files -/

/-- The files in `clients` of an identity, `generate-mqtt-security.sh:229–253`. -/
def clientSuffixes : List String := [".password", ".container.conf", ".host.conf"]

/-- The last characters tell the files of an identity apart. -/
private theorem reverse_take_clientPath {suffix : String} (h : suffix ∈ clientSuffixes)
    (deviceId : Text) : (deviceId ++ Text.ofString suffix).reverse.take 6 =
      (Text.ofString suffix).reverse.take 6 := by
  have hlength : ∀ suffix ∈ clientSuffixes, 6 ≤ (Text.ofString suffix).reverse.length := by decide
  rw [List.reverse_append, List.take_append_of_le_length (hlength suffix h)]

/-- A client file belongs to one identity. -/
theorem clientPath_inj {deviceId deviceId' : Text} {suffix suffix' : String}
    (hsuffix : suffix ∈ clientSuffixes) (hsuffix' : suffix' ∈ clientSuffixes)
    (h : clientPath deviceId suffix = clientPath deviceId' suffix') :
    deviceId = deviceId' ∧ suffix = suffix' := by
  have hname : deviceId ++ Text.ofString suffix = deviceId' ++ Text.ofString suffix' :=
    (List.cons.inj (List.cons.inj h).2).1
  have hlast : ∀ suffix ∈ clientSuffixes, ∀ suffix' ∈ clientSuffixes,
      (Text.ofString suffix).reverse.take 6 = (Text.ofString suffix').reverse.take 6 →
        suffix = suffix' := by decide
  have hends := congrArg (fun name ↦ name.reverse.take 6) hname
  rw [reverse_take_clientPath hsuffix, reverse_take_clientPath hsuffix'] at hends
  obtain rfl := hlast suffix hsuffix suffix' hsuffix' hends
  exact ⟨List.append_cancel_right hname, rfl⟩

theorem clientPath_ne_passwordsPath (deviceId : Text) (suffix : String) :
    clientPath deviceId suffix ≠ passwordsPath :=
  fun h ↦ absurd (List.cons.inj h).1 (by decide)

theorem clientPath_ne_securityPath (deviceId : Text) (suffix : String) :
    clientPath deviceId suffix ≠ securityPath :=
  fun h ↦ absurd (List.cons.inj h).1 (by decide)

theorem clientPath_ne_deviceMetadataPath (deviceId deviceId' : Text) (suffix : String) :
    clientPath deviceId suffix ≠ deviceMetadataPath deviceId' :=
  fun h ↦ absurd (List.cons.inj h).1 (by decide)

theorem deviceMetadataPath_ne_passwordsPath (deviceId : Text) :
    deviceMetadataPath deviceId ≠ passwordsPath :=
  fun h ↦ absurd (List.cons.inj h).1 (by decide)

theorem deviceMetadataPath_ne_securityPath (deviceId : Text) :
    deviceMetadataPath deviceId ≠ securityPath :=
  fun h ↦ absurd (List.cons.inj h).1 (by decide)

theorem deviceMetadataPath_inj {deviceId deviceId' : Text}
    (h : deviceMetadataPath deviceId = deviceMetadataPath deviceId') : deviceId = deviceId' :=
  List.append_cancel_right (List.cons.inj (List.cons.inj h).2).1

/-- The files that the pattern of a device matches. -/
theorem mem_clientFiles_iff {deviceId : Text} {bundle : Directory} {path : Path} :
    path ∈ clientFiles deviceId bundle ↔ path ∈ bundle ∧
      ∃ name, path = [Text.ofString "clients", name] ∧
        (deviceId ++ Text.ofString ".") <+: name := by
  rw [clientFiles, List.mem_filter, AList.mem_keys]
  refine and_congr_right fun _ ↦ ⟨fun h ↦ ?_, ?_⟩
  · split at h
    next directory name _ =>
      simp only [decide_eq_true_eq] at h
      exact ⟨name, by rw [h.1], List.isPrefixOf_iff_prefix.mp h.2⟩
    next => cases h
  · rintro ⟨name, rfl, h⟩
    simpa using h

theorem clientPath_mem_clientFiles {deviceId : Text} {suffix : String}
    (hsuffix : suffix ∈ clientSuffixes) {bundle : Directory}
    (h : clientPath deviceId suffix ∈ bundle) :
    clientPath deviceId suffix ∈ clientFiles deviceId bundle := by
  refine mem_clientFiles_iff.mpr ⟨h, _, rfl, ?_⟩
  have hdot : ∀ suffix ∈ clientSuffixes, Text.ofString "." <+: Text.ofString suffix := by decide
  exact (List.prefix_append_right_inj deviceId).mpr (hdot suffix hsuffix)

/-- Writing a file that the pattern does not match leaves the matches as they are. -/
theorem mem_clientFiles_insert {deviceId : Text} {bundle : Directory} {path path' : Path}
    {entry : Entry} (h : path ≠ path') : path ∈ clientFiles deviceId (bundle.insert path' entry) ↔
      path ∈ clientFiles deviceId bundle := by
  rw [mem_clientFiles_iff, mem_clientFiles_iff, AList.mem_insert, or_iff_right h]

/-- Files are removed one by one. -/
theorem lookup_foldl_erase (paths : List Path) (bundle : Directory) (path : Path) :
    (paths.foldl (·.erase ·) bundle).lookup path =
      if path ∈ paths then none else bundle.lookup path := by
  induction paths generalizing bundle with
  | nil => simp
  | cons path' paths ih =>
    rw [List.foldl_cons, ih]
    by_cases hmem : path ∈ paths
    · simp [hmem]
    · by_cases heq : path = path'
      · rw [if_neg hmem, heq, AList.lookup_erase, if_pos List.mem_cons_self]
      · simp [hmem, heq, AList.lookup_erase_ne heq]

/-! ### The password file -/

/-- Without the lines of a user, the other users are loaded in their order. -/
theorem loadPasswordLines_filter (deviceId : Text) {lines : List Text} {lineNumber : Nat}
    (lineNumber' : Nat) {passwords identities : List (Text × Text)}
    (h : loadPasswordLines lineNumber passwords lines = .ok identities) :
    loadPasswordLines lineNumber' (passwords.filter (·.1 ≠ deviceId))
        (lines.filter fun line ↦ (Text.partitionAt line 0x3A).1 ≠ deviceId) =
      .ok (identities.filter (·.1 ≠ deviceId)) := by
  induction lines generalizing lineNumber lineNumber' passwords with
  | nil =>
    rw [← Except.ok.inj h]
    rfl
  | cons line lines ih =>
    rw [loadPasswordLines] at h
    split at h
    next hempty =>
      subst hempty
      by_cases hd : (Text.partitionAt [] 0x3A).1 = deviceId
      · rw [List.filter_cons_of_neg (by simp [hd])]
        exact ih _ h
      · rw [List.filter_cons_of_pos (by simp [hd]), loadPasswordLines, if_pos rfl]
        exact ih _ h
    next hline =>
      split at h
      next => cases h
      next username hash hpair =>
        split at h
        next => cases h
        next hvalid =>
          split at h
          next => cases h
          next hnew =>
            by_cases hd : username = deviceId
            · rw [List.filter_cons_of_neg (by simp [hpair, hd])]
              have hrest := ih lineNumber' h
              rwa [List.filter_append, List.filter_cons_of_neg (by simp [hd]), List.filter_nil,
                List.append_nil] at hrest
            · have hnew' : username ∉ (passwords.filter (·.1 ≠ deviceId)).map (·.1) := by
                refine fun hmem ↦ hnew ?_
                obtain ⟨entry, hentry, rfl⟩ := List.mem_map.mp hmem
                exact List.mem_map.mpr ⟨entry, (List.mem_filter.mp hentry).1, rfl⟩
              rw [List.filter_cons_of_pos (by simp [hpair, hd]), loadPasswordLines, if_neg hline,
                hpair]
              simp only [if_neg hvalid, if_neg hnew']
              have hrest := ih (lineNumber' + 1) h
              rwa [List.filter_append, List.filter_cons_of_pos (by simp [hd]),
                List.filter_nil] at hrest

/-- No user is loaded twice. -/
theorem nodup_of_loadPasswordLines {lines : List Text} {lineNumber : Nat}
    {passwords identities : List (Text × Text)}
    (h : loadPasswordLines lineNumber passwords lines = .ok identities)
    (hnodup : (passwords.map (·.1)).Nodup) : (identities.map (·.1)).Nodup := by
  induction lines generalizing lineNumber passwords with
  | nil =>
    rw [← Except.ok.inj h]
    exact hnodup
  | cons line lines ih =>
    rw [loadPasswordLines] at h
    split at h
    next => exact ih h hnodup
    next =>
      split at h
      next => cases h
      next username hash _ =>
        split at h
        next => cases h
        next =>
          split at h
          next => cases h
          next hnew =>
            refine ih h ?_
            rw [List.map_append, List.nodup_append]
            refine ⟨hnodup, List.nodup_singleton _, fun user huser user' huser' heq ↦ hnew ?_⟩
            obtain rfl : user' = username := by simpa using huser'
            exact heq ▸ huser

/-- A user has one hash. -/
theorem hash_unique {text user hash hash' : Text} {identities : List (Text × Text)}
    (h : loadPasswords text = .ok identities) (hmem : (user, hash) ∈ identities)
    (hmem' : (user, hash') ∈ identities) : hash = hash' := by
  have hnodup := nodup_of_loadPasswordLines (loadPasswords_eq_ok_iff.mp h).1 List.nodup_nil
  exact congrArg Prod.snd (List.inj_on_of_nodup_map hnodup hmem hmem' rfl)

/-- `remove_identity` removes one user and keeps the others in their order. -/
theorem loadPasswords_removeIdentity {deviceId text : Text}
    {identities identities' : List (Text × Text)} (h : loadPasswords text = .ok identities)
    (h' : loadPasswords (removeIdentity text deviceId).universalNewlines = .ok identities') :
    identities' = identities.filter (·.1 ≠ deviceId) := by
  have hunbroken : ∀ line ∈ text.splitlines.filter
      fun line ↦ (Text.partitionAt line 0x3A).1 ≠ deviceId, Text.Unbroken line :=
    fun line hline ↦ Text.unbroken_of_mem_splitlines (List.mem_filter.mp hline).1
  rw [removeIdentity, show Text.ofString "\n" = [0x0A] from rfl,
    Text.universalNewlines_intercalate hunbroken, loadPasswords_eq_ok_iff] at h'
  obtain ⟨h', hne⟩ := h'
  have hloaded := loadPasswordLines_filter deviceId 1 (loadPasswords_eq_ok_iff.mp h).1
  rw [List.filter_nil] at hloaded
  cases hlines : text.splitlines.filter fun line ↦ (Text.partitionAt line 0x3A).1 ≠ deviceId with
  | nil =>
    rw [hlines] at h'
    exact absurd (Except.ok.inj h').symm hne
  | cons line lines =>
    rw [Text.splitlines_intercalate hunbroken (by rw [hlines]; exact List.cons_ne_nil _ _), hloaded] at h'
    exact (Except.ok.inj h').symm

/-! ### Revocations -/

/-- The bundle that a revocation publishes. -/
structure RevokedBundle (env : LifecycleEnv) (deviceId : Text) (bundle staged : Directory)
    (identities : List (Text × Text)) : Prop where
  before : readIdentities bundle = .ok identities
  present : deviceId ∈ identities.map (·.1)
  after : readIdentities staged = .ok (identities.filter (·.1 ≠ deviceId))
  lookup : ∀ path, path ≠ passwordsPath → path ≠ securityPath → staged.lookup path =
    if path ∈ clientFiles deviceId bundle ∨ path = deviceMetadataPath deviceId then none
    else bundle.lookup path
  security : ∃ policy configuration,
    buildConfiguration policy (identities.filter (·.1 ≠ deviceId)) = .ok configuration ∧
    staged.lookup securityPath =
      some (.text (env.dumps configuration.toJson ++ Text.ofString "\n"))

theorem readIdentities_congr {bundle bundle' : Directory}
    (h : bundle.lookup passwordsPath = bundle'.lookup passwordsPath) :
    readIdentities bundle = readIdentities bundle' := by
  rw [readIdentities, readIdentities, Directory.readText, Directory.readText, h]

/-- The checks of a device id return it. -/
theorem validateExistingDeviceId_eq_ok {value deviceId : Text}
    (h : validateExistingDeviceId value = .ok deviceId) : deviceId = value := by
  rw [validateExistingDeviceId] at h
  split at h
  · exact (Except.ok.inj h).symm
  · exact (checkDeviceId_eq_ok h).1

/-- A plan to revoke publishes the bundle without the device. -/
theorem revokedBundle_of_plan {env : LifecycleEnv} {deviceId : Text} {output : Option Entry}
    {bundle staged : Directory} {content : Option Text}
    (h : (CredentialCommand.plan env output (.revoke deviceId)).run bundle =
      .ok (content, staged)) :
    ∃ identities, RevokedBundle env deviceId bundle staged identities := by
  simp only [CredentialCommand.plan, transactionEdit, run_bind_eq_ok, run_read_eq_ok] at h
  obtain ⟨deviceId', _, ⟨hdevice, rfl⟩, _, _, hpublished, -, rfl⟩ := h
  obtain rfl := validateExistingDeviceId_eq_ok hdevice
  obtain ⟨edited, policy, identities', configuration, hedit, -, hidentities', hconfiguration,
    rfl⟩ := publishedEdit_eq_ok hpublished
  simp only [revokeEdit, run_bind_eq_ok, run_read_eq_ok, run_write_eq_ok, run_writeText_eq_ok]
    at hedit
  obtain ⟨identities, _, ⟨hidentities, rfl⟩, _, _, ⟨hpresent, rfl⟩, text, _, ⟨htext, rfl⟩, _, _,
    rfl, _, _, hclients, hmetadata⟩ := hedit
  have hpresent : deviceId' ∈ identities.map (·.1) := by
    split at hpresent
    next => cases hpresent
    next hmem => exact not_not.mp hmem
  have hlookup (path : Path) : edited.lookup path =
      if path ∈ clientFiles deviceId'
          (bundle.insert passwordsPath (.text (removeIdentity text deviceId'))) ∨
        path = deviceMetadataPath deviceId' then none
      else (bundle.insert passwordsPath (.text (removeIdentity text deviceId'))).lookup path := by
    rw [← Except.ok.inj hmetadata, ← Except.ok.inj hclients]
    by_cases hpath : path = deviceMetadataPath deviceId'
    · rw [hpath, AList.lookup_erase, if_pos (.inr rfl)]
    · simp only [AList.lookup_erase_ne hpath, lookup_foldl_erase, hpath, or_false]
  have hpasswords : edited.lookup passwordsPath = some (.text (removeIdentity text deviceId')) := by
    rw [hlookup, if_neg, AList.lookup_insert]
    rintro (hmem | hmetadata)
    · obtain ⟨-, name, hname, -⟩ := mem_clientFiles_iff.mp hmem
      exact absurd (List.cons.inj hname).1 (by decide)
    · exact deviceMetadataPath_ne_passwordsPath deviceId' hmetadata.symm
  have hload : loadPasswords text = .ok identities := by
    rwa [readIdentities, htext] at hidentities
  have hread := readIdentities_of_lookup hpasswords
  obtain rfl := loadPasswords_removeIdentity hload (hread.symm.trans hidentities')
  refine ⟨identities, hidentities, hpresent, ?_, fun path hpasswordsPath hsecurityPath ↦ ?_,
    policy, configuration, hconfiguration, AList.lookup_insert _⟩
  · rw [← hidentities']
    exact readIdentities_congr (AList.lookup_insert_ne (by decide))
  · rw [AList.lookup_insert_ne hsecurityPath, hlookup]
    simp only [mem_clientFiles_insert hpasswordsPath, AList.lookup_insert_ne hpasswordsPath]

/-! ### New credentials -/

/-- The client id of a device. -/
def deviceClientId (deviceId : Text) : Text := Text.ofString "iem-" ++ deviceId

/-- The bundle that `add` or `rotate` publishes, and its package. -/
structure CredentialBundle (env : LifecycleEnv) (rotate : Bool) (deviceId password : Text)
    (bundle staged : Directory) (content : Option Text) : Prop where
  validId : validateDeviceIdSyntax deviceId = true
  before : ∃ identities, readIdentities bundle = .ok identities ∧
    rotate = decide (deviceId ∈ identities.map (·.1))
  passwords : ∃ text identities, bundle.lookup passwordsPath = some (.text text) ∧
    staged.lookup passwordsPath = some (.text (env.passwd text deviceId password)) ∧
    readIdentities staged = .ok identities
  passwordFile : staged.lookup (clientPath deviceId ".password") =
    some (.text (password ++ Text.ofString "\n"))
  confFile : staged.lookup (clientPath deviceId ".container.conf") =
    some (.text (containerConf deviceId (deviceClientId deviceId) password))
  others : ∀ path, path ≠ passwordsPath → path ≠ securityPath →
    path ≠ deviceMetadataPath deviceId → path ≠ clientPath deviceId ".password" →
    path ≠ clientPath deviceId ".container.conf" → staged.lookup path = bundle.lookup path
  package : ∃ package : ProvisioningPackage,
    content = some (env.dumps package.toJson ++ Text.ofString "\n") ∧
    package.username = deviceId ∧ package.password = password

theorem clientPath_password_ne_containerConf (deviceId : Text) :
    clientPath deviceId ".password" ≠ clientPath deviceId ".container.conf" := by
  intro h
  have hsuffix := (clientPath_inj (by decide) (by decide) h).2
  exact absurd hsuffix (by decide)

/-- A plan for a credential publishes the files of the device and keeps the others. -/
theorem credentialBundle_of_plan {env : LifecycleEnv} {rotate : Bool} {deviceId brokerUri : Text}
    {password : PasswordToken} {output : Option Entry} {bundle staged : Directory}
    {content : Option Text}
    (h : (credentialPlan env rotate deviceId brokerUri password output).run bundle =
      .ok (content, staged)) :
    CredentialBundle env rotate deviceId password.val bundle staged content := by
  simp only [credentialPlan, transactionEdit, run_bind_eq_ok, run_read_eq_ok] at h
  obtain ⟨deviceId', _, ⟨hdevice, rfl⟩, brokerUri', _, ⟨-, rfl⟩, _, _, ⟨-, rfl⟩, package, _,
    hpublished, hpackage, rfl⟩ := h
  obtain ⟨rfl, hsyntax⟩ := checkDeviceId_eq_ok hdevice
  obtain ⟨edited, _, identities', _, hedit, -, hidentities', -, rfl⟩ :=
    publishedEdit_eq_ok hpublished
  simp only [credentialEdit, deviceFilesEdit, run_bind_eq_ok, run_read_eq_ok, run_write_eq_ok,
    run_writeText_eq_ok, run_pure_eq_ok] at hedit
  obtain ⟨identities, _, ⟨hidentities, rfl⟩, _, _, ⟨hrotate, rfl⟩, _, hashed, hpasswd, clientId, _,
    ⟨hclient, rfl⟩, ca, _, ⟨-, rfl⟩, _, _, rfl, _, _, rfl, _, _, rfl, rfl, rfl⟩ := hedit
  have hclientId : clientId = deviceClientId deviceId' := by
    rw [mqttClientId, hdevice] at hclient
    exact (Except.ok.inj hclient).symm
  subst hclientId
  obtain ⟨old, hold, rfl⟩ : ∃ old, bundle.lookup passwordsPath = some (.text old) ∧
      hashed = bundle.insert passwordsPath (.text (env.passwd old deviceId' password.val)) := by
    split at hpasswd
    next old hold => exact ⟨old, hold, (Except.ok.inj hpasswd).symm⟩
    next => cases hpasswd
  have hpasswords := deviceMetadataPath_ne_passwordsPath deviceId'
  have hclientPasswords (suffix : String) := clientPath_ne_passwordsPath deviceId' suffix
  have hclientSecurity (suffix : String) := clientPath_ne_securityPath deviceId' suffix
  have hsecurity : passwordsPath ≠ securityPath := by decide
  refine
    { validId := hsyntax
      before := ⟨identities, hidentities, ?_⟩
      passwords := ⟨old, identities', hold, ?_, ?_⟩
      passwordFile := ?_
      confFile := ?_
      others := fun path hne hne' hmetadata hpassword hconf ↦ ?_
      package := ⟨_, packageText_eq_ok hpackage, rfl, rfl⟩ }
  · split at hrotate
    next => cases hrotate
    next hsame => simpa using hsame
  · rw [AList.lookup_insert_ne hsecurity, AList.lookup_insert_ne (hclientPasswords _).symm,
      AList.lookup_insert_ne (hclientPasswords _).symm, AList.lookup_insert_ne hpasswords.symm,
      AList.lookup_insert]
  · rw [← hidentities']
    exact readIdentities_congr (AList.lookup_insert_ne hsecurity)
  · rw [AList.lookup_insert_ne (hclientSecurity _),
      AList.lookup_insert_ne (clientPath_password_ne_containerConf deviceId'), AList.lookup_insert]
  · rw [AList.lookup_insert_ne (hclientSecurity _), AList.lookup_insert]
  · rw [AList.lookup_insert_ne hne', AList.lookup_insert_ne hconf, AList.lookup_insert_ne hpassword,
      AList.lookup_insert_ne hmetadata, AList.lookup_insert_ne hne]

end EdgeMonitor.Scripts
