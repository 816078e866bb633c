import EdgeMonitor.Base.Machine
import EdgeMonitor.Scripts.GeneratedBundle
import EdgeMonitor.Scripts.Revocation

/-!
# One credential per device

Library `Scripts`. Sequences of commands on a bundle of the generator. The commands write two
files of a device; the generator also writes a `host.conf`, which `rotate` leaves with the
password that it replaces.
-/

namespace EdgeMonitor.Scripts
open EdgeMonitor.Base
open EdgeMonitor.Backend (validateDeviceIdSyntax)

/-! ### Sequences of commands -/

/-- The bundle, and the last package that was written for each device. -/
structure CredentialStore where
  bundle : Directory
  packages : Text → Option Entry

/-- A command with what lies at its package output and the fault that it meets. -/
structure CredentialCall where
  command : CredentialCommand
  output : Option Entry
  fault : Option LifecycleFault

/-- The device of a new package. -/
def CredentialCommand.packaged : CredentialCommand → Option Text
  | add deviceId _ _ => some deviceId
  | rotate deviceId _ _ => some deviceId
  | revoke _ => none

/-- The commands; each returns or raises. -/
def credentialStore (env : LifecycleEnv) : Machine CredentialStore CredentialCall Bool where
  step s call :=
    let (returned, files) := call.command.run env s.bundle call.output call.fault
    let packages :=
      match call.command.packaged with
      | some deviceId =>
        if returned then Function.update s.packages deviceId files.output else s.packages
      | none => s.packages
    (⟨(files.dirs .bundle).getD s.bundle, packages⟩, returned)

/-- The current password of each user, the passwords drawn so far, and those that a rotation
has replaced. -/
structure PasswordHistory where
  current : Text → Option Text
  drawn : List Text
  replaced : List Text

/-- A user has a new password. -/
def PasswordHistory.set (h : PasswordHistory) (deviceId password : Text) (replaced : List Text) :
    PasswordHistory where
  current := Function.update h.current deviceId (some password)
  drawn := password :: h.drawn
  replaced := replaced ++ h.replaced

/-- The history after a command that returned. -/
def PasswordHistory.advance (h : PasswordHistory) : CredentialCommand → PasswordHistory
  | .add deviceId _ password => h.set deviceId password.val []
  | .rotate deviceId _ password => h.set deviceId password.val (h.current deviceId).toList
  | .revoke deviceId => { h with current := Function.update h.current deviceId none }

/-- The commands with the history of the passwords. -/
def credentialHistory (env : LifecycleEnv) :
    Machine (CredentialStore × PasswordHistory) CredentialCall Bool :=
  (credentialStore env).observed fun h _ call r ↦ if r.2 then h.advance call.command else h

/-- A generated bundle, without packages. -/
def CredentialStore.generated (bundle : Directory) : CredentialStore := ⟨bundle, fun _ ↦ none⟩

/-- The passwords of a generated bundle. -/
def PasswordHistory.generated (entries : List (Text × HexPassword)) : PasswordHistory where
  current user := (entries.lookup user).map (·.val)
  drawn := entries.map (·.2.val)
  replaced := []

/-- The client files of each user and its last package hold one password, whose hash is stored;
and no client file holds a password that a rotation has replaced. -/
structure OneCredential (env : LifecycleEnv) (s : CredentialStore) (replaced : List Text) :
    Prop where
  same : ∀ identities, readIdentities s.bundle = .ok identities → ∀ user hash,
    (user, hash) ∈ identities → ∃ password, env.verifies hash password = true ∧
      (∀ suffix ∈ clientSuffixes, ∀ entry, s.bundle.lookup (clientPath user suffix) = some entry →
        ∃ content, entry = .text content ∧ storedPassword suffix content = some password) ∧
      ∀ entry, s.packages user = some entry → ∃ package : ProvisioningPackage,
        entry = .text (env.dumps package.toJson ++ Text.ofString "\n") ∧
        package.username = user ∧ package.password = password
  present : ∀ identities, readIdentities s.bundle = .ok identities → ∀ user ∈ identities.map (·.1),
    clientPath user ".password" ∈ s.bundle ∧ clientPath user ".container.conf" ∈ s.bundle
  notReplaced : ∀ name entry, s.bundle.lookup [Text.ofString "clients", name] = some entry →
    ∃ user, ∃ suffix ∈ clientSuffixes, name = user ++ Text.ofString suffix ∧
      ∃ content password, entry = .text content ∧ storedPassword suffix content = some password ∧
        password ∉ replaced

/-! ### The condition -/

/-- The password that a command draws. -/
def CredentialCommand.password : CredentialCommand → Option Text
  | add _ _ password => some password.val
  | rotate _ _ password => some password.val
  | revoke _ => none

/-- A rotated device has no `host.conf`, and the pattern of a revoked one matches no file of
another identity. -/
def CredentialCommand.CoversFiles (bundle : Directory) : CredentialCommand → Prop
  | add _ _ _ => True
  | rotate deviceId _ _ => clientPath deviceId ".host.conf" ∉ bundle
  | revoke deviceId => SparesOthers deviceId bundle

instance (bundle : Directory) (command : CredentialCommand) :
    Decidable (command.CoversFiles bundle) :=
  match command with
  | .add _ _ _ => isTrue trivial
  | .rotate deviceId _ _ => inferInstanceAs (Decidable (clientPath deviceId ".host.conf" ∉ bundle))
  | .revoke deviceId => inferInstanceAs (Decidable (SparesOthers deviceId bundle))

/-- A command returns, draws a password that was not drawn before, and finds only the files of
the device that it rewrites or removes. -/
structure KeepsOneCredential (env : LifecycleEnv) (x : CredentialStore × PasswordHistory)
    (call : CredentialCall) : Prop where
  returns : ((credentialStore env).step x.1 call).2 = true
  fresh : ∀ password ∈ call.command.password, password ∉ x.2.drawn
  covers : call.command.CoversFiles x.1.bundle

instance (env : LifecycleEnv) (x : CredentialStore × PasswordHistory) (call : CredentialCall) :
    Decidable (KeepsOneCredential env x call) :=
  decidable_of_iff
    (((credentialStore env).step x.1 call).2 = true ∧
      (∀ password ∈ call.command.password, password ∉ x.2.drawn) ∧
      call.command.CoversFiles x.1.bundle)
    ⟨fun h ↦ ⟨h.1, h.2.1, h.2.2⟩, fun h ↦ ⟨h.returns, h.fresh, h.covers⟩⟩

/-- `mosquitto_passwd` leaves the other users as they are. -/
def KeepsOtherUsers (passwd : Text → Text → Text → Text) : Prop :=
  ∀ (content username : Text) (password : PasswordToken) (identities identities' : List (Text × Text)),
    validateDeviceIdSyntax username = true → loadPasswords content.universalNewlines = .ok identities →
    loadPasswords (passwd content username password.val).universalNewlines = .ok identities' →
    ∀ user hash, user ≠ username → ((user, hash) ∈ identities' ↔ (user, hash) ∈ identities)

/-! ### The invariant -/

/-- Every client file holds the current password of its user, and the current passwords are
those whose hashes are stored. -/
structure CredentialsKept (env : LifecycleEnv) (s : CredentialStore) (h : PasswordHistory) :
    Prop where
  managed : ensureManagedBundle s.bundle = .ok ()
  identities : ∃ identities, readIdentities s.bundle = .ok identities ∧
    (∀ user hash, (user, hash) ∈ identities →
      ∃ password, h.current user = some password ∧ env.verifies hash password = true) ∧
    ∀ user password, h.current user = some password → user ∈ identities.map (·.1)
  files : ∀ name entry, s.bundle.lookup [Text.ofString "clients", name] = some entry →
    ∃ user, ∃ suffix ∈ clientSuffixes, name = user ++ Text.ofString suffix ∧
      ∃ content password, entry = .text content ∧ storedPassword suffix content = some password ∧
        h.current user = some password
  present : ∀ user password, h.current user = some password →
    clientPath user ".password" ∈ s.bundle ∧ clientPath user ".container.conf" ∈ s.bundle
  packages : ∀ user entry password, s.packages user = some entry →
    h.current user = some password → ∃ package : ProvisioningPackage,
      entry = .text (env.dumps package.toJson ++ Text.ofString "\n") ∧
      package.username = user ∧ package.password = password
  distinct : ∀ user user' password, h.current user = some password →
    h.current user' = some password → user = user'
  drawn : ∀ user password, h.current user = some password → password ∈ h.drawn
  replaced : ∀ password ∈ h.replaced, password ∈ h.drawn ∧ ∀ user, h.current user ≠ some password

section Kept
variable {env : LifecycleEnv} {s : CredentialStore} {h : PasswordHistory} {deviceId : Text}
  {staged : Directory} {content : Option Text}

/-- What is kept means one credential for each user. -/
theorem CredentialsKept.oneCredential (hk : CredentialsKept env s h) :
    OneCredential env s h.replaced := by
  obtain ⟨identities, hidentities, hcurrent, -⟩ := hk.identities
  refine ⟨fun identities' hidentities' user hash hmem ↦ ?_, fun identities' hidentities' user hmem ↦
    ?_, fun name entry hlookup ↦ ?_⟩
  · obtain rfl := Except.ok.inj (hidentities.symm.trans hidentities')
    obtain ⟨password, hpassword, hverifies⟩ := hcurrent user hash hmem
    refine ⟨password, hverifies, fun suffix hsuffix entry hlookup ↦ ?_,
      fun entry hentry ↦ hk.packages user entry password hentry hpassword⟩
    obtain ⟨user', suffix', hsuffix', hname, content, password', hcontent, hstored, hpassword'⟩ :=
      hk.files _ entry hlookup
    obtain ⟨rfl, rfl⟩ := clientPath_inj hsuffix hsuffix' (congrArg (fun name ↦ [_, name]) hname)
    rw [hpassword, Option.some.injEq] at hpassword'
    exact ⟨content, hcontent, hpassword' ▸ hstored⟩
  · obtain rfl := Except.ok.inj (hidentities.symm.trans hidentities')
    obtain ⟨⟨_, hash⟩, hentry, rfl⟩ := List.mem_map.mp hmem
    obtain ⟨password, hpassword, -⟩ := hcurrent _ hash hentry
    exact hk.present _ password hpassword
  · obtain ⟨user, suffix, hsuffix, hname, content, password, hcontent, hstored, hpassword⟩ :=
      hk.files name entry hlookup
    exact ⟨user, suffix, hsuffix, hname, content, password, hcontent, hstored,
      fun hreplaced ↦ (hk.replaced password hreplaced).2 user hpassword⟩

/-- A new password that was not drawn before is nobody's current one, and replaces none. -/
theorem CredentialsKept.history_set (hk : CredentialsKept env s h) {password : Text}
    (hfresh : password ∉ h.drawn) {replaced : List Text}
    (hreplaced : ∀ old ∈ replaced, h.current deviceId = some old) :
    (∀ user user' p, (h.set deviceId password replaced).current user = some p →
      (h.set deviceId password replaced).current user' = some p → user = user') ∧
    (∀ user p, (h.set deviceId password replaced).current user = some p →
      p ∈ (h.set deviceId password replaced).drawn) ∧
    ∀ p ∈ (h.set deviceId password replaced).replaced,
      p ∈ (h.set deviceId password replaced).drawn ∧
        ∀ user, (h.set deviceId password replaced).current user ≠ some p := by
  have hself : (h.set deviceId password replaced).current deviceId = some password :=
    Function.update_self ..
  have hother {user : Text} (hne : user ≠ deviceId) :
      (h.set deviceId password replaced).current user = h.current user :=
    Function.update_of_ne hne ..
  refine ⟨fun user user' p hp hp' ↦ ?_, fun user p hp ↦ ?_, fun p hp ↦ ?_⟩
  · by_cases hu : user = deviceId
    · by_cases hu' : user' = deviceId
      · exact hu.trans hu'.symm
      · rw [hu, hself, Option.some.injEq] at hp
        rw [hother hu', ← hp] at hp'
        exact absurd (hk.drawn user' password hp') hfresh
    · by_cases hu' : user' = deviceId
      · rw [hu', hself, Option.some.injEq] at hp'
        rw [hother hu, ← hp'] at hp
        exact absurd (hk.drawn user password hp) hfresh
      · exact hk.distinct user user' p (hother hu ▸ hp) (hother hu' ▸ hp')
  · by_cases hu : user = deviceId
    · rw [hu, hself, Option.some.injEq] at hp
      exact hp ▸ List.mem_cons_self
    · exact List.mem_cons_of_mem _ (hk.drawn user p (hother hu ▸ hp))
  · -- a replaced password was drawn, and was the current one of no other user
    have hold : p ∈ h.drawn ∧ ∀ user, user ≠ deviceId → h.current user ≠ some p := by
      rcases List.mem_append.mp hp with hp | hp
      · have hcurrent := hreplaced p hp
        exact ⟨hk.drawn deviceId p hcurrent, fun user hne huser ↦
          hne (hk.distinct user deviceId p huser hcurrent)⟩
      · exact ⟨(hk.replaced p hp).1, fun user _ ↦ (hk.replaced p hp).2 user⟩
    refine ⟨List.mem_cons_of_mem _ hold.1, fun user huser ↦ ?_⟩
    by_cases hu : user = deviceId
    · rw [hu, hself, Option.some.injEq] at huser
      exact hfresh (huser ▸ hold.1)
    · exact hold.2 user hu (hother hu ▸ huser)

/-- A new credential keeps the invariant if it rewrites every client file of the device. -/
theorem CredentialsKept.set (hk : CredentialsKept env s h) (hpasswd : KeepsOtherUsers env.passwd)
    {rotate : Bool} {password : PasswordToken} {output : Option Entry} {replaced : List Text}
    (hb : CredentialBundle env rotate deviceId password.val s.bundle staged content)
    (hmanaged : ensureManagedBundle staged = .ok ()) (hfresh : password.val ∉ h.drawn)
    (hreplaced : ∀ old ∈ replaced, h.current deviceId = some old)
    (hhost : clientPath deviceId ".host.conf" ∉ s.bundle) :
    CredentialsKept env
      ⟨staged, Function.update s.packages deviceId (publishedOutput content output)⟩
      (h.set deviceId password.val replaced) := by
  obtain ⟨hdistinct, hdrawn, hreplaced'⟩ := hk.history_set hfresh hreplaced
  obtain ⟨identities, hidentities, hcurrent, hknown⟩ := hk.identities
  obtain ⟨text, identities', htext, htext', hidentities'⟩ := hb.passwords
  have hload : loadPasswords text.universalNewlines = .ok identities :=
    (readIdentities_of_lookup htext).symm.trans hidentities
  have hload' := (readIdentities_of_lookup htext').symm.trans hidentities'
  obtain ⟨hash, hhash, hverifies⟩ := env.verifies_passwd hb.validId hload'
  have hself : (h.set deviceId password.val replaced).current deviceId = some password.val :=
    Function.update_self ..
  have hother {user : Text} (hne : user ≠ deviceId) :
      (h.set deviceId password.val replaced).current user = h.current user :=
    Function.update_of_ne hne ..
  have hkept := hpasswd text deviceId password identities identities' hb.validId hload hload'
  refine
    { managed := hmanaged
      identities := ⟨identities', hidentities', fun user hash' hmem ↦ ?_, fun user p hp ↦ ?_⟩
      files := fun name entry hlookup ↦ ?_
      present := fun user p hp ↦ ?_
      packages := fun user entry p hentry hp ↦ ?_
      distinct := hdistinct
      drawn := hdrawn
      replaced := hreplaced' }
  · by_cases hu : user = deviceId
    · subst hu
      exact ⟨password.val, hself, hash_unique hload' hhash hmem ▸ hverifies⟩
    · rw [hother hu]
      exact hcurrent user hash' ((hkept user hash' hu).mp hmem)
  · by_cases hu : user = deviceId
    · exact hu ▸ List.mem_map.mpr ⟨_, hhash, rfl⟩
    · obtain ⟨⟨_, hash'⟩, hentry, rfl⟩ := List.mem_map.mp (hknown user p (hother hu ▸ hp))
      exact List.mem_map.mpr ⟨_, (hkept _ hash' hu).mpr hentry, rfl⟩
  · by_cases hpassword : [Text.ofString "clients", name] = clientPath deviceId ".password"
    · rw [hpassword, hb.passwordFile, Option.some.injEq] at hlookup
      exact ⟨deviceId, ".password", by decide, (List.cons.inj (List.cons.inj hpassword).2).1, _,
        password.val, hlookup.symm, storedPassword_password password.unbroken, hself⟩
    by_cases hconf : [Text.ofString "clients", name] = clientPath deviceId ".container.conf"
    · rw [hconf, hb.confFile, Option.some.injEq] at hlookup
      exact ⟨deviceId, ".container.conf", by decide, (List.cons.inj (List.cons.inj hconf).2).1, _,
        password.val, hlookup.symm, storedPassword_containerConf password.unbroken, hself⟩
    have hclient {path : Path} (hpath : ¬ IsClientPath path) :
        [Text.ofString "clients", name] ≠ path := fun heq ↦ hpath ⟨name, heq.symm⟩
    rw [hb.others _ (hclient (not_isClientPath (by decide))) (hclient (not_isClientPath (by decide)))
      (hclient (not_isClientPath (by decide))) hpassword hconf] at hlookup
    obtain ⟨user, suffix, hsuffix, rfl, content, p, hcontent, hstored, hp⟩ :=
      hk.files name entry hlookup
    have hu : user ≠ deviceId := by
      rintro rfl
      simp only [clientSuffixes, List.mem_cons, List.not_mem_nil, or_false] at hsuffix
      rcases hsuffix with rfl | rfl | rfl
      · exact hpassword rfl
      · exact hconf rfl
      · exact hhost (AList.lookup_isSome.mp (by rw [clientPath, hlookup]; rfl))
    exact ⟨user, suffix, hsuffix, rfl, content, p, hcontent, hstored, (hother hu).trans hp⟩
  · by_cases hu : user = deviceId
    · rw [hu]
      exact ⟨AList.lookup_isSome.mp (by rw [hb.passwordFile]; rfl),
        AList.lookup_isSome.mp (by rw [hb.confFile]; rfl)⟩
    · obtain ⟨hpassword, hconf⟩ := hk.present user p (hother hu ▸ hp)
      have hkept {suffix : String} (hsuffix : suffix ∈ clientSuffixes)
          (hmem : clientPath user suffix ∈ s.bundle) : clientPath user suffix ∈ staged := by
        have hne {suffix' : String} (hsuffix' : suffix' ∈ clientSuffixes) :
            clientPath user suffix ≠ clientPath deviceId suffix' :=
          fun heq ↦ hu (clientPath_inj hsuffix hsuffix' heq).1
        rwa [← AList.lookup_isSome, hb.others _ (clientPath_ne_passwordsPath _ _)
          (clientPath_ne_securityPath _ _) (clientPath_ne_deviceMetadataPath _ _ _)
          (hne (by decide)) (hne (by decide)), AList.lookup_isSome]
      exact ⟨hkept (by decide) hpassword, hkept (by decide) hconf⟩
  · change Function.update s.packages deviceId _ user = some entry at hentry
    by_cases hu : user = deviceId
    · obtain ⟨package, rfl, husername, hpassword⟩ := hb.package
      rw [hu, hself, Option.some.injEq] at hp
      rw [hu, Function.update_self] at hentry
      exact ⟨package, (Option.some.inj hentry).symm, husername.trans hu.symm, hpassword.trans hp⟩
    · rw [Function.update_of_ne hu] at hentry
      exact hk.packages user entry p hentry (hother hu ▸ hp)

/-- A revocation keeps the invariant if it spares the files of the others. -/
theorem CredentialsKept.revoke (hk : CredentialsKept env s h)
    {identities : List (Text × Text)} (hb : RevokedBundle env deviceId s.bundle staged identities)
    (hmanaged : ensureManagedBundle staged = .ok ()) (hspares : SparesOthers deviceId s.bundle) :
    CredentialsKept env ⟨staged, s.packages⟩
      { h with current := Function.update h.current deviceId none } := by
  obtain ⟨identities', hidentities, hcurrent, hknown⟩ := hk.identities
  obtain rfl := Except.ok.inj (hidentities.symm.trans hb.before)
  have hother {user : Text} (hne : user ≠ deviceId) :
      Function.update h.current deviceId none user = h.current user := Function.update_of_ne hne ..
  have hstill {user p : Text} (hp : Function.update h.current deviceId none user = some p) :
      user ≠ deviceId ∧ h.current user = some p := by
    by_cases hu : user = deviceId
    · rw [hu, Function.update_self] at hp
      cases hp
    · exact ⟨hu, hother hu ▸ hp⟩
  refine
    { managed := hmanaged
      identities := ⟨_, hb.after, fun user hash hmem ↦ ?_, fun user p hp ↦ ?_⟩
      files := fun name entry hlookup ↦ ?_
      present := fun user p hp ↦ ?_
      packages := fun user entry p hentry hp ↦ hk.packages user entry p hentry (hstill hp).2
      distinct := fun user user' p hp hp' ↦ hk.distinct user user' p (hstill hp).2 (hstill hp').2
      drawn := fun user p hp ↦ hk.drawn user p (hstill hp).2
      replaced := fun p hp ↦ ⟨(hk.replaced p hp).1, fun user huser ↦
        (hk.replaced p hp).2 user (hstill huser).2⟩ }
  · obtain ⟨hmem, hne⟩ := List.mem_filter.mp hmem
    obtain ⟨p, hp, hverifies⟩ := hcurrent user hash hmem
    exact ⟨p, (hother (of_decide_eq_true hne)).trans hp, hverifies⟩
  · obtain ⟨hne, hp⟩ := hstill hp
    obtain ⟨⟨_, hash⟩, hmem, rfl⟩ := List.mem_map.mp (hknown user p hp)
    exact List.mem_map.mpr ⟨_, List.mem_filter.mpr ⟨hmem, decide_eq_true hne⟩, rfl⟩
  · have hpasswords : [Text.ofString "clients", name] ≠ passwordsPath :=
      fun heq ↦ absurd (List.cons.inj heq).1 (by decide)
    have hsecurity : [Text.ofString "clients", name] ≠ securityPath :=
      fun heq ↦ absurd (List.cons.inj heq).1 (by decide)
    rw [hb.lookup _ hpasswords hsecurity] at hlookup
    split at hlookup
    next => cases hlookup
    next hunmatched =>
      obtain ⟨user, suffix, hsuffix, rfl, content, p, hcontent, hstored, hp⟩ :=
        hk.files name entry hlookup
      have hu : user ≠ deviceId := by
        rintro rfl
        refine hunmatched (.inl (clientPath_mem_clientFiles hsuffix (AList.lookup_isSome.mp ?_)))
        rw [clientPath, hlookup]
        rfl
      exact ⟨user, suffix, hsuffix, rfl, content, p, hcontent, hstored, (hother hu).trans hp⟩
  · obtain ⟨hne, hp⟩ := hstill hp
    have hkept {suffix : String} (hsuffix : suffix ∈ clientSuffixes)
        (hmem : clientPath user suffix ∈ s.bundle) : clientPath user suffix ∈ staged := by
      rw [← AList.lookup_isSome, hb.lookup_clientPath,
        if_neg (hspares _ hidentities user (hknown user p hp) hne suffix hsuffix)]
      exact AList.lookup_isSome.mpr hmem
    obtain ⟨hpassword, hconf⟩ := hk.present user p hp
    exact ⟨hkept (by decide) hpassword, hkept (by decide) hconf⟩

/-- A command that returns and meets the condition keeps the invariant. -/
theorem CredentialsKept.step {call : CredentialCall} (hk : CredentialsKept env s h)
    (hpasswd : KeepsOtherUsers env.passwd) (hcall : KeepsOneCredential env (s, h) call) :
    CredentialsKept env ((credentialHistory env).step (s, h) call).1.1
      ((credentialHistory env).step (s, h) call).1.2 := by
  obtain ⟨command, output, fault⟩ := call
  have hreturned : (command.run env (⟨s.bundle, hk.managed⟩ : ManagedBundle).val output fault).1 =
      true := hcall.returns
  obtain ⟨staged, content, hplan, hbundle, houtput⟩ := plan_of_returned hreturned
  have hmanaged := ensureManagedBundle_of_plan hplan
  have hstep : ((credentialHistory env).step (s, h) ⟨command, output, fault⟩).1 =
      (⟨staged, match command.packaged with
        | some deviceId => Function.update s.packages deviceId (publishedOutput content output)
        | none => s.packages⟩, h.advance command) := by
    simp only [credentialHistory, Machine.observed, credentialStore, hreturned, hbundle, houtput,
      if_true, Option.getD_some]
  rw [hstep]
  cases command with
  | revoke deviceId =>
    obtain ⟨identities, hrevoked⟩ := revokedBundle_of_plan hplan
    exact hk.revoke hrevoked hmanaged hcall.covers
  | rotate deviceId brokerUri password =>
    exact hk.set hpasswd (credentialBundle_of_plan hplan) hmanaged (hcall.fresh _ rfl)
      (fun old hold ↦ Option.mem_toList.mp hold) hcall.covers
  | add deviceId brokerUri password =>
    have hb := credentialBundle_of_plan hplan
    refine hk.set hpasswd hb hmanaged (hcall.fresh _ rfl) (fun old hold ↦ by cases hold)
      fun hhost ↦ ?_
    -- a file of the device would belong to one of the users, and `add` refuses those
    obtain ⟨identities, hidentities, -, hknown⟩ := hk.identities
    obtain ⟨identities', hidentities', hnew⟩ := hb.before
    obtain rfl := Except.ok.inj (hidentities.symm.trans hidentities')
    obtain ⟨entry, hentry⟩ := Option.isSome_iff_exists.mp (AList.lookup_isSome.mpr hhost)
    obtain ⟨user, suffix, hsuffix, hname, -, p, -, -, hp⟩ := hk.files _ entry hentry
    obtain ⟨rfl, -⟩ := clientPath_inj (by decide) hsuffix (congrArg (fun name ↦ [_, name]) hname)
    exact absurd (hknown _ p hp) (of_decide_eq_false hnew.symm)

end Kept

/-- The password of a generated identity. -/
theorem lookup_generatedEntries {devices : List Text} {passwords : Text → HexPassword}
    {user : Text} {password : HexPassword} :
    (generatedEntries devices passwords).lookup user = some password ↔
      (user, password) ∈ generatedEntries devices passwords := by
  rw [generatedEntries]
  induction serviceIdentities ++ (defaultDevices ++ devices) with
  | nil => simp
  | cons identity identities ih =>
    rw [List.map_cons, List.lookup_cons, List.mem_cons, Prod.mk.injEq]
    by_cases hu : user = identity
    · subst hu
      simp only [beq_self_eq_true, true_and, Option.some.injEq, List.mem_map, Prod.mk.injEq]
      refine ⟨fun h ↦ .inl h.symm, ?_⟩
      rintro (rfl | ⟨_, -, rfl, rfl⟩) <;> rfl
    · simp only [beq_eq_false_iff_ne.mpr hu, hu, false_and, false_or]
      exact ih

/-- A generated bundle meets the invariant if its passwords are different. -/
theorem credentialsKept_of_generate {env : LifecycleEnv} {tools : GeneratorTools env}
    {outputDir : Text} {devices : List Text} {passwords : Text → HexPassword} {bundle : Directory}
    (hgenerate : generateBundle env tools outputDir devices passwords = .ok bundle)
    (hdistinct : ((generatedEntries devices passwords).map (·.2.val)).Nodup) :
    CredentialsKept env (.generated bundle) (.generated (generatedEntries devices passwords)) := by
  have hb := generatedBundle_of_generate hgenerate
  obtain ⟨identities, hidentities, hhashes, hknown⟩ := hb.identities
  have hcurrent {user password : Text} :
      (PasswordHistory.generated (generatedEntries devices passwords)).current user =
          some password ↔
        ∃ p : HexPassword, (user, p) ∈ generatedEntries devices passwords ∧ p.val = password := by
    simp only [PasswordHistory.generated, Option.map_eq_some_iff, lookup_generatedEntries]
  exact
    { managed := hb.managed
      identities := by
        refine ⟨identities, hidentities, fun user hash hmem ↦ ?_, fun user password hpassword ↦ ?_⟩
        · obtain ⟨p, hp, hverifies⟩ := hhashes user hash hmem
          exact ⟨p.val, hcurrent.mpr ⟨p, hp, rfl⟩, hverifies⟩
        · obtain ⟨p, hp, -⟩ := hcurrent.mp hpassword
          exact hknown _ hp
      files := by
        intro name entry hlookup
        obtain ⟨e, he, suffix, hsuffix, hname, content, hcontent, hstored⟩ :=
          hb.holds name entry hlookup
        exact ⟨e.1, suffix, hsuffix, hname, content, e.2.val, hcontent, hstored,
          hcurrent.mpr ⟨e.2, he, rfl⟩⟩
      present := by
        intro user password hpassword
        obtain ⟨p, hp, -⟩ := hcurrent.mp hpassword
        exact ⟨hb.present _ hp _ (by decide), hb.present _ hp _ (by decide)⟩
      packages := fun user entry password hentry ↦ by cases hentry
      distinct := by
        intro user user' password hpassword hpassword'
        obtain ⟨p, hp, rfl⟩ := hcurrent.mp hpassword
        obtain ⟨p', hp', hsame⟩ := hcurrent.mp hpassword'
        exact (congrArg Prod.fst (List.inj_on_of_nodup_map hdistinct hp' hp hsame)).symm
      drawn := by
        intro user password hpassword
        obtain ⟨p, hp, rfl⟩ := hcurrent.mp hpassword
        exact List.mem_map.mpr ⟨_, hp, rfl⟩
      replaced := fun password hpassword ↦ by cases hpassword }

/-- A device has one credential after every run in which no rotated device has a `host.conf`, no
revocation matches a file of another identity, and every password is new. -/
theorem one_credential (env : LifecycleEnv) (tools : GeneratorTools env) (outputDir : Text)
    (devices : List Text) (passwords : Text → HexPassword) (bundle : Directory)
    (calls : List CredentialCall) (hpasswd : KeepsOtherUsers env.passwd)
    (hgenerate : generateBundle env tools outputDir devices passwords = .ok bundle)
    (hdistinct : ((generatedEntries devices passwords).map (·.2.val)).Nodup)
    (hcalls : (credentialHistory env).Along (KeepsOneCredential env)
      (.generated bundle, .generated (generatedEntries devices passwords)) calls) :
    let x := (credentialHistory env).run
      (.generated bundle, .generated (generatedEntries devices passwords)) calls
    OneCredential env x.1 x.2.replaced := by
  have hstep : ∀ (x : CredentialStore × PasswordHistory) (call : CredentialCall),
      CredentialsKept env x.1 x.2 → KeepsOneCredential env x call →
      CredentialsKept env ((credentialHistory env).step x call).1.1
        ((credentialHistory env).step x call).1.2 := fun x call hx hcall ↦ hx.step hpasswd hcall
  have hkept := (credentialHistory env).invariant_along hstep
    (credentialsKept_of_generate hgenerate hdistinct) hcalls
  exact hkept.oneCredential

/-! ### A generated bundle -/

theorem keepsOtherUsers_samplePasswd : KeepsOtherUsers samplePasswd := by
  intro content username password identities identities' hname hload hload' user hash hne
  rw [mem_loadPasswords_iff hload', mem_loadPasswords_iff hload, splitlines_samplePasswd hname,
    Text.splitlines_universalNewlines, List.exists_mem_cons_iff,
    partitionAt_sampleLine (unbroken_of_validateDeviceIdSyntax hname).2]
  have hunbroken : ∀ line ∈ content.splitlines.filter
      fun line ↦ (Text.partitionAt line 0x3A).1 ≠ username, Text.Unbroken line :=
    fun line hline ↦ Text.unbroken_of_mem_splitlines (List.mem_filter.mp hline).1
  have hlines (line : Text) : line ∈ (removeIdentity content username).splitlines ∧ line ≠ [] ↔
      line ∈ content.splitlines ∧ (Text.partitionAt line 0x3A).1 ≠ username ∧ line ≠ [] := by
    have hfilter : line ∈ content.splitlines.filter
        (fun line ↦ (Text.partitionAt line 0x3A).1 ≠ username) ↔
        line ∈ content.splitlines ∧ (Text.partitionAt line 0x3A).1 ≠ username := by
      rw [List.mem_filter, decide_eq_true_eq]
    rw [← and_assoc, ← hfilter, removeIdentity, show Text.ofString "\n" = [0x0A] from rfl]
    by_cases hnil : content.splitlines.filter
        (fun line ↦ (Text.partitionAt line 0x3A).1 ≠ username) = []
    · have hempty : Text.splitlines (List.intercalate [0x0A] [] ++ [0x0A]) = [[]] := by decide
      rw [hnil, hempty]
      simp
    · rw [Text.splitlines_intercalate hunbroken hnil]
  constructor
  · rintro (⟨-, hpair⟩ | ⟨line, hline, hempty, hpair⟩)
    · exact absurd (Prod.mk.inj hpair).1.symm hne
    · exact ⟨line, ((hlines line).mp ⟨hline, hempty⟩).1, hempty, hpair⟩
  · rintro ⟨line, hline, hempty, hpair⟩
    exact .inr ⟨line, ((hlines line).mpr ⟨hline, by rw [hpair]; exact hne, hempty⟩).1, hempty, hpair⟩

/-- `mosquitto_passwd -U` with the hash of `samplePasswd`. -/
def sampleHashPasswords (content : Text) : Text :=
  content.splitlines.flatMap fun line ↦
    match Text.partitionAt line 0x3A with
    | (username, some password) => sampleLine username password ++ [0x0A]
    | (username, none) => username ++ [0x0A]

/-- The hashed file has a line for each entry. -/
theorem splitlines_sampleHashPasswords {entries : List (Text × HexPassword)}
    (hnames : ∀ entry ∈ entries, validateDeviceIdSyntax entry.1 = true) :
    (sampleHashPasswords (passwordLines entries)).splitlines =
      entries.map fun entry ↦ sampleLine entry.1 entry.2.val := by
  have hcolon : Text.isLineBreak 0x3A = false := by decide
  have hplain : (passwordLines entries).splitlines =
      entries.map fun entry ↦ entry.1 ++ 0x3A :: entry.2.val := by
    rw [← Text.splitlines_flatMap]
    · simp [passwordLines, Text.ofString]
    · intro entry hentry c hc
      rcases List.mem_append.mp hc with hc | hc
      · exact (unbroken_of_validateDeviceIdSyntax (hnames entry hentry)).1 c hc
      · rcases List.mem_cons.mp hc with rfl | hc
        · exact hcolon
        · exact entry.2.unbroken c hc
  have hhashed : sampleHashPasswords (passwordLines entries) =
      entries.flatMap fun entry ↦ sampleLine entry.1 entry.2.val ++ [0x0A] := by
    rw [sampleHashPasswords, hplain, List.flatMap_map]
    refine List.flatMap_congr fun entry hentry ↦ ?_
    rw [Text.partitionAt_append (unbroken_of_validateDeviceIdSyntax (hnames entry hentry)).2]
  rw [hhashed, Text.splitlines_flatMap]
  exact fun entry hentry ↦ sampleLine_unbroken
    (unbroken_of_validateDeviceIdSyntax (hnames entry hentry)).1 entry.2.unbroken

theorem sampleHashPasswords_verifies {entries : List (Text × HexPassword)}
    {identities : List (Text × Text)}
    (hnames : ∀ entry ∈ entries, validateDeviceIdSyntax entry.1 = true)
    (hload : loadPasswords (sampleHashPasswords (passwordLines entries)).universalNewlines =
      .ok identities) :
    (∀ user hash, (user, hash) ∈ identities → ∃ password, (user, password) ∈ entries ∧
      sampleLifecycleEnv.verifies hash password.val = true) ∧
    ∀ entry ∈ entries, entry.1 ∈ identities.map (·.1) := by
  have hmem {user hash : Text} : (user, hash) ∈ identities ↔
      ∃ entry ∈ entries, (entry.1, some (Text.ofString "$7$" ++ entry.2.val)) =
        (user, some hash) := by
    rw [mem_loadPasswords_iff hload, Text.splitlines_universalNewlines,
      splitlines_sampleHashPasswords hnames]
    constructor
    · rintro ⟨line, hline, -, hpair⟩
      obtain ⟨entry, hentry, rfl⟩ := List.mem_map.mp hline
      rw [partitionAt_sampleLine (unbroken_of_validateDeviceIdSyntax (hnames entry hentry)).2] at hpair
      exact ⟨entry, hentry, hpair⟩
    · rintro ⟨entry, hentry, hpair⟩
      refine ⟨_, List.mem_map_of_mem hentry, sampleLine_ne_nil _ _, ?_⟩
      rw [partitionAt_sampleLine (unbroken_of_validateDeviceIdSyntax (hnames entry hentry)).2, hpair]
  refine ⟨fun user hash huser ↦ ?_, fun entry hentry ↦ ?_⟩
  · obtain ⟨entry, hentry, hsame⟩ := hmem.mp huser
    obtain ⟨rfl, hhash⟩ := Prod.mk.inj hsame
    obtain rfl := Option.some.inj hhash
    exact ⟨entry.2, hentry, beq_self_eq_true _⟩
  · exact List.mem_map.mpr ⟨_, hmem.mpr ⟨entry, hentry, rfl⟩, rfl⟩

def sampleTools : GeneratorTools sampleLifecycleEnv where
  caCertificate := Text.ofString "-----BEGIN CERTIFICATE-----\n"
  caKey := []
  serverCertificate := []
  serverKey := []
  hashPasswords := sampleHashPasswords
  verifies_hashPasswords := sampleHashPasswords_verifies

/-- A password made of the identity. -/
def samplePassword (identity : Text) : HexPassword :=
  ⟨((identity ++ List.replicate 64 0).take 64).map (0x30 + · % 10), by simp, by
    simp only [List.all_map, List.all_eq_true, Function.comp_apply, Bool.or_eq_true,
      Bool.and_eq_true, decide_eq_true_eq]
    omega⟩

/-- A token made of one character. -/
def sampleToken (c : Nat) (hc : Text.isAlphanumeric c = true) : PasswordToken :=
  ⟨List.replicate 43 c, by simp, by simp [hc]⟩

/-- The bundle with the default devices. -/
def sampleGenerated : Directory :=
  ((generateBundle sampleLifecycleEnv sampleTools (Text.ofString "/b") [] samplePassword).toOption).getD
    ∅

theorem generateBundle_sample : generateBundle sampleLifecycleEnv sampleTools (Text.ofString "/b") []
    samplePassword = .ok sampleGenerated := by
  have hsome : (generateBundle sampleLifecycleEnv sampleTools (Text.ofString "/b") []
      samplePassword).toOption.isSome = true := by decide +kernel
  rw [sampleGenerated]
  cases hbundle : generateBundle sampleLifecycleEnv sampleTools (Text.ofString "/b") []
    samplePassword with
  | ok bundle => rfl
  | error e =>
    rw [hbundle] at hsome
    cases hsome

/-- A device that was added is rotated, and a default device is revoked. -/
def sampleCalls : List CredentialCall :=
  let uri := Text.ofString "mqtts://host:8883"
  [⟨.add (Text.ofString "edge-3") uri (sampleToken 0x41 rfl), none, none⟩,
    ⟨.rotate (Text.ofString "edge-3") uri (sampleToken 0x42 rfl), none, none⟩,
    ⟨.revoke (Text.ofString "edge-node-01"), none, none⟩]

/-- The rotation of a default device. -/
def sampleRotation : CredentialCall :=
  ⟨.rotate (Text.ofString "edge-node-01") (Text.ofString "mqtts://host:8883") (sampleToken 0x41 rfl),
    none, none⟩

/-- The start of the samples. -/
def sampleStart : CredentialStore × PasswordHistory :=
  (.generated sampleGenerated, .generated (generatedEntries [] samplePassword))

theorem nodup_samplePassword :
    ((generatedEntries [] samplePassword).map (·.2.val)).Nodup := by decide +kernel

/-- Each device still has one credential. -/
theorem one_credential_sample :
    OneCredential sampleLifecycleEnv
      ((credentialHistory sampleLifecycleEnv).run sampleStart sampleCalls).1
      ((credentialHistory sampleLifecycleEnv).run sampleStart sampleCalls).2.replaced :=
  one_credential sampleLifecycleEnv sampleTools (Text.ofString "/b") [] samplePassword
    sampleGenerated sampleCalls keepsOtherUsers_samplePasswd generateBundle_sample
    nodup_samplePassword (by decide +kernel)

/-- The `host.conf` of a default device keeps the password that a rotation replaces. -/
theorem one_credential_fails :
    ¬ ∀ (env : LifecycleEnv) (tools : GeneratorTools env) (outputDir : Text)
        (devices : List Text) (passwords : Text → HexPassword) (bundle : Directory)
        (calls : List CredentialCall), KeepsOtherUsers env.passwd →
      generateBundle env tools outputDir devices passwords = .ok bundle →
      ((generatedEntries devices passwords).map (·.2.val)).Nodup →
      (credentialHistory env).Along (fun x call ↦
          ((credentialStore env).step x.1 call).2 = true ∧
          ∀ password ∈ call.command.password, password ∉ x.2.drawn)
        (.generated bundle, .generated (generatedEntries devices passwords)) calls →
      let x := (credentialHistory env).run
        (.generated bundle, .generated (generatedEntries devices passwords)) calls
      OneCredential env x.1 x.2.replaced := by
  intro h
  have hone := h sampleLifecycleEnv sampleTools (Text.ofString "/b") [] samplePassword
    sampleGenerated [sampleRotation] keepsOtherUsers_samplePasswd generateBundle_sample
    nodup_samplePassword (by decide +kernel)
  set x := (credentialHistory sampleLifecycleEnv).run sampleStart [sampleRotation] with hx
  have hold : (samplePassword (Text.ofString "edge-node-01")).val ∈ x.2.replaced := by
    decide +kernel
  have hfile : x.1.bundle.lookup (clientPath (Text.ofString "edge-node-01") ".host.conf") =
      some (.text (hostConf (Text.ofString "/b") (Text.ofString "edge-node-01")
        (samplePassword (Text.ofString "edge-node-01")).val)) := by decide +kernel
  obtain ⟨user, suffix, hsuffix, hname, content, password, hcontent, hstored, hnot⟩ :=
    hone.notReplaced _ _ hfile
  obtain ⟨rfl, rfl⟩ := clientPath_inj (by decide) hsuffix (congrArg (fun name ↦ [_, name]) hname)
  obtain rfl := Entry.text.inj hcontent
  rw [storedPassword_hostConf (HexPassword.unbroken _)] at hstored
  exact hnot (Option.some.inj hstored ▸ hold)

end EdgeMonitor.Scripts
