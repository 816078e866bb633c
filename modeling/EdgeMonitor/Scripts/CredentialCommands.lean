import EdgeMonitor.Scripts.CredentialUpdates

/-!
# The commands as transactions

Library `Scripts`. `add`, `rotate` and `revoke` publish the bundle together with the package.
They are atomic up to two steps: when the removal of the old bundle or the check after it
raises, the command raises although it has published everything.
-/

namespace EdgeMonitor.Scripts
open EdgeMonitor.Base
open EdgeMonitor.Base.Raising (Meets Hits)
open EdgeMonitor.Backend (validateDeviceIdSyntax)

/-! ### Callbacks -/

/-- The text of a package, after its checks. -/
def packageText (env : LifecycleEnv) (package : ProvisioningPackage) :
    Except PythonError (Option Text) :=
  (validateProvisioningPackage env package.toJson).map fun _ ↦
    some (env.dumps package.toJson ++ Text.ofString "\n")

theorem packageText_eq_ok {env : LifecycleEnv} {package : ProvisioningPackage}
    {content : Option Text} (h : packageText env package = .ok content) :
    content = some (env.dumps package.toJson ++ Text.ofString "\n") := by
  rw [packageText] at h
  cases hvalid : validateProvisioningPackage env package.toJson with
  | ok _ =>
    rw [hvalid] at h
    exact (Except.ok.inj h).symm
  | error e =>
    rw [hvalid] at h
    cases h

section Touch
variable {label : LifecycleStep} {fault : Option LifecycleFault} {P : Transaction → Prop}
  {E : Transaction → Prop}

theorem meets_touch (hfault : ∀ t, P t → Hits fault label → E t) :
    Meets fault P (touch label) (fun _ ↦ P) E :=
  meets_atomically (fun _ ht _ ↦ ht) hfault

theorem meets_writeTemporary {t : Transaction} {content : Text} {t' : Transaction}
    (ht' : ∃ x, t' = t.setTemporary x) (h : label.late = false)
    (hE : ∀ x, HitsEarly fault → E (t.setTemporary x)) :
    Meets fault (· = t')
      (.step label (fun t ↦ .ok ((), t.setTemporary (some (.text content))))
        fun damage t ↦ t.setTemporary damage.file : Script Unit)
      (fun _ s ↦ s = t.setTemporary (some (.text content))) E := by
  obtain ⟨x, rfl⟩ := ht'
  refine .step ?_ ?_ ?_
  · rintro s a s' rfl - heffect
    obtain ⟨-, rfl⟩ := Prod.mk.inj (Except.ok.inj heffect)
    rfl
  · rintro s e - - heffect
    cases heffect
  · rintro s damage rfl rfl
    exact hE damage.file ⟨_, rfl, h⟩

end Touch

/-- A package is prepared in the temporary file, and published by replacing the output. -/
theorem publishes_package (env : LifecycleEnv) :
    Publishes (some (writePackage env)) (some fun _ ↦ replaceOutput) (packageText env) where
  prepared fault t package htemporary := by
    have hself : t = t.setTemporary t.files.temporaryOutput := rfl
    have hearly : ∀ x, HitsEarly fault →
        (∃ x', t.setTemporary x = t.setTemporary x') ∧
          ((∃ e, packageText env package = .error e) ∨ HitsEarly fault) :=
      fun x hhits ↦ ⟨⟨x, rfl⟩, .inr hhits⟩
    refine .bind (Q := fun _ s ↦ s = t ∧ validateProvisioningPackage env package.toJson = .ok ())
      (.ofExcept ?_ ?_) fun _ ↦ .of_forall ?_
    · rintro s a rfl hvalid
      exact ⟨rfl, hvalid⟩
    · rintro s e rfl hvalid
      exact ⟨⟨_, hself⟩, .inl ⟨e, by rw [packageText, hvalid]; rfl⟩⟩
    rintro s ⟨rfl, hvalid⟩
    refine .bind (Q := fun _ s' ↦ s' = s) (meets_touch ?_) fun _ ↦
      .bind (Q := fun _ s' ↦ s' = s) ?_ fun _ ↦
      .bind (meets_writeTemporary ⟨_, hself⟩ rfl hearly) fun _ ↦
      .bind (meets_writeTemporary ⟨_, rfl⟩ rfl hearly) fun _ ↦
      (meets_touch ?_).mono (fun _ h ↦ h) ?_ fun _ h ↦ h
    · rintro s' rfl hhits
      exact hearly _ (hitsEarly_of_hits rfl hhits)
    · unfold query
      refine .step ?_ ?_ ?_
      · rintro s' a s'' rfl - heffect
        simp only [if_neg htemporary] at heffect
        exact (Prod.mk.inj (Except.ok.inj heffect)).2.symm
      · rintro s' e rfl - heffect
        simp only [if_neg htemporary] at heffect
        cases heffect
      · rintro s' damage rfl rfl
        exact hearly _ ⟨_, rfl, rfl⟩
    · rintro s' rfl hhits
      exact hearly _ (hitsEarly_of_hits rfl hhits)
    · rintro - s' rfl
      refine ⟨_, _, by rw [packageText, hvalid]; rfl, rfl, fun text htext ↦ ?_⟩
      rw [Option.mem_def, Option.some.injEq] at htext
      rw [htext]
  committed fault t package content hpackage htemporary := by
    obtain rfl := packageText_eq_ok hpackage
    unfold optionally replaceOutput
    refine meets_atomically ?_ ?_
    · rintro s rfl -
      exact ⟨rfl, rfl, rfl, htemporary _ rfl⟩
    · rintro s rfl hhits
      exact ⟨rfl, hitsEarly_of_hits rfl hhits⟩

/-- A revocation publishes the bundle alone. -/
theorem publishes_nothing :
    Publishes (none : Option (Unit → Script Unit)) none fun _ ↦ .ok none where
  prepared fault t a _ := .pure fun s hs ↦
    ⟨t.files.temporaryOutput, none, rfl, by rw [hs]; rfl, by simp⟩
  committed fault t a content hpackage _ := .pure fun s hs ↦ by
    obtain rfl := Except.ok.inj hpackage
    rw [hs]
    exact ⟨rfl, rfl, rfl, rfl⟩

/-! ### Commands -/

/-- `add` and `rotate` as an edit of the bundle, with the package that they publish. -/
def credentialPlan (env : LifecycleEnv) (rotate : Bool) (deviceId brokerUri : Text)
    (password : PasswordToken) (output : Option Entry) : BundleEdit (Option Text) := do
  let deviceId ← .read fun _ ↦ checkDeviceId deviceId
  let brokerUri ← .read fun _ ↦ validateBrokerUri env brokerUri
  .read fun _ ↦
    if output = some .symlink then .error (.ofString "refusing provisioning package symlink")
    else .ok ()
  transactionEdit env (credentialEdit env rotate deviceId password.val brokerUri) (packageText env)

/-- A command as an edit of the bundle, with the package that it publishes. -/
def CredentialCommand.plan (env : LifecycleEnv) (output : Option Entry) :
    CredentialCommand → BundleEdit (Option Text)
  | add deviceId brokerUri password => credentialPlan env false deviceId brokerUri password output
  | rotate deviceId brokerUri password => credentialPlan env true deviceId brokerUri password output
  | revoke deviceId => do
    let deviceId ← .read fun _ ↦ validateExistingDeviceId deviceId
    transactionEdit env (revokeEdit deviceId) fun _ ↦ .ok none

section Command
variable {env : LifecycleEnv} {fault : Option LifecycleFault} {bundle : Directory}
  {output : Option Entry}

/-- A script publishes the plan, or raises and has not published it; or it raises late. -/
def Carries (plan : BundleEdit (Option Text)) (fault : Option LifecycleFault) (bundle : Directory)
    (output : Option Entry) (P : Transaction → Prop) (m : Script Unit) : Prop :=
  Meets fault P m
    (fun _ t ↦ (∃ staged content, plan.run bundle = .ok (content, staged) ∧
      t.Holds staged (publishedOutput content output)) ∧ ¬ HitsLate fault)
    (fun t ↦ t.Holds bundle output ∧ ((∃ e, plan.run bundle = .error e) ∨ HitsEarly fault) ∨
      ∃ staged content, plan.run bundle = .ok (content, staged) ∧
        t.Holds staged (publishedOutput content output) ∧ HitsLate fault)

/-- A check of the arguments before the transaction. -/
theorem Carries.check {α : Type} {r : Except PythonError α} {f : α → Script Unit}
    {plan : α → BundleEdit (Option Text)} {t : Transaction} (ht : t.Holds bundle output)
    (h : ∀ a, Carries (plan a) fault bundle output (· = t) (f a)) :
    Carries (.read (fun _ ↦ r) >>= plan) fault bundle output (· = t) (.ofExcept r >>= f) := by
  cases r with
  | error e =>
    refine .bind (Q := fun _ _ ↦ False) (.ofExcept (fun s a _ hr ↦ by cases hr) ?_)
      fun a s hs ↦ hs.elim
    rintro s e' rfl -
    exact .inl ⟨ht, .inl ⟨e, rfl⟩⟩
  | ok a =>
    refine .bind (Q := fun a' s ↦ s = t ∧ a' = a) (.ofExcept ?_ fun s e _ hr ↦ by cases hr)
      fun a' ↦ .of_forall ?_
    · rintro s a' rfl hr
      exact ⟨rfl, (Except.ok.inj hr).symm⟩
    · rintro s ⟨rfl, rfl⟩
      exact h a'

theorem carries_addOrRotate {rotate : Bool} {deviceId brokerUri : Text} {password : PasswordToken}
    (hmanaged : ensureManagedBundle bundle = .ok ()) :
    Carries (credentialPlan env rotate deviceId brokerUri password output) fault bundle output
      (· = .start bundle output) (addOrRotate env rotate deviceId brokerUri password) := by
  refine .check ⟨rfl, rfl⟩ fun deviceId ↦ .check ⟨rfl, rfl⟩ fun brokerUri ↦ ?_
  refine .bind (Q := fun o s ↦ s = .start bundle output ∧ o = output)
    (.read fun s hs ↦ by rw [hs]; exact ⟨rfl, rfl⟩) fun o ↦ .of_forall ?_
  rintro s ⟨rfl, rfl⟩
  by_cases hsymlink : o = some .symlink
  · simp only [if_pos hsymlink]
    refine .bind (Q := fun _ _ ↦ False) (.ofExcept (fun s a _ hr ↦ by cases hr) ?_)
      fun a s hs ↦ hs.elim
    rintro s e rfl -
    exact .inl ⟨⟨rfl, rfl⟩, .inl ⟨_, rfl⟩⟩
  · simp only [if_neg hsymlink]
    refine .bind (Q := fun _ s ↦ s.Holds bundle o ∧ s.files.temporaryOutput ≠ some .symlink)
      (.assign fun s hs ↦ ?_) fun _ ↦ .ensuring (.bind (meets_transactionalUpdate
        (follows_credentialMutator env rotate deviceId password.val brokerUri)
        (publishes_package env) hmanaged) fun _ ↦ .pure fun s hs ↦ hs)
      (fun _ ↦ .assign fun s hs ↦ hs) (.assign fun s hs ↦ hs)
    rw [hs]
    exact ⟨⟨rfl, rfl⟩, by simp⟩

theorem carries_revoke {deviceId : Text} (hmanaged : ensureManagedBundle bundle = .ok ()) :
    Carries (CredentialCommand.plan env output (.revoke deviceId)) fault bundle output
      (· = .start bundle output) (revoke env deviceId) := by
  refine .check ⟨rfl, rfl⟩ fun deviceId ↦ ?_
  refine (meets_transactionalUpdate (follows_revokeMutator deviceId) publishes_nothing
    hmanaged).mono ?_ (fun _ _ h ↦ h) fun _ h ↦ h
  rintro s rfl
  exact ⟨⟨rfl, rfl⟩, by simp [Transaction.start]⟩

end Command

/-! ### What a plan publishes -/

section Plans
variable {α β : Type} {d d' : Directory}

theorem run_bind_eq_ok {m : BundleEdit α} {f : α → BundleEdit β} {b : β} :
    (m >>= f).run d = .ok (b, d') ↔
      ∃ a d'', m.run d = .ok (a, d'') ∧ (f a).run d'' = .ok (b, d') := by
  rw [StateT.run_bind]
  cases m.run d with
  | error e => exact ⟨nofun, fun ⟨_, _, h, _⟩ ↦ by cases h⟩
  | ok r =>
    obtain ⟨a, d''⟩ := r
    refine ⟨fun h ↦ ⟨a, d'', rfl, h⟩, ?_⟩
    rintro ⟨a', d₃, h, hf⟩
    cases h
    exact hf

theorem run_pure_eq_ok {a b : α} : (pure a : BundleEdit α).run d = .ok (b, d') ↔
    a = b ∧ d = d' := by
  change Except.ok (a, d) = Except.ok (b, d') ↔ _
  rw [Except.ok.injEq, Prod.mk.injEq]

theorem run_read_eq_ok {f : Directory → Except PythonError α} {a : α} :
    (BundleEdit.read f).run d = .ok (a, d') ↔ f d = .ok a ∧ d = d' := by
  change (f d).map (·, d) = _ ↔ _
  cases f d with
  | error e => exact ⟨nofun, fun ⟨h, _⟩ ↦ by cases h⟩
  | ok b =>
    change Except.ok (b, d) = Except.ok (a, d') ↔ _
    rw [Except.ok.injEq, Prod.mk.injEq, Except.ok.injEq]

theorem run_write_eq_ok {f : Directory → Except PythonError Directory} {a : Unit} :
    (BundleEdit.write f).run d = .ok (a, d') ↔ f d = .ok d' := by
  change (f d).map ((), ·) = _ ↔ _
  cases f d with
  | error e => exact ⟨nofun, nofun⟩
  | ok d'' =>
    change Except.ok ((), d'') = Except.ok ((), d') ↔ _
    simp

theorem run_writeText_eq_ok {path : Path} {content : Text} {a : Unit} :
    (BundleEdit.writeText path content).run d = .ok (a, d') ↔
      d' = d.insert path (.text content) := by
  rw [BundleEdit.writeText, run_write_eq_ok, Except.ok.injEq, eq_comm]

end Plans

/-- What a publication adds to an edit. -/
theorem publishedEdit_eq_ok {α : Type} {env : LifecycleEnv} {edit : BundleEdit α}
    {d d' : Directory} {a : α} (h : (publishedEdit env edit).run d = .ok (a, d')) :
    ∃ staged policy identities configuration, edit.run d = .ok (a, staged) ∧
      ensureManagedBundle staged = .ok () ∧ readIdentities staged = .ok identities ∧
      buildConfiguration policy identities = .ok configuration ∧
      d' = staged.insert securityPath
        (.text (env.dumps configuration.toJson ++ Text.ofString "\n")) := by
  simp only [publishedEdit, dynamicSecurityEdit, run_bind_eq_ok, run_read_eq_ok,
    run_writeText_eq_ok, run_pure_eq_ok] at h
  obtain ⟨b, staged, hedit, _, _, ⟨hmanaged, rfl⟩, _, _, ⟨policy, _, ⟨-, rfl⟩, identities, _,
    ⟨hidentities, rfl⟩, configuration, _, ⟨hconfiguration, rfl⟩, rfl⟩, _, _, ⟨-, rfl⟩, rfl,
    rfl⟩ := h
  exact ⟨_, policy, identities, configuration, hedit, hmanaged, hidentities, hconfiguration, rfl⟩

/-- What `ensure_managed_bundle` checks. -/
theorem ensureManagedBundle_eq_ok_iff {bundle : Directory} :
    ensureManagedBundle bundle = .ok () ↔
      bundle.isSymlink markerPath = false ∧
      (∃ text, bundle.readText markerPath = .ok text ∧ text.strip = Text.ofString "1") ∧
      (∀ path ∈ bundle.keys, bundle.isSymlink path = false) ∧
      ∀ path ∈ requiredFiles, bundle.isFile path = true := by
  have hkeys : (∀ path ∈ bundle.keys, bundle.isSymlink path = false) ↔
      bundle.keys.find? bundle.isSymlink = none := by simp [List.find?_eq_none]
  have hrequired : (∀ path ∈ requiredFiles, bundle.isFile path = true) ↔
      requiredFiles.find? (fun path ↦ !bundle.isFile path) = none := by
    simp [List.find?_eq_none]
  rw [hkeys, hrequired, ensureManagedBundle]
  cases bundle.isSymlink markerPath with
  | true => exact iff_of_false (by simp [bind, Except.bind]) (by simp)
  | false =>
    cases bundle.readText markerPath with
    | error e => exact iff_of_false (by simp [bind, Except.bind]) (by simp)
    | ok text =>
      by_cases htext : text.strip = Text.ofString "1"
      · cases bundle.keys.find? bundle.isSymlink with
        | some path => exact iff_of_false (by simp [bind, Except.bind, htext]) (by simp)
        | none =>
          cases requiredFiles.find? fun path ↦ !bundle.isFile path with
          | some path => exact iff_of_false (by simp [bind, Except.bind, htext]) (by simp)
          | none => exact iff_of_true (by simp [bind, Except.bind, htext]) (by simp [htext])
      · exact iff_of_false (by simp [bind, Except.bind, htext]) (by simp [htext])

/-- Rewriting the configuration of the broker leaves a bundle managed. -/
theorem ensureManagedBundle_insert {bundle : Directory} {content : Text}
    (h : ensureManagedBundle bundle = .ok ()) :
    ensureManagedBundle (bundle.insert securityPath (.text content)) = .ok () := by
  obtain ⟨hmarker, ⟨text, hread, hversion⟩, hlinks, hrequired⟩ := ensureManagedBundle_eq_ok_iff.mp h
  have hother {path : Path} (hpath : path ≠ securityPath) :
      (bundle.insert securityPath (.text content)).lookup path = bundle.lookup path :=
    AList.lookup_insert_ne hpath
  have hself : (bundle.insert securityPath (.text content)).lookup securityPath =
      some (.text content) := AList.lookup_insert _
  have hmarkerPath : markerPath ≠ securityPath := by decide
  refine ensureManagedBundle_eq_ok_iff.mpr ⟨?_, ⟨text, ?_, hversion⟩, fun path hpath ↦ ?_,
    fun path hpath ↦ ?_⟩
  · rwa [Directory.isSymlink, hother hmarkerPath]
  · rwa [Directory.readText, hother hmarkerPath]
  · rw [Directory.isSymlink]
    by_cases hsecurity : path = securityPath
    · rw [hsecurity, hself]
      simp
    · rw [hother hsecurity]
      exact hlinks path ((AList.mem_insert _ |>.mp hpath).resolve_left hsecurity)
  · rw [Directory.isFile]
    by_cases hsecurity : path = securityPath
    · rw [hsecurity, hself]
    · rw [hother hsecurity]
      exact hrequired path hpath

/-! ### Atomic commands -/

/-- A bundle that the commands accept. -/
def ManagedBundle := { bundle : Directory // ensureManagedBundle bundle = .ok () }

/-- The output is a package with the password of a user, and a hash of it is in the bundle. -/
def HoldsPassword (env : LifecycleEnv) (bundle : Directory) (output : Option Entry)
    (deviceId : Text) (password : PasswordToken) : Prop :=
  ∃ (package : ProvisioningPackage) (identities : List (Text × Text)) (hash : Text),
    output = some (.text (env.dumps package.toJson ++ Text.ofString "\n")) ∧
    package.username = deviceId ∧ package.password = password.val ∧
    readIdentities bundle = .ok identities ∧ (deviceId, hash) ∈ identities ∧
    env.verifies hash password.val = true

/-- For `add` and `rotate`, the package output holds the password whose hash is in the
bundle. -/
def CredentialCommand.PackageMatches (env : LifecycleEnv) (bundle : Directory)
    (output : Option Entry) : CredentialCommand → Prop
  | add deviceId _ password => HoldsPassword env bundle output deviceId password
  | rotate deviceId _ password => HoldsPassword env bundle output deviceId password
  | revoke _ => True

/-- A checked device id has the syntax of one. -/
theorem checkDeviceId_eq_ok {value deviceId : Text} (h : checkDeviceId value = .ok deviceId) :
    deviceId = value ∧ validateDeviceIdSyntax value = true := by
  rw [checkDeviceId] at h
  split at h
  next => cases h
  next hsyntax =>
    split at h
    next => cases h
    next =>
      split at h
      next => cases h
      next => exact ⟨(Except.ok.inj h).symm, by simpa using hsyntax⟩

theorem readIdentities_of_lookup {bundle : Directory} {content : Text}
    (h : bundle.lookup passwordsPath = some (.text content)) :
    readIdentities bundle = loadPasswords content.universalNewlines := by
  rw [readIdentities, Directory.readText, h]
  rfl

/-- What a plan for a credential publishes. -/
theorem holdsPassword_of_plan {env : LifecycleEnv} {rotate : Bool} {deviceId brokerUri : Text}
    {password : PasswordToken} {output : Option Entry} {bundle staged : Directory}
    {content : Option Text}
    (h : (credentialPlan env rotate deviceId brokerUri password output).run bundle =
      .ok (content, staged)) :
    HoldsPassword env staged (publishedOutput content output) deviceId password := by
  simp only [credentialPlan, transactionEdit, run_bind_eq_ok, run_read_eq_ok] at h
  obtain ⟨deviceId', _, ⟨hdevice, rfl⟩, brokerUri', _, ⟨-, rfl⟩, _, _, ⟨-, rfl⟩, package, _,
    hpublished, hpackage, rfl⟩ := h
  obtain ⟨rfl, hsyntax⟩ := checkDeviceId_eq_ok hdevice
  obtain ⟨edited, _, identities, security, hedit, -, hidentities, -, rfl⟩ :=
    publishedEdit_eq_ok hpublished
  simp only [credentialEdit, deviceFilesEdit, run_bind_eq_ok, run_read_eq_ok, run_write_eq_ok,
    run_writeText_eq_ok, run_pure_eq_ok] at hedit
  obtain ⟨_, _, ⟨-, rfl⟩, _, _, ⟨-, rfl⟩, _, hashed, hpasswd, clientId, _, ⟨-, rfl⟩, ca, _,
    ⟨-, rfl⟩, _, _, rfl, _, _, rfl, _, _, rfl, rfl, rfl⟩ := hedit
  obtain ⟨old, rfl⟩ : ∃ old, hashed = bundle.insert passwordsPath
      (.text (env.passwd old deviceId' password.val)) := by
    split at hpasswd
    next old _ => exact ⟨old, (Except.ok.inj hpasswd).symm⟩
    next => cases hpasswd
  -- the files of the device and the configuration are not the password file
  have hdevices : passwordsPath ≠ deviceMetadataPath deviceId' := by
    exact fun h ↦ absurd (List.cons.inj h).1 (by decide)
  have hclients (suffix : String) : passwordsPath ≠ clientPath deviceId' suffix := by
    exact fun h ↦ absurd (List.cons.inj h).1 (by decide)
  have hsecurity : passwordsPath ≠ securityPath := by decide
  have hidentities' := hidentities
  rw [readIdentities_of_lookup (by
    rw [AList.lookup_insert_ne (hclients _), AList.lookup_insert_ne (hclients _),
      AList.lookup_insert_ne hdevices, AList.lookup_insert])] at hidentities'
  obtain ⟨hash, hmem, hverifies⟩ := env.verifies_passwd hsyntax hidentities'
  refine ⟨_, identities, hash, congrArg (publishedOutput · output) (packageText_eq_ok hpackage),
    rfl, rfl, ?_, hmem, hverifies⟩
  rw [← hidentities, readIdentities, readIdentities, Directory.readText, Directory.readText,
    AList.lookup_insert_ne hsecurity]

/-- Whether a command returns, and the files that it leaves. -/
def CredentialCommand.run (env : LifecycleEnv) (command : CredentialCommand) (bundle : Directory)
    (output : Option Entry) (fault : Option LifecycleFault) : Bool × Files :=
  match command.script env ⟨.start bundle output, fault⟩ with
  | .ok _ x => (true, x.state.files)
  | .error _ x => (false, x.state.files)

/-- A command changes everything and returns, or raises and changes nothing. -/
structure AtomicUpdate (env : LifecycleEnv) (command : CredentialCommand) (bundle : Directory)
    (output : Option Entry) (result : Bool × Files) : Prop where
  complete : ∃ staged, result.2.dirs .bundle = some staged ∧ ensureManagedBundle staged = .ok ()
  raised : result.1 = false → result.2.dirs .bundle = some bundle ∧ result.2.output = output
  returned : result.1 = true → ∃ staged content,
    (command.plan env output).run bundle = .ok (content, staged) ∧
    result.2.dirs .bundle = some staged ∧ result.2.output = publishedOutput content output ∧
    command.PackageMatches env staged result.2.output

/-- A command carries out its plan. -/
theorem CredentialCommand.carries (env : LifecycleEnv) (command : CredentialCommand)
    (bundle : ManagedBundle) (output : Option Entry) (fault : Option LifecycleFault) :
    Carries (command.plan env output) fault bundle.val output (· = .start bundle.val output)
      (command.script env) := by
  cases command with
  | add deviceId brokerUri password => exact carries_addOrRotate bundle.property
  | rotate deviceId brokerUri password => exact carries_addOrRotate bundle.property
  | revoke deviceId => exact carries_revoke bundle.property

/-- A published bundle is managed. -/
theorem ensureManagedBundle_of_plan {env : LifecycleEnv} {command : CredentialCommand}
    {output : Option Entry} {bundle staged : Directory} {content : Option Text}
    (h : (command.plan env output).run bundle = .ok (content, staged)) :
    ensureManagedBundle staged = .ok () := by
  have hpublished {α : Type} {edit : BundleEdit α} {package : α → Except PythonError (Option Text)}
      {d : Directory} (h : (transactionEdit env edit package).run d = .ok (content, staged)) :
      ensureManagedBundle staged = .ok () := by
    simp only [transactionEdit, run_bind_eq_ok, run_read_eq_ok] at h
    obtain ⟨a, _, hedit, -, rfl⟩ := h
    obtain ⟨edited, _, _, _, -, hmanaged, -, -, rfl⟩ := publishedEdit_eq_ok hedit
    exact ensureManagedBundle_insert hmanaged
  cases command with
  | revoke deviceId =>
    simp only [CredentialCommand.plan, run_bind_eq_ok] at h
    obtain ⟨_, _, -, hrun⟩ := h
    exact hpublished hrun
  | add deviceId brokerUri password =>
    simp only [CredentialCommand.plan, credentialPlan, run_bind_eq_ok] at h
    obtain ⟨_, _, -, _, _, -, _, _, -, hrun⟩ := h
    exact hpublished hrun
  | rotate deviceId brokerUri password =>
    simp only [CredentialCommand.plan, credentialPlan, run_bind_eq_ok] at h
    obtain ⟨_, _, -, _, _, -, _, _, -, hrun⟩ := h
    exact hpublished hrun

theorem packageMatches_of_plan {env : LifecycleEnv} {command : CredentialCommand}
    {output : Option Entry} {bundle staged : Directory} {content : Option Text}
    (h : (command.plan env output).run bundle = .ok (content, staged)) :
    command.PackageMatches env staged (publishedOutput content output) := by
  cases command with
  | revoke deviceId => trivial
  | add deviceId brokerUri password => exact holdsPassword_of_plan h
  | rotate deviceId brokerUri password => exact holdsPassword_of_plan h

/-- A command is atomic exactly if no step raises after its publication, its checks refuse the
input, or it would publish what is there. -/
theorem credential_update_atomic (env : LifecycleEnv) (command : CredentialCommand)
    (bundle : ManagedBundle) (output : Option Entry) (fault : Option LifecycleFault) :
    AtomicUpdate env command bundle.val output (command.run env bundle.val output fault) ↔
      ¬ HitsLate fault ∨ (∃ e, (command.plan env output).run bundle.val = .error e) ∨
        ∃ content, (command.plan env output).run bundle.val = .ok (content, bundle.val) ∧
          publishedOutput content output = output := by
  have hcarries := command.carries env bundle output fault _ rfl
  rw [CredentialCommand.run]
  cases hrun : command.script env ⟨.start bundle.val output, fault⟩ with
  | ok a x =>
    rw [hrun] at hcarries
    obtain ⟨-, ⟨staged, content, hplan, hbundle, houtput⟩, hmiss⟩ := hcarries
    refine iff_of_true ⟨⟨staged, hbundle, ensureManagedBundle_of_plan hplan⟩, by simp, fun _ ↦ ?_⟩
      (.inl hmiss)
    refine ⟨staged, content, hplan, hbundle, houtput, ?_⟩
    rw [houtput]
    exact packageMatches_of_plan hplan
  | error e x =>
    rw [hrun] at hcarries
    rcases hcarries with ⟨-, ⟨⟨hbundle, houtput⟩, hreason⟩ |
      ⟨staged, content, hplan, ⟨hbundle, houtput⟩, hlate⟩⟩
    · refine iff_of_true ⟨⟨bundle.val, hbundle, bundle.property⟩, fun _ ↦ ⟨hbundle, houtput⟩,
        by simp⟩ ?_
      rcases hreason with herror | hearly
      · exact .inr (.inl herror)
      · exact .inl (not_hitsLate_of_hitsEarly hearly)
    · constructor
      · intro hatomic
        obtain ⟨hsame, hsameOutput⟩ := hatomic.raised rfl
        obtain rfl : staged = bundle.val := Option.some.inj (hbundle.symm.trans hsame)
        exact .inr (.inr ⟨content, hplan, houtput.symm.trans hsameOutput⟩)
      · rintro (hmiss | ⟨e', herror⟩ | ⟨content', hplan', hsame⟩)
        · exact absurd hlate hmiss
        · rw [hplan] at herror
          cases herror
        · obtain ⟨rfl, rfl⟩ := Prod.mk.inj (Except.ok.inj (hplan.symm.trans hplan'))
          exact ⟨⟨_, hbundle, bundle.property⟩, fun _ ↦ ⟨hbundle, houtput.trans hsame⟩, by simp⟩

/-! ### A revocation that raises after it has been published -/

theorem loadPasswords_eq_ok_iff {text : Text} {identities : List (Text × Text)} :
    loadPasswords text = .ok identities ↔
      loadPasswordLines 1 [] text.splitlines = .ok identities ∧ identities ≠ [] := by
  rw [loadPasswords]
  cases loadPasswordLines 1 [] text.splitlines with
  | error e => simp
  | ok passwords =>
    cases passwords with
    | nil =>
      refine iff_of_false (by simp) ?_
      rintro ⟨h, hne⟩
      exact hne (Except.ok.inj h).symm
    | cons entry passwords =>
      simp only [Except.ok.injEq, ne_eq, iff_self_and]
      rintro rfl
      exact List.cons_ne_nil _ _

/-- The users that are loaded come from the lines. -/
theorem mem_loadPasswordLines_iff {lines : List Text} {lineNumber : Nat}
    {passwords identities : List (Text × Text)}
    (h : loadPasswordLines lineNumber passwords lines = .ok identities) {user hash : Text} :
    (user, hash) ∈ identities ↔ (user, hash) ∈ passwords ∨
      ∃ line ∈ lines, line ≠ [] ∧ Text.partitionAt line 0x3A = (user, some hash) := by
  induction lines generalizing lineNumber passwords with
  | nil => simp [← Except.ok.inj h]
  | cons line lines ih =>
    rw [loadPasswordLines] at h
    simp only [List.exists_mem_cons_iff]
    split at h
    next hempty => simp [ih h, hempty]
    next hline =>
      split at h
      next => cases h
      next username encoded hpair =>
        split at h
        next => cases h
        next =>
          split at h
          next => cases h
          next =>
            rw [ih h, List.mem_append, List.mem_singleton, or_assoc, hpair]
            simp only [ne_eq, hline, not_false_eq_true, true_and, Prod.mk.injEq,
              Option.some.injEq, @eq_comm _ user, @eq_comm _ hash]

theorem mem_loadPasswords_iff {text : Text} {identities : List (Text × Text)}
    (h : loadPasswords text = .ok identities) {user hash : Text} : (user, hash) ∈ identities ↔
      ∃ line ∈ text.splitlines, line ≠ [] ∧ Text.partitionAt line 0x3A = (user, some hash) := by
  rw [mem_loadPasswordLines_iff (loadPasswords_eq_ok_iff.mp h).1]
  simp

/-- A token is on one line. -/
theorem PasswordToken.unbroken (password : PasswordToken) : password.val.Unbroken := by
  intro c hc
  have hall := List.all_eq_true.mp password.property.2 c hc
  simp only [Text.isAlphanumeric, Text.isLineBreak, Bool.or_eq_true, Bool.and_eq_true,
    decide_eq_true_eq, beq_iff_eq, Bool.or_eq_false_iff, Bool.and_eq_false_iff,
    decide_eq_false_iff_not, beq_eq_false_iff_ne] at hall ⊢
  omega

/-- `mosquitto_passwd` with an unsalted hash that is the password itself. -/
def samplePasswd (content username password : Text) : Text :=
  username ++ Text.ofString ":$7$" ++ password ++ 0x0A :: removeIdentity content username

/-- A device id has no separator. -/
theorem unbroken_of_validateDeviceIdSyntax {deviceId : Text}
    (h : validateDeviceIdSyntax deviceId = true) : deviceId.Unbroken ∧ 0x3A ∉ deviceId := by
  have hcharacter : ∀ c ∈ deviceId, Text.isLineBreak c = false ∧ c ≠ 0x3A := by
    intro c hc
    have hsyntax : Backend.deviceIdCharacter c = true := by
      cases deviceId with
      | nil => cases hc
      | cons c' rest =>
        simp only [validateDeviceIdSyntax, Bool.and_eq_true, List.all_eq_true] at h
        rcases List.mem_cons.mp hc with rfl | hc
        · simp [Backend.deviceIdCharacter, h.1.1]
        · exact h.1.2 c hc
    simp only [Backend.deviceIdCharacter, Text.isAlphanumeric, Text.isLineBreak,
      Bool.or_eq_true, Bool.and_eq_true, decide_eq_true_eq, beq_iff_eq, Bool.or_eq_false_iff,
      Bool.and_eq_false_iff, decide_eq_false_iff_not, beq_eq_false_iff_ne] at hsyntax ⊢
    omega
  exact ⟨fun c hc ↦ (hcharacter c hc).1, fun hc ↦ (hcharacter _ hc).2 rfl⟩

/-- The line of a user in the password file. -/
def sampleLine (username password : Text) : Text := username ++ Text.ofString ":$7$" ++ password

theorem sampleLine_unbroken {username password : Text} (husername : username.Unbroken)
    (hpassword : password.Unbroken) : (sampleLine username password).Unbroken := by
  have hcolon : ∀ c ∈ Text.ofString ":$7$", Text.isLineBreak c = false := by decide
  intro c hc
  rcases List.mem_append.mp hc with hc | hc
  · exact (List.mem_append.mp hc).elim (husername c) (hcolon c)
  · exact hpassword c hc

theorem partitionAt_sampleLine {username : Text} (h : 0x3A ∉ username) (password : Text) :
    Text.partitionAt (sampleLine username password) 0x3A =
      (username, some (Text.ofString "$7$" ++ password)) := by
  rw [sampleLine, List.append_assoc]
  exact Text.partitionAt_append h _

theorem sampleLine_ne_nil (username password : Text) : sampleLine username password ≠ [] :=
  fun h ↦ absurd (congrArg List.length h) (by simp [sampleLine, Text.ofString])

/-- The password file after `samplePasswd`. -/
theorem splitlines_samplePasswd {username : Text} {password : PasswordToken}
    (hname : validateDeviceIdSyntax username = true) (content : Text) :
    (samplePasswd content username password.val).universalNewlines.splitlines =
      sampleLine username password.val :: (removeIdentity content username).splitlines := by
  have hline := sampleLine_unbroken (unbroken_of_validateDeviceIdSyntax hname).1 password.unbroken
  rw [Text.splitlines_universalNewlines, samplePasswd, ← sampleLine, Text.splitlines,
    Text.splitlinesFrom_append hline]
  rfl

theorem samplePasswd_verifies {content username : Text} {password : PasswordToken}
    {identities : List (Text × Text)} (hname : validateDeviceIdSyntax username = true)
    (hload : loadPasswords (samplePasswd content username password.val).universalNewlines =
      .ok identities) :
    (username, Text.ofString "$7$" ++ password.val) ∈ identities := by
  rw [mem_loadPasswords_iff hload, splitlines_samplePasswd hname]
  exact ⟨_, List.mem_cons_self, sampleLine_ne_nil _ _,
    partitionAt_sampleLine (unbroken_of_validateDeviceIdSyntax hname).2 _⟩

/-- A policy with one role. -/
def samplePolicy : SecurityPolicy where
  defaultAclAccess := ⟨false, false, false, true⟩
  serviceRoles := []
  defaultRole := Text.ofString "device"
  roles := [⟨Text.ofString "device", []⟩]

/-- An environment in which serialized values are empty. -/
def sampleLifecycleEnv : LifecycleEnv where
  dumps _ := []
  urlparse _ := .ok ⟨Text.ofString "mqtts", some (Text.ofString "host"), none, none,
    some (some 8883), [], [], []⟩
  policy := .ok samplePolicy
  passwd := samplePasswd
  verifies hash password := hash == Text.ofString "$7$" ++ password
  verifies_passwd hname hload := ⟨_, samplePasswd_verifies hname hload, beq_self_eq_true _⟩

/-- A bundle with two identities. -/
def sampleBundle : ManagedBundle :=
  ⟨((((((AList.insert markerPath (.text (Text.ofString "1\n")) ∅).insert
      caPath (.text (Text.ofString "-----BEGIN CERTIFICATE-----"))).insert
      passwordsPath (.text (Text.ofString "collector:$7$c\nedge-1:$7$e\n"))).insert
      securityPath (.text [])).insert
      (.ofStrings ["server", "server.key"]) (.text [])).insert
      (.ofStrings ["clients", "healthcheck.container.conf"]) (.text [])).insert
      (.ofStrings ["clients", "collector.password"]) (.text []), by decide +kernel⟩

/-- The removal of the old bundle raises. -/
def sampleFault : Option LifecycleFault := some ⟨.removeBackup, ⟨none, none⟩⟩

/-- The command raises, and the identity is revoked. -/
theorem credential_update_atomic_fails :
    let result := CredentialCommand.run sampleLifecycleEnv (.revoke (Text.ofString "edge-1"))
      sampleBundle.val none sampleFault;
    result.1 = false ∧
      (result.2.dirs .bundle).map (fun d ↦ (d.readText passwordsPath).toOption) =
        some (some (Text.ofString "collector:$7$c\n")) ∧
      ¬ AtomicUpdate sampleLifecycleEnv (.revoke (Text.ofString "edge-1")) sampleBundle.val none
        result := by
  intro result
  have hraised : result.1 = false := by decide +kernel
  have hbundle : (result.2.dirs .bundle).map (fun d ↦ (d.readText passwordsPath).toOption) =
      some (some (Text.ofString "collector:$7$c\n")) := by decide +kernel
  refine ⟨hraised, hbundle, fun hatomic ↦ ?_⟩
  have hbefore : (sampleBundle.val.readText passwordsPath).toOption ≠
      some (Text.ofString "collector:$7$c\n") := by decide +kernel
  rw [(hatomic.raised hraised).1, Option.map_some, Option.some.injEq] at hbundle
  exact hbefore hbundle

end EdgeMonitor.Scripts
