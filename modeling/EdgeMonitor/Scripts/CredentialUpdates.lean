import EdgeMonitor.Scripts.DeviceLifecycle

/-!
# Credential updates under faults

Library `Scripts`. What a command means for the bundle is a program on the staged directory
alone. A transaction publishes its result as a whole, unless a step raises after the
package has replaced the old one.
-/

namespace EdgeMonitor.Scripts
open EdgeMonitor.Base
open EdgeMonitor.Base.Raising (Meets Hits)
open EdgeMonitor.Backend (validateDeviceIdSyntax)

/-! ### What a command means -/

/-- A change of a bundle, or an error. -/
abbrev BundleEdit (α : Type) := StateT Directory (Except PythonError) α

/-- Read in the bundle. -/
def BundleEdit.read {α : Type} (f : Directory → Except PythonError α) : BundleEdit α :=
  fun directory ↦ (f directory).map (·, directory)

/-- Change the bundle. -/
def BundleEdit.write (f : Directory → Except PythonError Directory) : BundleEdit Unit :=
  fun directory ↦ (f directory).map ((), ·)

/-- Write a text file. -/
def BundleEdit.writeText (path : Path) (content : Text) : BundleEdit Unit :=
  .write fun directory ↦ .ok (directory.insert path (.text content))

/-- The files of a device with a password. -/
def deviceFilesEdit (env : LifecycleEnv) (deviceId password brokerUri : Text) :
    BundleEdit ProvisioningPackage := do
  let clientId ← .read fun _ ↦ mqttClientId deviceId
  let ca ← .read (·.readText caPath)
  .writeText (deviceMetadataPath deviceId)
    (env.dumps (deviceMetadata deviceId brokerUri clientId) ++ Text.ofString "\n")
  .writeText (clientPath deviceId ".password") (password ++ Text.ofString "\n")
  .writeText (clientPath deviceId ".container.conf") (containerConf deviceId clientId password)
  return { deviceId, brokerUri, username := deviceId, password, clientId, caCertificate := ca }

/-- A new or changed credential. -/
def credentialEdit (env : LifecycleEnv) (rotate : Bool) (deviceId password brokerUri : Text) :
    BundleEdit ProvisioningPackage := do
  let identities ← .read readIdentities
  .read fun _ ↦
    if rotate != decide (deviceId ∈ identities.map (·.1)) then .error (.value (
      Text.ofString (if rotate then "cannot rotate device " else "cannot add device ")
      ++ deviceId ++
      Text.ofString (if rotate then ": identity is missing" else ": identity already exists")))
    else .ok ()
  .write fun directory ↦
    match directory.lookup passwordsPath with
    | some (.text content) =>
      .ok (directory.insert passwordsPath (.text (env.passwd content deviceId password)))
    | _ => .error .os
  deviceFilesEdit env deviceId password brokerUri

/-- A removed credential. -/
def revokeEdit (deviceId : Text) : BundleEdit Unit := do
  let identities ← .read readIdentities
  .read fun _ ↦
    if deviceId ∉ identities.map (·.1) then .error (.value (
      Text.ofString "cannot revoke device " ++ deviceId ++
      Text.ofString ": identity is missing"))
    else .ok ()
  let content ← .read (·.readText passwordsPath)
  .writeText passwordsPath (removeIdentity content deviceId)
  .write fun directory ↦ .ok ((clientFiles deviceId directory).foldl (·.erase ·) directory)
  .write fun directory ↦ .ok (directory.erase (deviceMetadataPath deviceId))

/-- The configuration of the broker, rebuilt from the password file. -/
def dynamicSecurityEdit (env : LifecycleEnv) : BundleEdit Unit := do
  let policy ← .read fun _ ↦ env.policy
  let identities ← .read readIdentities
  let configuration ← .read fun _ ↦ buildConfiguration policy identities
  .writeText securityPath (env.dumps configuration.toJson ++ Text.ofString "\n")

/-- An edit as a transaction publishes it. -/
def publishedEdit {α : Type} (env : LifecycleEnv) (edit : BundleEdit α) : BundleEdit α := do
  let result ← edit
  .read ensureManagedBundle
  dynamicSecurityEdit env
  .read fun directory ↦ if runtimeFiles.all directory.isFile then .ok () else .error .os
  return result

/-! ### Scripts that follow an edit -/

/-- The steps after the package has been published. -/
def LifecycleStep.late : LifecycleStep → Bool
  | removeBackup => true
  | stagingExists => true
  | _ => false

/-- The step that raises, with its damage. -/
abbrev LifecycleFault := StepFault LifecycleStep Damage

/-- The step that raises is before the publication, or after it. -/
def HitsEarly (fault : Option LifecycleFault) : Prop := ∃ x, fault = some x ∧ x.step.late = false
def HitsLate (fault : Option LifecycleFault) : Prop := ∃ x, fault = some x ∧ x.step.late = true

theorem hitsEarly_of_hits {fault : Option LifecycleFault} {label : LifecycleStep}
    (h : label.late = false) (hhits : Hits fault label) : HitsEarly fault := by
  obtain ⟨x, rfl, rfl⟩ := hhits
  exact ⟨x, rfl, h⟩

theorem hitsLate_of_hits {fault : Option LifecycleFault} {label : LifecycleStep}
    (h : label.late = true) (hhits : Hits fault label) : HitsLate fault := by
  obtain ⟨x, rfl, rfl⟩ := hhits
  exact ⟨x, rfl, h⟩

/-- Only two steps come after the publication. -/
theorem not_hitsLate {fault : Option LifecycleFault} (h : ¬ Hits fault .removeBackup)
    (h' : ¬ Hits fault .stagingExists) : ¬ HitsLate fault := by
  rintro ⟨⟨step, damage⟩, rfl, hlate⟩
  cases step with
  | removeBackup => exact h ⟨_, rfl, rfl⟩
  | stagingExists => exact h' ⟨_, rfl, rfl⟩
  | _ => cases hlate

theorem not_hitsLate_of_hitsEarly {fault : Option LifecycleFault} (h : HitsEarly fault) :
    ¬ HitsLate fault := by
  obtain ⟨x, rfl, hearly⟩ := h
  rintro ⟨_, ⟨⟩, hlate⟩
  rw [hearly] at hlate
  cases hlate

@[simp] theorem dirs_setDir (t : Transaction) (place place' : Place) (d : Option Directory) :
    (t.setDir place d).files.dirs place' = if place' = place then d else t.files.dirs place' := by
  simp [Transaction.setDir, Function.update_apply]

@[simp] theorem setDir_setDir (t : Transaction) (place : Place) (d d' : Option Directory) :
    (t.setDir place d).setDir place d' = t.setDir place d' := by
  simp [Transaction.setDir]

theorem setDir_self {t : Transaction} {place : Place} {d : Option Directory}
    (h : t.files.dirs place = d) : t.setDir place d = t := by
  rw [Transaction.setDir, ← h, Function.update_eq_self]

/-- The script changes the staged bundle as the edit does. If it raises, then the edit has
an error or the fault hits, and only the staged bundle may be damaged. -/
def Follows {α : Type} (m : Script α) (edit : BundleEdit α) : Prop :=
  ∀ fault t d, t.files.dirs .staging = some d → Meets fault (· = t) m
    (fun a s ↦ ∃ d', edit.run d = .ok (a, d') ∧ s = t.setDir .staging (some d'))
    (fun s ↦ (∃ x, s = t.setDir .staging x) ∧ ((∃ e, edit.run d = .error e) ∨ HitsEarly fault))

namespace Follows
variable {α β : Type} {label : LifecycleStep}

theorem pure (a : α) : Follows (Pure.pure a) (Pure.pure a) := by
  intro fault t d hd
  exact .pure fun s hs ↦ ⟨d, rfl, by rw [hs, setDir_self hd]⟩

theorem bind {m : Script α} {f : α → Script β} {edit : BundleEdit α} {edit' : α → BundleEdit β}
    (hm : Follows m edit) (hf : ∀ a, Follows (f a) (edit' a)) :
    Follows (m >>= f) (edit >>= edit') := by
  intro fault t d hd
  refine .bind ((hm fault t d hd).mono (fun _ h ↦ h) (fun _ _ h ↦ h) ?_) fun a ↦ ?_
  · rintro s ⟨hs, ⟨e, he⟩ | hhits⟩
    · exact ⟨hs, .inl ⟨e, by rw [StateT.run_bind, he]; rfl⟩⟩
    · exact ⟨hs, .inr hhits⟩
  · refine .of_forall ?_
    rintro s ⟨d', hedit, rfl⟩
    have hrun : (edit >>= edit').run d = (edit' a).run d' := by
      rw [StateT.run_bind, hedit]
      rfl
    refine (hf a fault (t.setDir .staging (some d')) d' (by simp)).mono (fun _ h ↦ h) ?_ ?_
    · rintro b s ⟨d'', hedit', rfl⟩
      exact ⟨d'', by rw [hrun, hedit'], by rw [setDir_setDir]⟩
    · rintro s ⟨⟨x, rfl⟩, herror⟩
      refine ⟨⟨x, by rw [setDir_setDir]⟩, ?_⟩
      rwa [hrun]

theorem ofExcept (r : Except PythonError α) :
    Follows (.ofExcept r) (.read fun _ ↦ r) := by
  intro fault t d hd
  refine .ofExcept ?_ ?_
  · rintro s a rfl rfl
    exact ⟨d, rfl, (setDir_self hd).symm⟩
  · rintro s e rfl rfl
    exact ⟨⟨some d, (setDir_self hd).symm⟩, .inl ⟨e, rfl⟩⟩

theorem query (h : label.late = false) (r : Except PythonError α) :
    Follows (Scripts.query label fun _ ↦ r) (.read fun _ ↦ r) := by
  intro fault t d hd
  refine .step ?_ ?_ ?_
  · rintro s a s' rfl - heffect
    cases r with
    | ok b =>
      obtain ⟨rfl, rfl⟩ := Prod.mk.inj (Except.ok.inj heffect)
      exact ⟨d, rfl, (setDir_self hd).symm⟩
    | error e => cases heffect
  · rintro s e rfl - heffect
    cases r with
    | ok b => cases heffect
    | error e' => exact ⟨⟨some d, (setDir_self hd).symm⟩, .inl ⟨e', rfl⟩⟩
  · rintro s damage rfl rfl
    exact ⟨⟨some d, (setDir_self hd).symm⟩, .inr ⟨_, rfl, h⟩⟩

theorem readDir (h : label.late = false) (f : Directory → Except PythonError α) :
    Follows (Scripts.readDir label .staging f) (.read f) := by
  intro fault t d hd
  unfold Scripts.readDir
  refine .step ?_ ?_ ?_
  · rintro s a s' rfl - heffect
    simp only [hd] at heffect
    cases hf : f d with
    | ok b =>
      rw [hf] at heffect
      obtain ⟨rfl, rfl⟩ := Prod.mk.inj (Except.ok.inj heffect)
      exact ⟨d, by simp [BundleEdit.read, StateT.run, hf, Except.map], (setDir_self hd).symm⟩
    | error e =>
      rw [hf] at heffect
      cases heffect
  · rintro s e rfl - heffect
    simp only [hd] at heffect
    cases hf : f d with
    | ok b =>
      rw [hf] at heffect
      cases heffect
    | error e' =>
      exact ⟨⟨some d, (setDir_self hd).symm⟩,
        .inl ⟨e', by simp [BundleEdit.read, StateT.run, hf, Except.map]⟩⟩
  · rintro s damage rfl rfl
    exact ⟨⟨some d, (setDir_self hd).symm⟩, .inr ⟨_, rfl, h⟩⟩

theorem writeDir (h : label.late = false) (f : Directory → Except PythonError Directory) :
    Follows (Scripts.writeDir label .staging f) (.write f) := by
  intro fault t d hd
  refine .step ?_ ?_ ?_
  · rintro s a s' rfl - heffect
    simp only [hd] at heffect
    cases hf : f d with
    | ok d' =>
      rw [hf] at heffect
      obtain ⟨-, rfl⟩ := Prod.mk.inj (Except.ok.inj heffect)
      exact ⟨d', by simp [BundleEdit.write, StateT.run, hf, Except.map], rfl⟩
    | error e =>
      rw [hf] at heffect
      cases heffect
  · rintro s e rfl - heffect
    simp only [hd] at heffect
    cases hf : f d with
    | ok b =>
      rw [hf] at heffect
      cases heffect
    | error e' =>
      exact ⟨⟨some d, (setDir_self hd).symm⟩,
        .inl ⟨e', by simp [BundleEdit.write, StateT.run, hf, Except.map]⟩⟩
  · rintro s damage rfl rfl
    exact ⟨⟨damage.directory, rfl⟩, .inr ⟨_, rfl, h⟩⟩

theorem writeText (h : label.late = false) (path : Path) (content : Text) :
    Follows (Scripts.writeText label .staging path content) (.writeText path content) :=
  writeDir h _

theorem touch (h : label.late = false) : Follows (Scripts.touch label) (Pure.pure ()) := by
  intro fault t d hd
  unfold Scripts.touch
  refine .step ?_ ?_ ?_
  · rintro s a s' rfl - heffect
    obtain ⟨-, rfl⟩ := Prod.mk.inj (Except.ok.inj heffect)
    exact ⟨d, rfl, (setDir_self hd).symm⟩
  · rintro s e rfl - heffect
    cases heffect
  · rintro s damage rfl rfl
    exact ⟨⟨some d, (setDir_self hd).symm⟩, .inr ⟨_, rfl, h⟩⟩

/-- A step that changes no content before a script. -/
theorem touch_bind {m : Script α} {edit : BundleEdit α} (h : label.late = false)
    (hm : Follows m edit) : Follows (Scripts.touch label >>= fun _ ↦ m) edit :=
  (touch h).bind fun _ ↦ hm

/-- A step that changes no content after a script. -/
theorem bind_touch {m : Script Unit} {edit : BundleEdit Unit} (h : label.late = false)
    (hm : Follows m edit) : Follows (m >>= fun _ ↦ Scripts.touch label) edit := by
  have hbind := hm.bind fun _ ↦ touch h
  rwa [bind_pure_unit] at hbind

/-- A condition that the script checks before it goes on. -/
theorem guard {c : Prop} [Decidable c] {e : PythonError} {m : Script α} {edit : BundleEdit α}
    (hm : Follows m edit) :
    Follows (if c then (do let _ ← (.ofExcept (.error e) : Script PUnit); m) else m)
      (.read (fun _ ↦ if c then .error e else .ok ()) >>= fun _ ↦ edit) := by
  by_cases hc : c
  · simp only [if_pos hc]
    exact bind (ofExcept (.error e : Except PythonError PUnit)) fun _ ↦ hm
  · simp only [if_neg hc]
    exact hm

/-- A step that only lists files before a script. -/
theorem list_bind {f : Directory → α} {m : α → Script β} {edit : BundleEdit β}
    (h : label.late = false) (hm : ∀ a, Follows (m a) edit) :
    Follows (Scripts.readDir label .staging (fun directory ↦ .ok (f directory)) >>= m) edit :=
  (readDir h _).bind hm

theorem forM_touch {label : Path → LifecycleStep} (h : ∀ path, (label path).late = false)
    (paths : List Path) :
    Follows (paths.forM fun path ↦ Scripts.touch (label path)) (Pure.pure ()) := by
  induction paths with
  | nil => exact pure ()
  | cons path paths ih => exact touch_bind (h path) ih

theorem forM_unlink {label : Path → LifecycleStep} (h : ∀ path, (label path).late = false)
    (paths : List Path) :
    Follows (paths.forM fun path ↦ Scripts.unlink (label path) .staging path)
      (.write fun directory ↦ .ok (paths.foldl (·.erase ·) directory)) := by
  induction paths with
  | nil => exact pure ()
  | cons path paths ih => exact (writeDir (h path) _).bind fun _ ↦ ih

end Follows

theorem follows_hashPassword (env : LifecycleEnv) (username password : Text) :
    Follows (hashPassword env .staging username password) (.write fun directory ↦
      match directory.lookup passwordsPath with
      | some (.text content) =>
        .ok (directory.insert passwordsPath (.text (env.passwd content username password)))
      | _ => .error .os) :=
  .bind_touch rfl (.writeDir rfl _)

theorem follows_writeDeviceFiles (env : LifecycleEnv) (deviceId password brokerUri : Text) :
    Follows (writeDeviceFiles env .staging deviceId password brokerUri)
      (deviceFilesEdit env deviceId password brokerUri) := by
  refine .bind (.ofExcept _) fun clientId ↦ ?_
  refine .bind (.readDir rfl _) fun ca ↦ .touch_bind rfl ?_
  refine .bind (.writeText rfl _ _) fun _ ↦ .touch_bind rfl <| .touch_bind rfl ?_
  refine .bind (.writeText rfl _ _) fun _ ↦ .bind (.writeText rfl _ _) fun _ ↦ ?_
  refine .list_bind rfl fun paths ↦ ?_
  exact (Follows.forM_touch (fun _ ↦ rfl) paths).bind fun _ ↦ .pure _

theorem follows_credentialMutator (env : LifecycleEnv) (rotate : Bool)
    (deviceId password brokerUri : Text) :
    Follows (credentialMutator env rotate deviceId password brokerUri .staging)
      (credentialEdit env rotate deviceId password brokerUri) := by
  refine .bind (.readDir rfl _) fun identities ↦ .guard ?_
  exact .bind (follows_hashPassword env deviceId password) fun _ ↦
    follows_writeDeviceFiles env deviceId password brokerUri

/-- Removing a file that is not there changes nothing. -/
theorem read_mem_erase (path : Path) :
    (do
      let present ← BundleEdit.read fun directory ↦ .ok (decide (path ∈ directory))
      if present then .write fun directory ↦ .ok (directory.erase path)
      else Pure.pure ()) = BundleEdit.write fun directory ↦ .ok (directory.erase path) := by
  funext directory
  by_cases h : path ∈ directory
  · simp [BundleEdit.read, BundleEdit.write, bind, StateT.bind, Except.bind, Except.map, h]
  · have herase : directory.erase path = directory := AList.ext (List.kerase_of_notMem_keys h)
    simp [BundleEdit.read, BundleEdit.write, bind, StateT.bind, Except.bind, Except.map, h, herase,
      pure, StateT.pure, Except.pure]

theorem follows_revokeMutator (deviceId : Text) :
    Follows (revokeMutator deviceId .staging) (revokeEdit deviceId) := by
  refine .bind (.readDir rfl _) fun identities ↦ .guard ?_
  refine .bind (.readDir rfl _) fun content ↦ .bind (.writeText rfl _ _) fun _ ↦ ?_
  have hclients : Follows (do
      let paths ← readDir (.mutate .listClients) .staging fun directory ↦
        .ok (clientFiles deviceId directory)
      paths.forM fun path ↦ unlink (.mutate (.removeClient path)) .staging path)
      (.write fun directory ↦ .ok ((clientFiles deviceId directory).foldl (·.erase ·) directory)) :=
    (Follows.readDir rfl _).bind fun paths ↦ .forM_unlink (fun _ ↦ rfl) paths
  have hmetadata : Follows (do
      let present ← readDir (.mutate .metadataExists) .staging fun directory ↦
        .ok (decide (deviceMetadataPath deviceId ∈ directory))
      if present then unlink (.mutate .removeMetadata) .staging (deviceMetadataPath deviceId))
      (.write fun directory ↦ .ok (directory.erase (deviceMetadataPath deviceId))) := by
    rw [← read_mem_erase]
    refine .bind (.readDir rfl _) fun present ↦ ?_
    cases present with
    | false => exact .pure ()
    | true => exact .writeDir rfl _
  have hboth := hclients.bind fun _ ↦ hmetadata
  rwa [bind_assoc] at hboth

theorem follows_writeDynamicSecurity (env : LifecycleEnv) :
    Follows (writeDynamicSecurity env .staging) (dynamicSecurityEdit env) := by
  refine .bind (.query rfl _) fun policy ↦ .bind (.readDir rfl _) fun identities ↦ ?_
  exact .bind (.ofExcept _) fun configuration ↦ .bind_touch rfl (.writeText rfl _ _)

theorem follows_applyRuntimePermissions :
    Follows (applyRuntimePermissions .staging)
      (.read fun directory ↦ if runtimeFiles.all directory.isFile then .ok () else .error .os) :=
  .readDir rfl _

/-! ### The transaction -/

/-- The package output after a publication. -/
def publishedOutput (package : Option Text) (output : Option Entry) : Option Entry :=
  package.elim output fun content ↦ some (.text content)

@[simp] theorem files_setTemporary (t : Transaction) (entry : Option Entry) :
    (t.setTemporary entry).files = { t.files with temporaryOutput := entry } := rfl

@[simp] theorem output_setDir (t : Transaction) (place : Place) (d : Option Directory) :
    (t.setDir place d).files.output = t.files.output := rfl

@[simp] theorem temporaryOutput_setDir (t : Transaction) (place : Place) (d : Option Directory) :
    (t.setDir place d).files.temporaryOutput = t.files.temporaryOutput := rfl

@[simp] theorem staging_setDir (t : Transaction) (place : Place) (d : Option Directory) :
    (t.setDir place d).staging = t.staging := rfl

@[simp] theorem backup_setDir (t : Transaction) (place : Place) (d : Option Directory) :
    (t.setDir place d).backup = t.backup := rfl

/-- What the callbacks of a transaction publish besides the bundle. -/
structure Publishes {α : Type} (prepare commit : Option (α → Script Unit))
    (package : α → Except PythonError (Option Text)) : Prop where
  prepared (fault : Option LifecycleFault) (t : Transaction) (a : α)
    (h : t.files.temporaryOutput ≠ some .symlink) :
    Meets fault (· = t) (optionally prepare a)
      (fun _ s ↦ ∃ x content, package a = .ok content ∧ s = t.setTemporary x ∧
        ∀ text ∈ content, x = some (.text text))
      (fun s ↦ (∃ x, s = t.setTemporary x) ∧ ((∃ e, package a = .error e) ∨ HitsEarly fault))
  committed (fault : Option LifecycleFault) (t : Transaction) (a : α) (content : Option Text)
    (hpackage : package a = .ok content)
    (h : ∀ text ∈ content, t.files.temporaryOutput = some (.text text)) :
    Meets fault (· = t) (optionally commit a)
      (fun _ s ↦ s.files.dirs = t.files.dirs ∧ s.staging = t.staging ∧ s.backup = t.backup ∧
        s.files.output = publishedOutput content t.files.output)
      (fun s ↦ s = t ∧ HitsEarly fault)

/-- The edit of a whole transaction: the result of the mutator, and the package. -/
def transactionEdit {α : Type} (env : LifecycleEnv) (edit : BundleEdit α)
    (package : α → Except PythonError (Option Text)) : BundleEdit (Option Text) := do
  let result ← publishedEdit env edit
  .read fun _ ↦ package result

/-- The bundle and the package output. -/
def Transaction.Holds (t : Transaction) (bundle : Directory) (output : Option Entry) : Prop :=
  t.files.dirs .bundle = some bundle ∧ t.files.output = output

section Atomically
variable {label : LifecycleStep} {fault : Option LifecycleFault} {P : Transaction → Prop}
  {f : Transaction → Transaction} {Q : Unit → Transaction → Prop} {E : Transaction → Prop}

theorem meets_atomically (hok : ∀ t, P t → ¬ Hits fault label → Q () (f t))
    (hfault : ∀ t, P t → Hits fault label → E t) :
    Meets fault P (atomically label f) Q E := by
  refine .step ?_ ?_ ?_
  · rintro s a s' hs hmiss heffect
    obtain ⟨-, rfl⟩ := Prod.mk.inj (Except.ok.inj heffect)
    exact hok s hs hmiss
  · rintro s e - - heffect
    cases heffect
  · rintro s damage hs rfl
    exact hfault s hs ⟨_, rfl, rfl⟩

theorem meets_rmtree {place : Place}
    (hok : ∀ t, P t → ¬ Hits fault label → Q () (t.setDir place none))
    (hfault : ∀ t x, P t → Hits fault label → E (t.setDir place x)) :
    Meets fault P (rmtree label place) Q E := by
  refine .step ?_ ?_ ?_
  · rintro s a s' hs hmiss heffect
    obtain ⟨-, rfl⟩ := Prod.mk.inj (Except.ok.inj heffect)
    exact hok s hs hmiss
  · rintro s e - - heffect
    cases heffect
  · rintro s damage hs rfl
    exact hfault s _ hs ⟨_, rfl, rfl⟩

theorem meets_readDir {α : Type} {place : Place} {f : Directory → Except PythonError α}
    {Q : α → Transaction → Prop}
    (hok : ∀ t a, P t → ¬ Hits fault label → (t.files.dirs place).elim (.error .os) f = .ok a →
      Q a t)
    (herror : ∀ t e, P t → ¬ Hits fault label →
      (t.files.dirs place).elim (.error .os) f = .error e → E t)
    (hfault : ∀ t, P t → Hits fault label → E t) :
    Meets fault P (readDir label place f) Q E := by
  unfold readDir query
  refine .step ?_ ?_ ?_
  · rintro s a s' hs hmiss heffect
    have hread := hok s a hs hmiss
    cases hd : s.files.dirs place with
    | none =>
      simp only [hd] at heffect
      cases heffect
    | some d =>
      simp only [hd, Option.elim] at heffect hread
      cases hf : f d with
      | error e =>
        rw [hf] at heffect
        cases heffect
      | ok b =>
        rw [hf] at heffect
        obtain ⟨rfl, rfl⟩ := Prod.mk.inj (Except.ok.inj heffect)
        exact hread hf
  · rintro s e hs hmiss heffect
    refine herror s e hs hmiss ?_
    cases hd : s.files.dirs place with
    | none =>
      simp only [hd] at heffect
      cases heffect
      rfl
    | some d =>
      simp only [hd, Option.elim] at heffect ⊢
      cases hf : f d with
      | error e' =>
        rw [hf] at heffect
        cases heffect
        rfl
      | ok b =>
        rw [hf] at heffect
        cases heffect
  · rintro s damage hs rfl
    exact hfault s hs ⟨_, rfl, rfl⟩

theorem meets_pathExists {place : Place} {Q : Bool → Transaction → Prop}
    (hok : ∀ t, P t → ¬ Hits fault label → Q (t.files.dirs place).isSome t)
    (hfault : ∀ t, P t → Hits fault label → E t) :
    Meets fault P (pathExists label place) Q E := by
  unfold pathExists query
  refine .step ?_ ?_ ?_
  · rintro s a s' hs hmiss heffect
    obtain ⟨rfl, rfl⟩ := Prod.mk.inj (Except.ok.inj heffect)
    exact hok s hs hmiss
  · rintro s e - - heffect
    cases heffect
  · rintro s damage hs rfl
    exact hfault s hs ⟨_, rfl, rfl⟩

end Atomically

theorem not_hits_none {label : LifecycleStep} :
    ¬ Hits (none : Option LifecycleFault) label := by
  rintro ⟨x, hx, -⟩
  cases hx

/-- Staging an update follows its edit. -/
theorem meets_stageUpdate {α : Type} {env : LifecycleEnv} {mutator : Place → Script α}
    {edit : BundleEdit α} (hmutator : Follows (mutator .staging) edit)
    {fault : Option LifecycleFault} {t : Transaction} {d : Directory}
    (hd : t.files.dirs .bundle = some d) :
    Meets fault (· = t) (stageUpdate env mutator)
      (fun a s ↦ ∃ d', (publishedEdit env edit).run d = .ok (a, d') ∧
        s = t.setDir .staging (some d'))
      (fun s ↦ (∃ x, s = t.setDir .staging x) ∧
        ((∃ e, (publishedEdit env edit).run d = .error e) ∨ HitsEarly fault)) := by
  have hfollows : Follows (do
      let result ← mutator .staging
      readDir .checkStaging .staging ensureManagedBundle
      writeDynamicSecurity env .staging
      applyRuntimePermissions .staging
      return result) (publishedEdit env edit) :=
    .bind hmutator fun result ↦ .bind (.readDir rfl _) fun _ ↦
      .bind (follows_writeDynamicSecurity env) fun _ ↦
      .bind follows_applyRuntimePermissions fun _ ↦ .pure result
  refine .bind (Q := fun _ s ↦ s = t.setDir .staging none) ?_ fun _ ↦
    .bind (Q := fun _ s ↦ s = t.setDir .staging (some d)) ?_ fun _ ↦ ?_
  · refine meets_rmtree ?_ ?_
    · rintro s rfl -
      rfl
    · rintro s x rfl hhits
      exact ⟨⟨x, rfl⟩, .inr (hitsEarly_of_hits rfl hhits)⟩
  · refine .step ?_ ?_ ?_
    · rintro s a s' rfl - heffect
      obtain ⟨-, rfl⟩ := Prod.mk.inj (Except.ok.inj heffect)
      simp [hd]
    · rintro s e - - heffect
      cases heffect
    · rintro s damage rfl rfl
      exact ⟨⟨damage.directory, setDir_setDir _ _ _ _⟩, .inr ⟨_, rfl, rfl⟩⟩
  · refine (hfollows fault (t.setDir .staging (some d)) d (by simp)).mono (fun _ h ↦ h) ?_ ?_
    · rintro a s ⟨d', hedit, rfl⟩
      exact ⟨d', hedit, setDir_setDir _ _ _ _⟩
    · rintro s ⟨⟨x, rfl⟩, herror⟩
      exact ⟨⟨x, setDir_setDir _ _ _ _⟩, herror⟩

/-- Where the transaction has staged an update with its package. -/
structure Staged (bundle staged : Directory) (package : Option Text) (output : Option Entry)
    (t : Transaction) : Prop where
  bundle_eq : t.files.dirs .bundle = some bundle
  staging_eq : t.files.dirs .staging = some staged
  output_eq : t.files.output = output
  temporary_eq : ∀ content ∈ package, t.files.temporaryOutput = some (.text content)
  stagingVar_eq : t.staging = .staging

/-- Where the old bundle lies in the backup, and the new one not yet at its place. -/
structure Between (bundle staged : Directory) (package : Option Text) (output : Option Entry)
    (t : Transaction) : Prop where
  staging_eq : t.files.dirs .staging = some staged
  backup_eq : t.files.dirs .backup = some bundle
  output_eq : t.files.output = output
  temporary_eq : ∀ content ∈ package, t.files.temporaryOutput = some (.text content)
  stagingVar_eq : t.staging = .staging

/-- Where the new bundle is promoted, and the old one lies in the backup. -/
structure Promoted (bundle staged : Directory) (output : Option Entry) (t : Transaction) :
    Prop where
  bundle_eq : t.files.dirs .bundle = some staged
  staging_eq : t.files.dirs .staging = none
  backup_eq : t.files.dirs .backup = some bundle
  output_eq : t.files.output = output
  stagingVar_eq : t.staging = .staging

/-- Where a transaction has not happened. -/
def Undone (bundle : Directory) (output : Option Entry) (t : Transaction) : Prop :=
  t.Holds bundle output ∧ t.staging ≠ .bundle

theorem Staged.undone {bundle staged : Directory} {package : Option Text}
    {output : Option Entry} {t : Transaction} (h : Staged bundle staged package output t) :
    Undone bundle output t :=
  ⟨⟨h.bundle_eq, h.output_eq⟩, by simp [h.stagingVar_eq]⟩

section Publish
variable {fault : Option LifecycleFault} {bundle staged : Directory} {content : Option Text}
  {output : Option Entry} {E : Transaction → Prop}

/-- The old bundle moves to a backup. -/
theorem meets_makeBackup :
    Meets fault (Staged bundle staged content output)
      (do
        atomically .makeBackup fun t ↦ { t.setDir .backup (some ∅) with backup := some .backup }
        atomically .clearBackup (·.setDir .backup none)
        atomically .moveBundle (·.rename .bundle .backup))
      (fun _ ↦ Between bundle staged content output)
      (fun s ↦ Undone bundle output s ∧ HitsEarly fault) := by
  refine .bind (Q := fun _ ↦ Staged bundle staged content output) ?_ fun _ ↦
    .bind (Q := fun _ ↦ Staged bundle staged content output) ?_ fun _ ↦ ?_
  · refine meets_atomically (fun t ht _ ↦ ?_) fun t ht hhits ↦
      ⟨ht.undone, hitsEarly_of_hits rfl hhits⟩
    exact ⟨by simp [ht.bundle_eq], by simp [ht.staging_eq], ht.output_eq, ht.temporary_eq,
      ht.stagingVar_eq⟩
  · refine meets_atomically (fun t ht _ ↦ ?_) fun t ht hhits ↦
      ⟨ht.undone, hitsEarly_of_hits rfl hhits⟩
    exact ⟨by simp [ht.bundle_eq], by simp [ht.staging_eq], ht.output_eq, ht.temporary_eq,
      ht.stagingVar_eq⟩
  · refine meets_atomically (fun t ht _ ↦ ?_) fun t ht hhits ↦
      ⟨ht.undone, hitsEarly_of_hits rfl hhits⟩
    exact ⟨by simp [Transaction.rename, ht.staging_eq],
      by simp [Transaction.rename, ht.bundle_eq], ht.output_eq, ht.temporary_eq,
      ht.stagingVar_eq⟩

/-- The new bundle takes the place of the old one, which otherwise comes back. -/
theorem meets_promote :
    Meets fault (Between bundle staged content output)
      (.onError (atomically .promote (·.rename .staging .bundle)) undoPromotion)
      (fun _ t ↦ Promoted bundle staged output t ∧
        ∀ text ∈ content, t.files.temporaryOutput = some (.text text))
      (fun s ↦ Undone bundle output s ∧ HitsEarly fault) := by
  refine .onError (E := fun t ↦ Between bundle staged content output t ∧ HitsEarly fault) ?_ ?_
  · refine meets_atomically (fun t ht _ ↦ ⟨⟨?_, ?_, ?_, ht.output_eq, ht.stagingVar_eq⟩,
      ht.temporary_eq⟩) fun t ht hhits ↦ ⟨ht, hitsEarly_of_hits rfl hhits⟩
    · simp [Transaction.rename, ht.staging_eq]
    · simp [Transaction.rename]
    · simp [Transaction.rename, ht.backup_eq]
  · refine .bind (Q := fun _ t ↦ Undone bundle output t ∧ HitsEarly fault)
      (meets_atomically (fun t ⟨ht, hhits⟩ _ ↦ ⟨⟨⟨?_, ht.output_eq⟩, ?_⟩, hhits⟩)
        fun t _ hhits ↦ (not_hits_none hhits).elim) fun _ ↦ .assign fun t ht ↦ ht
    · simp [Transaction.rename, ht.backup_eq]
    · simp [Transaction.rename, ht.stagingVar_eq]

/-- The package is published with the bundle, or the old bundle comes back. -/
theorem meets_commit {α : Type} {prepare commit : Option (α → Script Unit)}
    {package : α → Except PythonError (Option Text)} (hpublishes : Publishes prepare commit package)
    {a : α} (hpackage : package a = .ok content) :
    Meets fault (fun t ↦ Promoted bundle staged output t ∧
        ∀ text ∈ content, t.files.temporaryOutput = some (.text text))
      (.onError (optionally commit a) undoCommit)
      (fun _ ↦ Promoted bundle staged (publishedOutput content output))
      (fun s ↦ Undone bundle output s ∧ HitsEarly fault) := by
  refine .onError (E := fun t ↦ Promoted bundle staged output t ∧ HitsEarly fault) ?_ ?_
  · refine .of_forall fun t ⟨ht, htemporary⟩ ↦
      (hpublishes.committed fault t a content hpackage htemporary).mono (fun _ h ↦ h) ?_ ?_
    · rintro - s ⟨hdirs, hstaging, -, houtput⟩
      exact ⟨by rw [hdirs, ht.bundle_eq], by rw [hdirs, ht.staging_eq], by rw [hdirs, ht.backup_eq],
        by rw [houtput, ht.output_eq], by rw [hstaging, ht.stagingVar_eq]⟩
    · rintro s ⟨rfl, hhits⟩
      exact ⟨ht, hhits⟩
  · -- the handler runs without a fault ahead; until the old bundle is back, only its backup counts
    let Backed (t : Transaction) : Prop :=
      (t.files.dirs .backup = some bundle ∧ t.files.output = output ∧ t.staging ≠ .bundle) ∧
        HitsEarly fault
    have hstep {label : LifecycleStep} {f : Transaction → Transaction} {P Q : Transaction → Prop}
        (h : ∀ t, P t → Q (f t)) :
        Meets none P (atomically label f) (fun _ ↦ Q)
          (fun s ↦ Undone bundle output s ∧ HitsEarly fault) :=
      meets_atomically (fun t ht _ ↦ h t ht) fun t _ hhits ↦ (not_hits_none hhits).elim
    refine .bind (Q := fun _ ↦ Backed) (hstep fun t ⟨ht, hhits⟩ ↦ ?_) fun _ ↦
      .bind (Q := fun _ ↦ Backed) (hstep fun t ⟨ht, hhits⟩ ↦ ?_) fun _ ↦
      .bind (Q := fun _ ↦ Backed) (hstep fun t ⟨ht, hhits⟩ ↦ ?_) fun _ ↦
      .bind (Q := fun _ t ↦ Undone bundle output t ∧ HitsEarly fault)
        (hstep fun t ⟨ht, hhits⟩ ↦ ?_) fun _ ↦
      .bind (Q := fun _ t ↦ Undone bundle output t ∧ HitsEarly fault)
        (.assign fun t ht ↦ ht) fun _ ↦
      meets_rmtree (fun t ⟨ht, hhits⟩ _ ↦ ?_) fun t x _ hhits ↦ (not_hits_none hhits).elim
    · exact ⟨⟨by simp [ht.backup_eq], ht.output_eq, by simp⟩, hhits⟩
    · exact ⟨⟨by simp [ht.1], ht.2.1, ht.2.2⟩, hhits⟩
    · exact ⟨⟨by simp [Transaction.rename, ht.1], ht.2.1, ht.2.2⟩, hhits⟩
    · exact ⟨⟨⟨by simp [Transaction.rename, ht.1], ht.2.1⟩, ht.2.2⟩, hhits⟩
    · exact ⟨⟨⟨by simp [ht.1.1], ht.1.2⟩, ht.2⟩, hhits⟩

end Publish

/-- Publishing an update replaces bundle and package, unless a step raises. -/
theorem meets_publishUpdate {α : Type} {prepare commit : Option (α → Script Unit)}
    {package : α → Except PythonError (Option Text)} (hpublishes : Publishes prepare commit package)
    {fault : Option LifecycleFault} {bundle staged : Directory} {content : Option Text}
    {output : Option Entry} {a : α} (hpackage : package a = .ok content) :
    Meets fault (Staged bundle staged content output) (publishUpdate commit a)
      (fun _ s ↦ s.Holds staged (publishedOutput content output) ∧
        s.files.dirs .staging = none ∧ s.staging = .staging ∧ s.backup = none ∧
        ¬ Hits fault .removeBackup)
      (fun s ↦ Undone bundle output s ∧ HitsEarly fault ∨
        Undone staged (publishedOutput content output) s ∧ HitsLate fault) := by
  have hassoc : publishUpdate commit a = (do
      atomically .makeBackup fun t ↦ { t.setDir .backup (some ∅) with backup := some .backup }
      atomically .clearBackup (·.setDir .backup none)
      atomically .moveBundle (·.rename .bundle .backup)) >>= fun _ ↦ (do
      .onError (atomically .promote (·.rename .staging .bundle)) undoPromotion
      .onError (optionally commit a) undoCommit
      rmtree .removeBackup .backup
      .assign fun t ↦ { t with backup := none }) := by
    simp only [publishUpdate, bind_assoc]
  rw [hassoc]
  refine .bind (meets_makeBackup.mono (fun _ h ↦ h) (fun _ _ h ↦ h) fun s h ↦ .inl h) fun _ ↦
    .bind (meets_promote.mono (fun _ h ↦ h) (fun _ _ h ↦ h) fun s h ↦ .inl h) fun _ ↦
    .bind ((meets_commit hpublishes hpackage).mono (fun _ h ↦ h) (fun _ _ h ↦ h) fun s h ↦ .inl h)
      fun _ ↦ ?_
  refine .bind (Q := fun _ t ↦ t.Holds staged (publishedOutput content output) ∧
    t.files.dirs .staging = none ∧ t.staging = .staging ∧ ¬ Hits fault .removeBackup)
    (meets_rmtree (fun t ht hmiss ↦ ⟨⟨?_, ht.output_eq⟩, ?_, ht.stagingVar_eq, hmiss⟩)
      fun t x ht hhits ↦ .inr ⟨⟨⟨?_, ht.output_eq⟩, ?_⟩, hitsLate_of_hits rfl hhits⟩) fun _ ↦
    .assign fun t ⟨hholds, hstaging, hvar, hmiss⟩ ↦ ⟨hholds, hstaging, hvar, rfl, hmiss⟩
  · simp [ht.staging_eq]
  · simp [ht.bundle_eq]
  · simp [ht.stagingVar_eq]
  · simp [ht.bundle_eq]

/-- A bundle that is there is not restored. -/
theorem meets_restoreLeft {bundle : Directory} {output : Option Entry} :
    Meets none (·.Holds bundle output) restoreLeft (fun _ t ↦ t.Holds bundle output)
      (fun _ ↦ False) := by
  refine .bind (Q := fun _ t ↦ t.Holds bundle output) (.read fun t ht ↦ ht) fun backup ↦ ?_
  cases backup with
  | none => exact .pure fun t ht ↦ ht
  | some place =>
    refine .bind (Q := fun _ t ↦ t.Holds bundle output)
      (meets_pathExists (fun t ht _ ↦ ht) fun t _ ↦ not_hits_none) fun present ↦ ?_
    cases present with
    | false => exact .pure fun t ht ↦ ht
    | true =>
      refine .bind (Q := fun present t ↦ t.Holds bundle output ∧ present = true)
        (meets_pathExists (fun t ht _ ↦ ⟨ht, by rw [ht.1]; rfl⟩) fun t _ ↦ not_hits_none)
        fun present ↦ .of_forall ?_
      rintro t ⟨ht, rfl⟩
      exact .pure fun s hs ↦ hs ▸ ht

/-- Once a step has raised, the clean-up leaves bundle and package alone. -/
theorem meets_transactionCleanup_none (bundle : Directory) (output : Option Entry) :
    Meets none (Undone bundle output) transactionCleanup (fun _ t ↦ t.Holds bundle output)
      (fun _ ↦ False) := by
  refine .bind (Q := fun place t ↦ t.Holds bundle output ∧ place ≠ .bundle)
    (.read fun t ht ↦ ⟨ht.1, ht.2⟩) fun place ↦
    .bind (Q := fun _ t ↦ t.Holds bundle output ∧ place ≠ .bundle)
      (meets_pathExists (fun t ht _ ↦ ht) fun t _ ↦ not_hits_none) fun present ↦ ?_
  cases present with
  | false => exact meets_restoreLeft.mono (fun t ht ↦ ht.1) (fun _ _ h ↦ h) fun _ h ↦ h
  | true =>
    refine .bind (Q := fun _ t ↦ t.Holds bundle output)
      (meets_rmtree (fun t ⟨ht, hplace⟩ _ ↦ ⟨?_, ht.2⟩) fun t x _ ↦ not_hits_none) fun _ ↦
      meets_restoreLeft
    simp [ht.1, hplace.symm]

/-- After a publication the clean-up has nothing to do. -/
theorem meets_transactionCleanup (fault : Option LifecycleFault) (bundle : Directory)
    (output : Option Entry) :
    Meets fault (fun t ↦ t.Holds bundle output ∧ t.files.dirs .staging = none ∧
        t.staging = .staging ∧ t.backup = none) transactionCleanup
      (fun _ t ↦ t.Holds bundle output ∧ ¬ Hits fault .stagingExists)
      (fun t ↦ t.Holds bundle output ∧ HitsLate fault) := by
  refine .of_forall fun t ⟨hholds, hstaging, hvar, hbackup⟩ ↦ ?_
  refine .bind (Q := fun place s ↦ s = t ∧ place = .staging)
    (.read fun s hs ↦ ⟨hs, by rw [hs, hvar]⟩) fun place ↦
    .bind (Q := fun present s ↦ s = t ∧ present = false ∧ ¬ Hits fault .stagingExists)
      (meets_pathExists ?_ ?_) fun present ↦ .of_forall ?_
  · rintro s ⟨rfl, rfl⟩ hmiss
    exact ⟨rfl, by rw [hstaging]; rfl, hmiss⟩
  · rintro s ⟨rfl, -⟩ hhits
    exact ⟨hholds, hitsLate_of_hits rfl hhits⟩
  · rintro s ⟨rfl, rfl, hmiss⟩
    refine .bind (Q := fun backup s' ↦ s' = s ∧ backup = none)
      (.read fun s' hs' ↦ ⟨hs', by rw [hs', hbackup]⟩) fun backup ↦ .of_forall ?_
    rintro s' ⟨rfl, rfl⟩
    exact .pure fun s hs ↦ hs ▸ ⟨hholds, hmiss⟩

theorem transactionEdit_ok {α : Type} {env : LifecycleEnv} {edit : BundleEdit α}
    {package : α → Except PythonError (Option Text)} {bundle staged : Directory} {a : α}
    {content : Option Text} (hedit : (publishedEdit env edit).run bundle = .ok (a, staged))
    (hpackage : package a = .ok content) :
    (transactionEdit env edit package).run bundle = .ok (content, staged) := by
  rw [transactionEdit, StateT.run_bind, hedit]
  change (package a).map (·, staged) = _
  rw [hpackage]
  rfl

theorem transactionEdit_error {α : Type} {env : LifecycleEnv} {edit : BundleEdit α}
    {package : α → Except PythonError (Option Text)} {bundle : Directory}
    (h : (∃ e, (publishedEdit env edit).run bundle = .error e) ∨
      ∃ a staged e, (publishedEdit env edit).run bundle = .ok (a, staged) ∧
        package a = .error e) :
    ∃ e, (transactionEdit env edit package).run bundle = .error e := by
  rcases h with ⟨e, hedit⟩ | ⟨a, staged, e, hedit, hpackage⟩
  · exact ⟨e, by rw [transactionEdit, StateT.run_bind, hedit]; rfl⟩
  · refine ⟨e, ?_⟩
    rw [transactionEdit, StateT.run_bind, hedit]
    change (package a).map (·, staged) = _
    rw [hpackage]
    rfl

/-- The body of a transaction, from a state with the old bundle. -/
theorem meets_transactionBody {α : Type} {env : LifecycleEnv} {mutator : Place → Script α}
    {edit : BundleEdit α} (hmutator : Follows (mutator .staging) edit)
    {prepare commit : Option (α → Script Unit)} {package : α → Except PythonError (Option Text)}
    (hpublishes : Publishes prepare commit package) {fault : Option LifecycleFault}
    {bundle : Directory} {output : Option Entry} {t : Transaction} (hholds : t.Holds bundle output)
    (htemporary : t.files.temporaryOutput ≠ some .symlink) (hvar : t.staging = .staging) :
    Meets fault (· = t) (transactionBody env mutator prepare commit)
      (fun _ s ↦ ∃ staged content,
        (transactionEdit env edit package).run bundle = .ok (content, staged) ∧
          s.Holds staged (publishedOutput content output) ∧ s.files.dirs .staging = none ∧
          s.staging = .staging ∧ s.backup = none ∧ ¬ Hits fault .removeBackup)
      (fun s ↦ Undone bundle output s ∧
          ((∃ e, (transactionEdit env edit package).run bundle = .error e) ∨ HitsEarly fault) ∨
        ∃ staged content,
          (transactionEdit env edit package).run bundle = .ok (content, staged) ∧
            Undone staged (publishedOutput content output) s ∧ HitsLate fault) := by
  refine .bind ((meets_stageUpdate hmutator hholds.1).mono (fun _ h ↦ h) (fun _ _ h ↦ h) ?_)
    fun a ↦ .of_forall ?_
  · rintro s ⟨⟨x, rfl⟩, hreason⟩
    exact .inl ⟨⟨⟨by simp [hholds.1], hholds.2⟩, by simp [hvar]⟩,
      hreason.imp (fun h ↦ transactionEdit_error (.inl h)) id⟩
  rintro s ⟨staged, hedit, rfl⟩
  refine .bind ((hpublishes.prepared fault (t.setDir .staging (some staged)) a htemporary).mono (fun _ h ↦ h) (fun _ _ h ↦ h) ?_)
    fun _ ↦ .of_forall ?_
  · rintro s ⟨⟨x, rfl⟩, hreason⟩
    refine .inl ⟨⟨⟨by simp [hholds.1], hholds.2⟩, by simp [Transaction.setTemporary, hvar]⟩, ?_⟩
    exact hreason.imp
      (fun ⟨e, he⟩ ↦ transactionEdit_error (.inr ⟨a, staged, e, hedit, he⟩)) id
  rintro s ⟨x, content, hpackage, rfl, hcontent⟩
  have hrun := transactionEdit_ok hedit hpackage
  have hstaged : Staged bundle staged content output
      ((t.setDir .staging (some staged)).setTemporary x) :=
    ⟨by simp [hholds.1], by simp, hholds.2, hcontent, hvar⟩
  refine .bind ((meets_publishUpdate hpublishes hpackage).mono (fun s hs ↦ hs ▸ hstaged)
    (fun _ _ h ↦ h) ?_) fun _ ↦ .pure ?_
  · rintro s (⟨hundone, hhits⟩ | ⟨hundone, hhits⟩)
    · exact .inl ⟨hundone, .inr hhits⟩
    · exact .inr ⟨staged, content, hrun, hundone, hhits⟩
  · rintro s ⟨hpublished, hrest⟩
    exact ⟨staged, content, hrun, hpublished, hrest⟩

/-- A transaction on a managed bundle happens as a whole, or not at all; a step that raises
after the publication makes it raise all the same. -/
theorem meets_transactionalUpdate {α : Type} {env : LifecycleEnv} {mutator : Place → Script α}
    {edit : BundleEdit α} (hmutator : Follows (mutator .staging) edit)
    {prepare commit : Option (α → Script Unit)} {package : α → Except PythonError (Option Text)}
    (hpublishes : Publishes prepare commit package) {fault : Option LifecycleFault}
    {bundle : Directory} {output : Option Entry}
    (hmanaged : ensureManagedBundle bundle = .ok ()) :
    Meets fault
      (fun t ↦ t.Holds bundle output ∧ t.files.temporaryOutput ≠ some .symlink)
      (transactionalUpdate env mutator prepare commit)
      (fun _ t ↦ (∃ staged content,
        (transactionEdit env edit package).run bundle = .ok (content, staged) ∧
          t.Holds staged (publishedOutput content output)) ∧ ¬ HitsLate fault)
      (fun t ↦ t.Holds bundle output ∧
          ((∃ e, (transactionEdit env edit package).run bundle = .error e) ∨ HitsEarly fault) ∨
        ∃ staged content,
          (transactionEdit env edit package).run bundle = .ok (content, staged) ∧
            t.Holds staged (publishedOutput content output) ∧ HitsLate fault) := by
  refine .of_forall fun t ⟨hholds, htemporary⟩ ↦ ?_
  have hstart : ∀ s, s = t → Hits fault .checkBundle ∨ Hits fault .makeStaging →
      s.Holds bundle output ∧
        ((∃ e, (transactionEdit env edit package).run bundle = .error e) ∨ HitsEarly fault) := by
    rintro s rfl (hhits | hhits)
    · exact ⟨hholds, .inr (hitsEarly_of_hits rfl hhits)⟩
    · exact ⟨hholds, .inr (hitsEarly_of_hits rfl hhits)⟩
  have hmade : ({ t.setDir .staging (some ∅) with staging := .staging } : Transaction).Holds
      bundle output := ⟨by simp [hholds.1], hholds.2⟩
  refine .bind (Q := fun _ s ↦ s = t)
    (meets_readDir (fun s a hs _ _ ↦ hs) (fun s e hs _ hread ↦ ?_)
      fun s hs hhits ↦ .inl (hstart s hs (.inl hhits))) fun _ ↦
    .bind (Q := fun _ s ↦ s = { t.setDir .staging (some ∅) with staging := .staging })
      (meets_atomically (fun s hs _ ↦ by rw [hs])
        fun s hs hhits ↦ .inl (hstart s hs (.inr hhits))) fun _ ↦
    .ensuring (meets_transactionBody hmutator hpublishes hmade htemporary rfl)
      (fun a ↦ .of_forall ?_) (.of_forall ?_)
  · rw [hs, hholds.1] at hread
    rw [show ensureManagedBundle bundle = .error e from hread] at hmanaged
    cases hmanaged
  · rintro s ⟨staged, content, hrun, hpublished, hstaging, hvar, hnone, hmiss⟩
    refine (meets_transactionCleanup fault staged (publishedOutput content output)).mono ?_ ?_ ?_
    · rintro s' rfl
      exact ⟨hpublished, hstaging, hvar, hnone⟩
    · rintro - s' ⟨hpublished', hmiss'⟩
      exact ⟨⟨staged, content, hrun, hpublished'⟩, not_hitsLate hmiss hmiss'⟩
    · rintro s' ⟨hpublished', hlate⟩
      exact .inr ⟨staged, content, hrun, hpublished', hlate⟩
  · rintro s (⟨hundone, hreason⟩ | ⟨staged, content, hrun, hundone, hlate⟩)
    · exact (meets_transactionCleanup_none bundle output).mono (fun s' hs' ↦ hs' ▸ hundone)
        (fun _ s' hs' ↦ .inl ⟨hs', hreason⟩) fun _ h ↦ h.elim
    · exact (meets_transactionCleanup_none _ _).mono (fun s' hs' ↦ hs' ▸ hundone)
        (fun _ s' hs' ↦ .inr ⟨staged, content, hrun, hs', hlate⟩) fun _ h ↦ h.elim

end EdgeMonitor.Scripts
