import EdgeMonitor.Base.Replacing
import EdgeMonitor.Scripts.Revocation

/-!
# Two commands on one bundle

Library `Scripts`. `transactional_update` takes no lock: it copies the bundle, edits the copy,
renames the bundle to a backup, and renames the copy to the bundle. Two commands whose copies are
both taken before either is published leave only what the last one has done.
-/

namespace EdgeMonitor.Scripts
open EdgeMonitor.Base

/-- One of two commands. -/
inductive Client where
  | first
  | second
  deriving DecidableEq

def Client.other : Client → Client
  | first => second
  | second => first

/-- A command with what lies at its package output. -/
structure Invocation where
  command : CredentialCommand
  output : Option Entry

/-- The device of a command. -/
def CredentialCommand.deviceId : CredentialCommand → Text
  | add deviceId _ _ => deviceId
  | rotate deviceId _ _ => deviceId
  | revoke deviceId => deviceId

/-- `ensure_managed_bundle` as a test. -/
def isManagedBundle (bundle : Directory) : Bool :=
  match ensureManagedBundle bundle with
  | .ok _ => true
  | .error _ => false

/-- What the steps of a command do: `ensure_managed_bundle` before the copy, the mutator with all
that follows until the backup is made. -/
def bundleEditors (env : LifecycleEnv) (invocations : Client → Invocation) :
    Editors Client Directory (Option Text) where
  accepts := isManagedBundle
  edit client copy :=
    (((invocations client).command.plan env (invocations client).output).run copy).toOption

/-- Two commands on one bundle, `manage_mqtt_device.py:225–261`. A command copies the bundle
(`.copied`), mutates the copy (`.edited`), renames the bundle to its backup (`.taken`), renames the
copy to the bundle (`.placed`), and commits and deletes the backup (`.returned`); a rename whose
source is missing or whose target is there raises. -/
def concurrentUpdates (env : LifecycleEnv) (invocations : Client → Invocation) :
    Machine (Replacement Client Directory (Option Text) × Placements Client) Client Unit :=
  (bundleEditors env invocations).history

/-- The bundle that a command publishes when it runs alone and returns. -/
def Invocation.publish (env : LifecycleEnv) (invocation : Invocation) (bundle : Directory) :
    Option Directory :=
  let result := invocation.command.run env bundle invocation.output none
  if result.1 then result.2.dirs .bundle else none

section Publish
variable {env : LifecycleEnv} {invocation : Invocation} {bundle : ManagedBundle}

/-- Without a fault a command returns exactly if its plan succeeds. -/
theorem publish_eq_some_iff {staged : Directory} :
    invocation.publish env bundle.val = some staged ↔
      ∃ content, (invocation.command.plan env invocation.output).run bundle.val =
        .ok (content, staged) := by
  have hcarries := invocation.command.carries env bundle invocation.output none _ rfl
  rw [Invocation.publish, CredentialCommand.run]
  cases hrun : invocation.command.script env ⟨.start bundle.val invocation.output, none⟩ with
  | ok a x =>
    rw [hrun] at hcarries
    obtain ⟨-, ⟨staged', content, hplan, hbundle, -⟩, -⟩ := hcarries
    change x.state.files.dirs .bundle = some staged ↔ _
    rw [hbundle, hplan]
    simp
  | error e x =>
    rw [hrun] at hcarries
    refine iff_of_false (by simp) ?_
    rintro ⟨content, hplan⟩
    rcases hcarries with ⟨-, ⟨-, ⟨e', herror⟩ | ⟨_, hfault, -⟩⟩ | ⟨_, _, -, -, _, hfault, -⟩⟩
    · rw [hplan] at herror
      cases herror
    · cases hfault
    · cases hfault

end Publish

theorem isManagedBundle_iff {bundle : Directory} :
    isManagedBundle bundle = true ↔ ensureManagedBundle bundle = .ok () := by
  rw [isManagedBundle]
  cases ensureManagedBundle bundle with
  | ok a => simp
  | error e => simp

/-- The result of a plan. -/
theorem edit_eq_some_iff {env : LifecycleEnv} {invocations : Client → Invocation} {client : Client}
    {copy staged : Directory} {content : Option Text} :
    (bundleEditors env invocations).edit client copy = some (content, staged) ↔
      ((invocations client).command.plan env (invocations client).output).run copy =
        .ok (content, staged) := by
  change Except.toOption _ = _ ↔ _
  cases ((invocations client).command.plan env (invocations client).output).run copy with
  | ok published => simp [Except.toOption]
  | error e => simp [Except.toOption]

/-- The five steps of a command that runs alone do what the command does. -/
theorem run_alone_eq_publish (env : LifecycleEnv) (invocations : Client → Invocation)
    (client : Client) (bundle : ManagedBundle) :
    let s := (bundleEditors env invocations).machine.run (.start bundle.val)
      (List.replicate 5 client);
    s.value = some (((invocations client).publish env bundle.val).getD bundle.val) ∧
      ((s.attempts client).HasPlaced ↔ ((invocations client).publish env bundle.val).isSome) := by
  intro s
  have halone := (bundleEditors env invocations).run_alone client
    (isManagedBundle_iff.mpr bundle.property)
  cases hedit : (bundleEditors env invocations).edit client bundle.val with
  | none =>
    rw [hedit] at halone
    obtain ⟨hvalue, hattempt⟩ := Prod.mk.inj halone
    have hpublish : (invocations client).publish env bundle.val = none := by
      refine Option.eq_none_iff_forall_ne_some.mpr fun staged hstaged ↦ ?_
      obtain ⟨content, hplan⟩ := publish_eq_some_iff.mp hstaged
      rw [edit_eq_some_iff.mpr hplan] at hedit
      cases hedit
    rw [hpublish]
    exact ⟨hvalue, iff_of_false (by rw [hattempt]; simp [Attempt.HasPlaced]) (by simp)⟩
  | some published =>
    obtain ⟨content, staged⟩ := published
    rw [hedit] at halone
    obtain ⟨hvalue, hattempt⟩ := Prod.mk.inj halone
    rw [publish_eq_some_iff.mpr ⟨content, edit_eq_some_iff.mp hedit⟩]
    exact ⟨hvalue, iff_of_true (by rw [hattempt]; simp) rfl⟩

/-- Two commands one after the other. -/
def serialBundle (env : LifecycleEnv) (invocations : Client → Invocation) (client : Client)
    (bundle : Directory) : Option Directory :=
  ((invocations client).publish env bundle).bind ((invocations client.other).publish env)

/-- The files of devices. -/
def IsDeviceFile (path : Path) : Prop :=
  ∃ name, path = [Text.ofString "clients", name] ∨ path = [Text.ofString "devices", name]

/-- Two bundles with the same identities, hashes and device files. -/
def SameDevices (bundle bundle' : Directory) : Prop :=
  (∀ identities, readIdentities bundle = .ok identities ↔ readIdentities bundle' = .ok identities) ∧
  ∀ path, IsDeviceFile path → bundle.lookup path = bundle'.lookup path

/-- Two commands that have published did so one after the other. -/
theorem placed_eq_pair {env : LifecycleEnv} {invocations : Client → Invocation}
    {value : Directory} {s : Replacement Client Directory (Option Text)} {h : Placements Client}
    {versions : List Directory} (hv : (bundleEditors env invocations).Versioned value s h versions)
    (hplaced : ∀ client, (s.attempts client).HasPlaced) :
    ∃ client i j, h.placed = [(client, i), (client.other, j)] := by
  have hmem (client : Client) : client ∈ h.placed.map (·.1) := (hv.done client).mpr (hplaced client)
  have honce := hv.once
  match hlist : h.placed with
  | [] => simpa [hlist] using hmem .first
  | [(client, i)] =>
    have hfirst := hmem .first
    have hsecond := hmem .second
    simp only [hlist, List.map_cons, List.map_nil, List.mem_singleton] at hfirst hsecond
    cases hfirst.trans hsecond.symm
  | [(client, i), (client', j)] =>
    have hne : client ≠ client' := by simpa [hlist] using honce
    have hother : client' = client.other := by
      cases client <;> cases client' <;> first | rfl | exact absurd rfl hne
    exact ⟨client, i, j, by rw [hother]⟩
  | (a, _) :: (b, _) :: (c, _) :: _ =>
    rw [hlist] at honce
    cases a <;> cases b <;> cases c <;> simp at honce

/-- In every interleaving of two commands that return, one of them had published its bundle before
the other copied it, and the result is that of running them in this order; or each had copied the
original bundle, and the result is that of the last one alone. -/
theorem concurrent_updates (env : LifecycleEnv) (invocations : Client → Invocation)
    (bundle : ManagedBundle) (turns : List Client)
    (hreturned : ∀ client, ∃ content, ((concurrentUpdates env invocations).run
      (.start bundle.val, .start) turns).1.attempts client = .returned content) :
    let x := (concurrentUpdates env invocations).run (.start bundle.val, .start) turns;
    ∃ client final, x.1.value = some final ∧
      ((invocations client).publish env bundle.val).isSome ∧
      (x.2.placed = [(client, 0), (client.other, 1)] ∧
          serialBundle env invocations client bundle.val = some final ∨
        x.2.placed = [(client, 0), (client.other, 0)] ∧
          (invocations client.other).publish env bundle.val = some final) := by
  intro x
  obtain ⟨versions, hv⟩ : ∃ versions, (bundleEditors env invocations).Versioned bundle.val x.1 x.2
      versions := Editors.versioned_run bundle.val turns
  have hplaced (client : Client) : (x.1.attempts client).HasPlaced := .inr (hreturned client)
  have hvalue : x.1.value = versions.getLast? := by
    rcases hv.current with ⟨hcurrent, -⟩ | ⟨-, client, ⟨_, _, _, htaken⟩, -⟩
    · exact hcurrent
    · obtain ⟨content, hcontent⟩ := hreturned client
      cases htaken.symm.trans hcontent
  obtain ⟨client, i, j, hpair⟩ := placed_eq_pair hv hplaced
  have htwo := hv.placed
  rw [hpair] at htwo
  obtain ⟨_, middle, _, final, rfl, hfirst, hlast, hsecond⟩ := htwo.two
  have hfirst' := edit_eq_some_iff.mp hfirst
  have hmiddle : (invocations client).publish env bundle.val = some middle :=
    publish_eq_some_iff.mpr ⟨_, hfirst'⟩
  refine ⟨client, final, hvalue.trans hlast, by rw [hmiddle]; rfl, ?_⟩
  rcases hsecond with ⟨rfl, hsecond⟩ | ⟨rfl, hsecond⟩
  · refine .inl ⟨hpair, ?_⟩
    rw [serialBundle, hmiddle]
    have hmanaged := ensureManagedBundle_of_plan hfirst'
    have hlater : (invocations client.other).publish env
        (⟨middle, hmanaged⟩ : ManagedBundle).val = some final :=
      publish_eq_some_iff.mpr ⟨_, edit_eq_some_iff.mp hsecond⟩
    exact hlater
  · exact .inr ⟨hpair, publish_eq_some_iff.mpr ⟨_, edit_eq_some_iff.mp hsecond⟩⟩

/-- The revocations of two devices. -/
def sampleRevocations : Client → Invocation
  | .first => ⟨.revoke (Text.ofString "edge"), none⟩
  | .second => ⟨.revoke (Text.ofString "edge-node"), none⟩

/-- One revocation after the other. -/
def sampleTurns : List Client := List.replicate 5 .first ++ List.replicate 5 .second

/-- Both copy the bundle before the first one publishes. -/
def sampleOverlap : List Client :=
  [.first, .second] ++ List.replicate 4 .first ++ List.replicate 4 .second

/-- What two commands leave in a run from the sample bundle. -/
def sampleUpdates (turns : List Client) :
    Replacement Client Directory (Option Text) × Placements Client :=
  (concurrentUpdates sampleLifecycleEnv sampleRevocations).run
    (.start sampleHyphenBundle.val, .start) turns

theorem returned_sampleTurns (client : Client) :
    (sampleUpdates sampleTurns).1.attempts client = .returned none := by
  cases client <;> decide +kernel

theorem returned_sampleOverlap (client : Client) :
    (sampleUpdates sampleOverlap).1.attempts client = .returned none := by
  cases client <;> decide +kernel

theorem concurrent_updates_sample :
    ∃ client final, (sampleUpdates sampleTurns).1.value = some final ∧
      ((sampleRevocations client).publish sampleLifecycleEnv sampleHyphenBundle.val).isSome ∧
      ((sampleUpdates sampleTurns).2.placed = [(client, 0), (client.other, 1)] ∧
          serialBundle sampleLifecycleEnv sampleRevocations client sampleHyphenBundle.val =
            some final ∨
        (sampleUpdates sampleTurns).2.placed = [(client, 0), (client.other, 0)] ∧
          (sampleRevocations client.other).publish sampleLifecycleEnv sampleHyphenBundle.val =
            some final) :=
  concurrent_updates sampleLifecycleEnv sampleRevocations sampleHyphenBundle sampleTurns
    fun client ↦ ⟨none, returned_sampleTurns client⟩

/-- A revoked device is back when both commands had copied the bundle before. -/
theorem concurrent_updates_lost :
    ¬ ∀ (env : LifecycleEnv) (invocations : Client → Invocation) (bundle : ManagedBundle)
        (turns : List Client),
      (invocations .first).command.deviceId ≠ (invocations .second).command.deviceId →
      (∀ client, ∃ content, ((concurrentUpdates env invocations).run
        (.start bundle.val, .start) turns).1.attempts client = .returned content) →
      ∃ client final serial, ((concurrentUpdates env invocations).run
          (.start bundle.val, .start) turns).1.value = some final ∧
        serialBundle env invocations client bundle.val = some serial ∧ SameDevices final serial := by
  intro h
  obtain ⟨client, final, serial, hfinal, hserial, hsame, -⟩ := h sampleLifecycleEnv
    sampleRevocations sampleHyphenBundle sampleOverlap (by decide)
    fun client ↦ ⟨none, returned_sampleOverlap client⟩
  change (sampleUpdates sampleOverlap).1.value = some final at hfinal
  have hlost : (sampleUpdates sampleOverlap).1.value.map (fun d ↦ (readIdentities d).toOption) =
      some (some ((sampleUsers "edge-node").filter (·.1 ≠ Text.ofString "edge-node"))) := by
    decide +kernel
  have hboth : (serialBundle sampleLifecycleEnv sampleRevocations client sampleHyphenBundle.val).map
      (fun d ↦ (readIdentities d).toOption) =
        some (some [(Text.ofString "collector", Text.ofString "$7$c")]) := by
    cases client <;> decide +kernel
  rw [hfinal, Option.map_some, Option.some.injEq] at hlost
  rw [hserial, Option.map_some, Option.some.injEq] at hboth
  have hread := (hsame [(Text.ofString "collector", Text.ofString "$7$c")]).mpr ?_
  · rw [hread] at hlost
    exact absurd hlost (by decide)
  · cases hidentities : readIdentities serial with
    | ok identities => rw [hidentities] at hboth; exact congrArg _ (Option.some.inj hboth)
    | error e => rw [hidentities] at hboth; cases hboth

end EdgeMonitor.Scripts
