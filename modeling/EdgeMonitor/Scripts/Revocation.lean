import EdgeMonitor.Scripts.PlannedBundles

/-!
# Revoked devices

Library `Scripts`. What `revoke` leaves of a device and of the others. The files in `clients`
that it removes are found by a pattern, which also matches files of other identities: those of
`edge.node` when `edge` is revoked, and `edge.host.conf` when `edge.host` is.
-/

namespace EdgeMonitor.Scripts
open EdgeMonitor.Base

/-- The files of another identity are as they were. -/
def KeepsFiles (other : Text) (bundle bundle' : Directory) : Prop :=
  (∀ suffix ∈ clientSuffixes,
    bundle'.lookup (clientPath other suffix) = bundle.lookup (clientPath other suffix)) ∧
  bundle'.lookup (deviceMetadataPath other) = bundle.lookup (deviceMetadataPath other)

/-- A device has been removed from a bundle, and nothing else. -/
structure RevokesOnly (env : LifecycleEnv) (deviceId : Text) (bundle bundle' : Directory) :
    Prop where
  identities : ∃ identities, readIdentities bundle = .ok identities ∧
    readIdentities bundle' = .ok (identities.filter (·.1 ≠ deviceId))
  clients : clientFiles deviceId bundle' = []
  metadata : deviceMetadataPath deviceId ∉ bundle'
  security : ∃ (identities : List (Text × Text)) (configuration : DynamicSecurity),
    readIdentities bundle' = .ok identities ∧
    bundle'.lookup securityPath =
      some (.text (env.dumps configuration.toJson ++ Text.ofString "\n")) ∧
    (configuration.clients.map fun client ↦ (client.username, client.encodedPassword)).Perm
      identities
  others : ∀ identities, readIdentities bundle = .ok identities →
    ∀ other ∈ identities.map (·.1), other ≠ deviceId → KeepsFiles other bundle bundle'

/-- The pattern of a device matches no file of another identity. -/
def SparesOthers (deviceId : Text) (bundle : Directory) : Prop :=
  ∀ identities, readIdentities bundle = .ok identities →
    ∀ other ∈ identities.map (·.1), other ≠ deviceId →
      ∀ suffix ∈ clientSuffixes, clientPath other suffix ∉ clientFiles deviceId bundle

instance (deviceId : Text) (bundle : Directory) : Decidable (SparesOthers deviceId bundle) :=
  match h : readIdentities bundle with
  | .error _ => isTrue fun identities hidentities ↦ by
      rw [h] at hidentities
      cases hidentities
  | .ok identities =>
    decidable_of_iff (∀ other ∈ identities.map Prod.fst, other ≠ deviceId →
        ∀ suffix ∈ clientSuffixes, clientPath other suffix ∉ clientFiles deviceId bundle)
      ⟨fun hall identities' hidentities ↦ by
        rw [h] at hidentities
        exact Except.ok.inj hidentities ▸ hall,
      fun hspares ↦ hspares identities h⟩

/-- The configuration of the broker has a client for each user. -/
theorem clients_of_buildConfiguration {policy : SecurityPolicy} {passwords : List (Text × Text)}
    {configuration : DynamicSecurity} (h : buildConfiguration policy passwords = .ok configuration) :
    (configuration.clients.map fun client ↦ (client.username, client.encodedPassword)).Perm
      passwords := by
  simp only [buildConfiguration] at h
  split at h
  next => cases h
  next =>
    split at h
    next => cases h
    next =>
      rw [← Except.ok.inj h, List.map_map]
      exact (List.map_id _).symm ▸ List.mergeSort_perm _ _

section Revoked
variable {env : LifecycleEnv} {deviceId : Text} {bundle bundle' : Directory}
  {identities : List (Text × Text)}

/-- A revoked device has no client files. -/
theorem RevokedBundle.clientFiles_eq_nil
    (h : RevokedBundle env deviceId bundle bundle' identities) :
    clientFiles deviceId bundle' = [] := by
  refine List.eq_nil_iff_forall_not_mem.mpr fun path hpath ↦ ?_
  obtain ⟨hmem, name, rfl, hname⟩ := mem_clientFiles_iff.mp hpath
  have hpasswords : [Text.ofString "clients", name] ≠ passwordsPath :=
    fun h ↦ absurd (List.cons.inj h).1 (by decide)
  have hsecurity : [Text.ofString "clients", name] ≠ securityPath :=
    fun h ↦ absurd (List.cons.inj h).1 (by decide)
  have hlookup := h.lookup _ hpasswords hsecurity
  have hsome : bundle'.lookup [Text.ofString "clients", name] ≠ none :=
    fun hnone ↦ AList.lookup_eq_none.mp hnone hmem
  rw [hlookup] at hsome
  split at hsome
  next => exact hsome rfl
  next hmatch =>
    refine hmatch (.inl (mem_clientFiles_iff.mpr ⟨?_, name, rfl, hname⟩))
    exact not_not.mp fun hnot ↦ hsome (AList.lookup_eq_none.mpr hnot)

/-- The metadata of another identity stays. -/
theorem RevokedBundle.metadata (h : RevokedBundle env deviceId bundle bundle' identities)
    {other : Text} (hother : other ≠ deviceId) :
    bundle'.lookup (deviceMetadataPath other) = bundle.lookup (deviceMetadataPath other) := by
  rw [h.lookup _ (deviceMetadataPath_ne_passwordsPath other)
    (deviceMetadataPath_ne_securityPath other), if_neg]
  rintro (hmem | hmetadata)
  · obtain ⟨-, name, hname, -⟩ := mem_clientFiles_iff.mp hmem
    exact absurd (List.cons.inj hname).1 (by decide)
  · exact hother (deviceMetadataPath_inj hmetadata)

/-- A client file of another identity stays exactly if it is not matched, or was not there. -/
theorem RevokedBundle.lookup_clientPath (h : RevokedBundle env deviceId bundle bundle' identities)
    (other : Text) (suffix : String) :
    bundle'.lookup (clientPath other suffix) =
      if clientPath other suffix ∈ clientFiles deviceId bundle then none
      else bundle.lookup (clientPath other suffix) := by
  rw [h.lookup _ (clientPath_ne_passwordsPath other suffix) (clientPath_ne_securityPath other suffix)]
  simp only [clientPath_ne_deviceMetadataPath, or_false]

/-- A revocation removes nothing else exactly if its pattern spares the others. -/
theorem RevokedBundle.revokesOnly_iff (h : RevokedBundle env deviceId bundle bundle' identities) :
    RevokesOnly env deviceId bundle bundle' ↔ SparesOthers deviceId bundle := by
  constructor
  · intro honly identities' hidentities other hother hne suffix hsuffix hmem
    have hkept := (honly.others identities' hidentities other hother hne).1 suffix hsuffix
    rw [h.lookup_clientPath, if_pos hmem] at hkept
    exact AList.lookup_eq_none.mp hkept.symm (mem_clientFiles_iff.mp hmem).1
  · intro hspares
    obtain ⟨policy, configuration, hconfiguration, hsecurity⟩ := h.security
    exact
      { identities := ⟨identities, h.before, h.after⟩
        clients := h.clientFiles_eq_nil
        metadata := by
          rw [← AList.lookup_eq_none, h.lookup _ (deviceMetadataPath_ne_passwordsPath deviceId)
            (deviceMetadataPath_ne_securityPath deviceId), if_pos (.inr rfl)]
        security := ⟨_, configuration, h.after, hsecurity,
          clients_of_buildConfiguration hconfiguration⟩
        others := by
          intro identities' hidentities other hother hne
          refine ⟨fun suffix hsuffix ↦ ?_, h.metadata hne⟩
          rw [h.lookup_clientPath,
            if_neg (hspares identities' hidentities other hother hne suffix hsuffix)] }

end Revoked

/-- A command that returns has published its plan. -/
theorem plan_of_returned {env : LifecycleEnv} {command : CredentialCommand}
    {bundle : ManagedBundle} {output : Option Entry} {fault : Option LifecycleFault}
    (h : (command.run env bundle.val output fault).1 = true) :
    ∃ staged content, (command.plan env output).run bundle.val = .ok (content, staged) ∧
      (command.run env bundle.val output fault).2.dirs .bundle = some staged ∧
      (command.run env bundle.val output fault).2.output = publishedOutput content output := by
  have hcarries := command.carries env bundle output fault _ rfl
  rw [CredentialCommand.run] at h ⊢
  cases hrun : command.script env ⟨.start bundle.val output, fault⟩ with
  | ok a x =>
    rw [hrun] at hcarries
    obtain ⟨-, ⟨staged, content, hplan, hbundle, houtput⟩, -⟩ := hcarries
    exact ⟨staged, content, hplan, hbundle, houtput⟩
  | error e x =>
    rw [hrun] at h
    cases h

/-- A revocation that returns has removed the device and nothing else, exactly if the pattern
of its client files matches no file of another identity. -/
theorem revocation_only (env : LifecycleEnv) (deviceId : Text) (bundle : ManagedBundle)
    (output : Option Entry) (fault : Option LifecycleFault)
    (hreturned : (CredentialCommand.run env (.revoke deviceId) bundle.val output fault).1 = true) :
    (∃ bundle', (CredentialCommand.run env (.revoke deviceId) bundle.val output fault).2.dirs
        .bundle = some bundle' ∧ RevokesOnly env deviceId bundle.val bundle') ↔
      SparesOthers deviceId bundle.val := by
  obtain ⟨staged, content, hplan, hbundle, -⟩ := plan_of_returned hreturned
  obtain ⟨identities, hrevoked⟩ := revokedBundle_of_plan hplan
  rw [hbundle, ← hrevoked.revokesOnly_iff]
  constructor
  · rintro ⟨bundle', hsame, honly⟩
    obtain rfl := Option.some.inj hsame
    exact honly
  · exact fun honly ↦ ⟨staged, rfl, honly⟩

/-- A bundle with two devices. -/
def sampleDevices (other : String) : Directory :=
  (((sampleBundle.val.insert passwordsPath (.text (Text.ofString
      ("collector:$7$c\nedge:$7$e\n" ++ other ++ ":$7$n\n")))).insert
    (clientPath (Text.ofString "edge") ".password") (.text [])).insert
    (clientPath (Text.ofString other) ".password") (.text []))

/-- A bundle with the devices `edge` and `edge-node`. -/
def sampleHyphenBundle : ManagedBundle := ⟨sampleDevices "edge-node", by decide +kernel⟩

/-- A bundle with the devices `edge` and `edge.node`. -/
def sampleDottedBundle : ManagedBundle := ⟨sampleDevices "edge.node", by decide +kernel⟩

/-- The users of the bundle. -/
def sampleUsers (other : String) : List (Text × Text) :=
  [("collector", "$7$c"), ("edge", "$7$e"), (other, "$7$n")].map fun (user, hash) ↦
    (Text.ofString user, Text.ofString hash)

/-- The device `edge-node` stays when `edge` is revoked. -/
theorem revocation_only_hyphen :
    ∃ bundle', (CredentialCommand.run sampleLifecycleEnv (.revoke (Text.ofString "edge"))
      sampleHyphenBundle.val none none).2.dirs .bundle = some bundle' ∧
      RevokesOnly sampleLifecycleEnv (Text.ofString "edge") sampleHyphenBundle.val
        bundle' := by
  exact (revocation_only sampleLifecycleEnv (Text.ofString "edge") sampleHyphenBundle none none
    (by decide +kernel)).mpr (by decide +kernel)

/-- Those of `edge.node` are removed when `edge` is revoked. -/
theorem revocation_only_fails :
    ¬ ∀ (env : LifecycleEnv) (deviceId : Text) (bundle : ManagedBundle) (output : Option Entry)
        (fault : Option LifecycleFault),
      (CredentialCommand.run env (.revoke deviceId) bundle.val output fault).1 = true →
      ∃ bundle', (CredentialCommand.run env (.revoke deviceId) bundle.val output fault).2.dirs
        .bundle = some bundle' ∧ RevokesOnly env deviceId bundle.val bundle' := by
  intro h
  obtain ⟨bundle', hbundle, honly⟩ := h sampleLifecycleEnv (Text.ofString "edge") sampleDottedBundle
    none none (by decide +kernel)
  have hafter : ((CredentialCommand.run sampleLifecycleEnv (.revoke (Text.ofString "edge"))
      sampleDottedBundle.val none none).2.dirs .bundle).map
        (·.lookup (clientPath (Text.ofString "edge.node") ".password")) = some none := by
    decide +kernel
  have hbefore : sampleDottedBundle.val.lookup
      (clientPath (Text.ofString "edge.node") ".password") = some (.text []) := by decide +kernel
  rw [hbundle, Option.map_some, Option.some.injEq] at hafter
  obtain ⟨identities, hidentities, -⟩ := honly.identities
  have husers : (readIdentities sampleDottedBundle.val).toOption =
      some (sampleUsers "edge.node") := by decide +kernel
  have hsame := hidentities ▸ husers
  obtain rfl := Option.some.inj hsame
  have hkept := (honly.others _ hidentities (Text.ofString "edge.node") (by decide +kernel)
    (by decide)).1 ".password" (by decide)
  rw [hafter, hbefore] at hkept
  cases hkept

end EdgeMonitor.Scripts
