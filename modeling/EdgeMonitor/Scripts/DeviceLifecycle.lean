import EdgeMonitor.Base.Raising
import EdgeMonitor.Backend.Validation
import EdgeMonitor.Scripts.MosquittoSecurity

/-!
# The lifecycle of device credentials

Library `Scripts`. The commands `add`, `rotate` and `revoke` of
`scripts/manage_mqtt_device.py` on a map of files. The directories of a transaction lie
next to the bundle under names that `tempfile.mkdtemp` makes unique; the package output and
its temporary file lie outside of them. Owners and modes of files are left out.
-/

namespace EdgeMonitor.Scripts
open EdgeMonitor.Base
open EdgeMonitor.Backend (validateDeviceIdSyntax reservedDeviceIdentities legacyDeviceIdentity)

/-! ### Files -/

/-- What lies at a path. -/
inductive Entry where
  /-- A file whose bytes are UTF-8. -/
  | text (content : Text)
  | bytes (content : List UInt8)
  | symlink
  deriving DecidableEq

/-- A path below a directory. -/
abbrev Path := List Text

/-- The entries below a directory; subdirectories are the starts of their paths. -/
abbrev Directory := AList fun _ : Path ↦ Entry

/-- A path of literals. -/
def Path.ofStrings (names : List String) : Path := names.map Text.ofString

/-- `Path.read_text`. -/
def Directory.readText (directory : Directory) (path : Path) : Except PythonError Text :=
  match directory.lookup path with
  | some (.text content) => .ok content.universalNewlines
  | some (.bytes _) => .error .unicode
  | _ => .error .os

/-- `Path.is_file` on an entry that is no link. -/
def Directory.isFile (directory : Directory) (path : Path) : Bool :=
  match directory.lookup path with
  | some (.text _) => true
  | some (.bytes _) => true
  | _ => false

/-- `Path.is_symlink`. -/
def Directory.isSymlink (directory : Directory) (path : Path) : Bool :=
  directory.lookup path = some .symlink

def markerPath : Path := .ofStrings [".generated-version"]
def caPath : Path := .ofStrings ["ca", "ca.crt"]
def passwordsPath : Path := .ofStrings ["mosquitto", "passwords"]
def securityPath : Path := .ofStrings ["mosquitto", "dynamic-security.json"]

/-- The files that `ensure_managed_bundle` requires. -/
def requiredFiles : List Path := [caPath, passwordsPath, securityPath]

/-- The files that `apply_runtime_permissions` changes without a condition. -/
def runtimeFiles : List Path := [
  .ofStrings ["server", "server.key"],
  securityPath,
  .ofStrings ["clients", "healthcheck.container.conf"],
  .ofStrings ["clients", "collector.password"]]

/-- `ensure_managed_bundle`. -/
def ensureManagedBundle (bundle : Directory) : Except PythonError Unit := do
  let notManaged :=
    PythonError.ofString "bundle is not a managed Sprint 15 MQTT security bundle"
  if bundle.isSymlink markerPath then .error notManaged
  if (← bundle.readText markerPath).strip ≠ Text.ofString "1" then .error notManaged
  match bundle.keys.find? bundle.isSymlink with
  | some path => .error (.value (Text.ofString "managed bundle contains a symlink: " ++
      (Text.ofString "/").intercalate path))
  | none =>
    match requiredFiles.find? fun path ↦ !bundle.isFile path with
    | some path => .error (.value (Text.ofString "managed bundle is incomplete: " ++
        (Text.ofString "/").intercalate path))
    | none => .ok ()

/-! ### Checks of the arguments -/

/-- `validate_device_id` of `mqtt_device_common.py`. -/
def checkDeviceId (value : Text) : Except PythonError Text :=
  if !validateDeviceIdSyntax value then
    .error (.ofString "device_id must be 1-63 ASCII letters, digits, '.', '_' or '-'")
  else if value ∈ reservedDeviceIdentities then
    .error (.value (Text.ofString "Reserved service identity cannot be a device_id: " ++ value))
  else if value = legacyDeviceIdentity then
    .error (.value
      (Text.ofString "Reserved compatibility identity cannot be provisioned: " ++ value))
  else .ok value

/-- `validate_existing_device_id`. -/
def validateExistingDeviceId (value : Text) : Except PythonError Text :=
  if validateDeviceIdSyntax value ∧ value = legacyDeviceIdentity then .ok value
  else checkDeviceId value

/-- `mqtt_client_id`. -/
def mqttClientId (deviceId : Text) : Except PythonError Text :=
  (checkDeviceId deviceId).map (Text.ofString "iem-" ++ ·)

/-- The parts of `urllib.parse.urlparse`; reading the port raises when it is none. -/
structure ParsedUrl where
  scheme : Text
  hostname : Option Text
  username : Option Text
  password : Option Text
  port : Option (Option Nat)
  path : Text
  query : Text
  fragment : Text

/-- A token of `secrets.token_urlsafe(32)`. -/
def PasswordToken := { t : Text // t.length = 43 ∧
  t.all fun c ↦ Text.isAlphanumeric c || c == 0x2D || c == 0x5F }

/-- What the commands take from outside of the scripts: the standard library, the policy
file and the Mosquitto image. -/
structure LifecycleEnv where
  /-- `json.dumps` with `indent=2, sort_keys=True`. -/
  dumps : Json → Text
  urlparse : Text → Except PythonError ParsedUrl
  /-- `docker/mosquitto/security-policy.json`, parsed. -/
  policy : Except PythonError SecurityPolicy
  /-- The password file after `mosquitto_passwd` has set the password of a user. -/
  passwd : Text → Text → Text → Text
  /-- The broker accepts a password for a hash. -/
  verifies : Text → Text → Bool
  /-- `mosquitto_passwd` stores a hash of the password under the username. -/
  verifies_passwd {content username : Text} {password : PasswordToken}
    {identities : List (Text × Text)} (hname : validateDeviceIdSyntax username = true)
    (hload : loadPasswords (passwd content username password.val).universalNewlines =
      .ok identities) :
    ∃ hash, (username, hash) ∈ identities ∧ verifies hash password.val = true

/-- A string is none or empty. -/
def falsy (s : Option Text) : Bool := s.all (· = [])

/-- `validate_broker_uri` of a string. -/
def validateBrokerUri (env : LifecycleEnv) (value : Text) : Except PythonError Text := do
  let parsed ← env.urlparse value
  if parsed.scheme ≠ Text.ofString "mqtts" ∨ falsy parsed.hostname ∨ !falsy parsed.username
      ∨ !falsy parsed.password then
    .error (.ofString "broker URI must be mqtts://host[:port] without credentials")
  match parsed.port with
  | none => .error (.ofString "broker URI port is invalid")
  | some port =>
    if port.all (fun port ↦ port < 1 ∨ 65535 < port) ∨ parsed.path ≠ [] ∨ parsed.query ≠ []
        ∨ parsed.fragment ≠ [] then
      .error (.ofString "broker URI must contain only host and an explicit valid port")
    return value

/-! ### Packages -/

/-- The dictionary that `write_device_files` returns. -/
structure ProvisioningPackage where
  deviceId : Text
  brokerUri : Text
  username : Text
  password : Text
  clientId : Text
  caCertificate : Text

/-- `PACKAGE_SCHEMA_VERSION`. -/
def packageSchemaVersion : Int := 1

def ProvisioningPackage.toJson (package : ProvisioningPackage) : Json := jsonObject [
  ("schema_version", .integer packageSchemaVersion),
  ("device_id", .string package.deviceId),
  ("mqtt", jsonObject [
    ("broker_uri", .string package.brokerUri),
    ("username", .string package.username),
    ("password", .string package.password),
    ("client_id", .string package.clientId),
    ("ca_certificate", .string package.caCertificate)])]

/-- The member of a dictionary with a literal key. -/
def textMember (members : List (Text × Json)) (key : String) : Option Json :=
  Json.member members (Text.ofString key)

/-- `set(members) == {…}`. -/
def hasKeys (members : List (Text × Json)) (keys : List String) : Bool :=
  (members.map (·.1)).all (· ∈ keys.map Text.ofString)
    && keys.all fun key ↦ Text.ofString key ∈ members.map (·.1)

/-- `"-----BEGIN CERTIFICATE-----" in s`. -/
def containsCertificate (s : Text) : Bool :=
  s.tails.any (Text.ofString "-----BEGIN CERTIFICATE-----").isPrefixOf

/-- The checks of `validate_provisioning_package` on the object under `mqtt`. -/
def validatePackageMqtt (env : LifecycleEnv) (deviceId : Text) (mqtt : List (Text × Json)) :
    Except PythonError Unit := do
  if !hasKeys mqtt ["broker_uri", "username", "password", "client_id", "ca_certificate"] then
    .error (.ofString "provisioning package MQTT object is incomplete")
  match textMember mqtt "broker_uri" with
  | some (.string brokerUri) => let _ ← validateBrokerUri env brokerUri
  | _ => .error (.ofString "broker URI must be a string")
  match textMember mqtt "username", textMember mqtt "client_id" with
  | some (.string username), some (.string clientId) =>
    if username ≠ deviceId ∨ clientId ≠ (← mqttClientId deviceId) then
      .error (.ofString "provisioning package identity fields are inconsistent")
  | _, _ => .error (.ofString "provisioning package identity fields must be strings")
  match textMember mqtt "password" with
  | some (.string (_ :: _)) => pure ()
  | _ => .error (.ofString "provisioning package password is missing")
  match textMember mqtt "ca_certificate" with
  | some (.string ca) =>
    if !containsCertificate ca then
      .error (.ofString "provisioning package CA certificate is missing")
  | _ => .error (.ofString "provisioning package CA certificate is missing")

/-- `validate_provisioning_package`. -/
def validateProvisioningPackage (env : LifecycleEnv) : Json → Except PythonError Unit
  | .object package =>
    match textMember package "schema_version" with
    | some (.integer version) =>
      if !hasKeys package ["schema_version", "device_id", "mqtt"]
          || version != packageSchemaVersion then
        .error (.ofString "provisioning package has an unsupported schema")
      else
        match textMember package "device_id" with
        | some (.string value) => do
          let deviceId ← checkDeviceId value
          match textMember package "mqtt" with
          | some (.object mqtt) => validatePackageMqtt env deviceId mqtt
          | _ => .error (.ofString "provisioning package MQTT object is incomplete")
        | _ => .error
            (.ofString "device_id must be 1-63 ASCII letters, digits, '.', '_' or '-'")
    | _ => .error (.ofString "provisioning package has an unsupported schema")
  | _ => .error (.ofString "provisioning package must be a JSON object")

/-! ### The transaction -/

/-- The bundle, and the paths of `tempfile.mkdtemp` in `transactional_update`. -/
inductive Place where
  | bundle
  | staging
  | backup
  | failed
  deriving DecidableEq

/-- The file map. -/
structure Files where
  dirs : Place → Option Directory
  temporaryOutput : Option Entry
  output : Option Entry

/-- The file map with the variables of `transactional_update`. -/
structure Transaction where
  files : Files
  staging : Place
  backup : Option Place

/-- The steps of a mutator. -/
inductive MutatorStep where
  | readIdentities
  | runPasswd
  | restrictPasswords
  | readCa
  | makeDevices
  | writeMetadata
  | restrictMetadata
  | makeClients
  | writePassword
  | writeConf
  | listClients
  | restrictClient (path : Path)
  | readPasswords
  | writePasswords
  | removeClient (path : Path)
  | metadataExists
  | removeMetadata
  deriving DecidableEq

/-- The steps of `write_package`. -/
inductive PackageStep where
  | makeParent
  | checkSymlink
  | openFile
  | writeFile
  | restrict
  deriving DecidableEq

/-- The steps of `transactional_update` and of its callbacks. -/
inductive LifecycleStep where
  | checkBundle
  | makeStaging
  | clearStaging
  | copyBundle
  | mutate (step : MutatorStep)
  | checkStaging
  | readPolicy
  | readIdentities
  | writeSecurity
  | restrictSecurity
  | runPermissions
  | prepare (step : PackageStep)
  | makeBackup
  | clearBackup
  | moveBundle
  | promote
  | restoreBundle
  | commit
  | makeFailed
  | clearFailed
  | moveFailed
  | restoreBackup
  | removeFailed
  | removeBackup
  | stagingExists
  | removeStaging
  | backupExists
  | bundleExists
  | restoreLeft
  deriving DecidableEq

/-- What a step that raises leaves of the directory or of the file that it works on. -/
structure Damage where
  directory : Option Directory
  file : Option Entry

/-- A part of a command. -/
abbrev Script (α : Type) := Raising Transaction LifecycleStep Damage PythonError α

/-- Put a directory at a place, or remove what is there. -/
def Transaction.setDir (t : Transaction) (place : Place) (directory : Option Directory) :
    Transaction :=
  { t with files := { t.files with dirs := Function.update t.files.dirs place directory } }

/-- Put a temporary package, or remove it. -/
def Transaction.setTemporary (t : Transaction) (entry : Option Entry) : Transaction :=
  { t with files := { t.files with temporaryOutput := entry } }

/-- A step without results that takes place at once or not at all. -/
def atomically (label : LifecycleStep) (f : Transaction → Transaction) : Script Unit :=
  .step label (fun t ↦ .ok ((), f t)) fun _ t ↦ t

/-- A step that reads. -/
def query {α : Type} (label : LifecycleStep) (f : Transaction → Except PythonError α) :
    Script α :=
  .step label (fun t ↦ (f t).map (·, t)) fun _ t ↦ t

/-- A step that reads in a directory. -/
def readDir {α : Type} (label : LifecycleStep) (place : Place)
    (f : Directory → Except PythonError α) : Script α :=
  query label fun t ↦
    match t.files.dirs place with
    | some directory => f directory
    | none => .error .os

/-- A step that writes into a directory. -/
def writeDir (label : LifecycleStep) (place : Place)
    (f : Directory → Except PythonError Directory) : Script Unit :=
  .step label
    (fun t ↦
      match t.files.dirs place with
      | some directory => (f directory).map fun d ↦ ((), t.setDir place (some d))
      | none => .error .os)
    fun damage t ↦ t.setDir place damage.directory

/-- `Path.write_text`. -/
def writeText (label : LifecycleStep) (place : Place) (path : Path) (content : Text) :
    Script Unit :=
  writeDir label place fun directory ↦ .ok (directory.insert path (.text content))

/-- `Path.unlink`. -/
def unlink (label : LifecycleStep) (place : Place) (path : Path) : Script Unit :=
  writeDir label place fun directory ↦ .ok (directory.erase path)

/-- `shutil.rmtree`. -/
def rmtree (label : LifecycleStep) (place : Place) : Script Unit :=
  .step label (fun t ↦ .ok ((), t.setDir place none)) fun damage t ↦
    t.setDir place damage.directory

/-- `shutil.copytree`. -/
def copytree (label : LifecycleStep) (source target : Place) : Script Unit :=
  .step label (fun t ↦ .ok ((), t.setDir target (t.files.dirs source))) fun damage t ↦
    t.setDir target damage.directory

/-- `Path.rename` of a directory. -/
def Transaction.rename (t : Transaction) (source target : Place) : Transaction :=
  (t.setDir target (t.files.dirs source)).setDir source none

/-- A change of modes or owners, and `Path.mkdir` of a subdirectory. -/
def touch (label : LifecycleStep) : Script Unit := atomically label id

/-- `Path.exists`. -/
def pathExists (label : LifecycleStep) (place : Place) : Script Bool :=
  query label fun t ↦ .ok (t.files.dirs place).isSome

/-! ### The configuration of the broker -/

/-- `read_identities`. -/
def readIdentities (bundle : Directory) : Except PythonError (List (Text × Text)) := do
  loadPasswords (← bundle.readText passwordsPath)

/-- `write_dynamic_security`. -/
def writeDynamicSecurity (env : LifecycleEnv) (staging : Place) : Script Unit := do
  let policy ← query .readPolicy fun _ ↦ env.policy
  let identities ← readDir .readIdentities staging readIdentities
  let configuration ← .ofExcept (buildConfiguration policy identities)
  writeText .writeSecurity staging securityPath
    (env.dumps configuration.toJson ++ Text.ofString "\n")
  touch .restrictSecurity

/-- `apply_runtime_permissions`: the shell command fails when a file is missing. -/
def applyRuntimePermissions (staging : Place) : Script Unit :=
  readDir .runPermissions staging fun directory ↦
    if runtimeFiles.all directory.isFile then .ok () else .error .os

/-! ### Mutators -/

/-- `hash_password`. -/
def hashPassword (env : LifecycleEnv) (staging : Place) (username password : Text) :
    Script Unit := do
  writeDir (.mutate .runPasswd) staging fun directory ↦
    match directory.lookup passwordsPath with
    | some (.text content) =>
      .ok (directory.insert passwordsPath (.text (env.passwd content username password)))
    | _ => .error .os
  touch (.mutate .restrictPasswords)

/-- `device_metadata_path`. -/
def deviceMetadataPath (deviceId : Text) : Path :=
  [Text.ofString "devices", deviceId ++ Text.ofString ".json"]

/-- A file of a device in `clients`. -/
def clientPath (deviceId : Text) (suffix : String) : Path :=
  [Text.ofString "clients", deviceId ++ Text.ofString suffix]

/-- `(bundle / "clients").glob(f"{device_id}.*")`. -/
def clientFiles (deviceId : Text) (bundle : Directory) : List Path :=
  bundle.keys.filter fun
    | [directory, name] =>
      directory = Text.ofString "clients" ∧ (deviceId ++ Text.ofString ".").isPrefixOf name
    | _ => false

/-- The metadata of a device. -/
def deviceMetadata (deviceId brokerUri clientId : Text) : Json := jsonObject [
  ("schema_version", .integer packageSchemaVersion),
  ("device_id", .string deviceId),
  ("broker_uri", .string brokerUri),
  ("client_id", .string clientId)]

/-- The client configuration of a device. -/
def containerConf (deviceId clientId password : Text) : Text :=
  Text.ofString "--host mqtt\n--port 8883\n--id " ++ clientId ++
  Text.ofString "-container\n--cafile /run/mqtt-security/ca/ca.crt\n--tls-version tlsv1.2\n" ++
  Text.ofString "--username " ++ deviceId ++ Text.ofString "\n--pw " ++ password ++
  Text.ofString "\n"

/-- `write_device_files`. -/
def writeDeviceFiles (env : LifecycleEnv) (staging : Place)
    (deviceId password brokerUri : Text) : Script ProvisioningPackage := do
  let clientId ← .ofExcept (mqttClientId deviceId)
  let ca ← readDir (.mutate .readCa) staging (·.readText caPath)
  touch (.mutate .makeDevices)
  writeText (.mutate .writeMetadata) staging (deviceMetadataPath deviceId)
    (env.dumps (deviceMetadata deviceId brokerUri clientId) ++ Text.ofString "\n")
  touch (.mutate .restrictMetadata)
  touch (.mutate .makeClients)
  writeText (.mutate .writePassword) staging (clientPath deviceId ".password")
    (password ++ Text.ofString "\n")
  writeText (.mutate .writeConf) staging (clientPath deviceId ".container.conf")
    (containerConf deviceId clientId password)
  let paths ← readDir (.mutate .listClients) staging fun directory ↦
    .ok (clientFiles deviceId directory)
  paths.forM fun path ↦ touch (.mutate (.restrictClient path))
  return { deviceId, brokerUri, username := deviceId, password, clientId, caCertificate := ca }

/-- The `mutate` of `add_or_rotate`. -/
def credentialMutator (env : LifecycleEnv) (rotate : Bool) (deviceId password brokerUri : Text)
    (staging : Place) : Script ProvisioningPackage := do
  let identities ← readDir (.mutate .readIdentities) staging readIdentities
  let present := decide (deviceId ∈ identities.map (·.1))
  if rotate != present then
    .ofExcept (.error (.value (
      Text.ofString (if rotate then "cannot rotate device " else "cannot add device ")
      ++ deviceId ++
      Text.ofString (if rotate then ": identity is missing" else ": identity already exists"))))
  hashPassword env staging deviceId password
  writeDeviceFiles env staging deviceId password brokerUri

/-- `remove_identity`. -/
def removeIdentity (content deviceId : Text) : Text :=
  (Text.ofString "\n").intercalate
    (content.splitlines.filter fun line ↦ (Text.partitionAt line 0x3A).1 ≠ deviceId) ++
  Text.ofString "\n"

/-- The `mutate` of `revoke`. -/
def revokeMutator (deviceId : Text) (staging : Place) : Script Unit := do
  let identities ← readDir (.mutate .readIdentities) staging readIdentities
  if deviceId ∉ identities.map (·.1) then
    .ofExcept (.error (.value (
      Text.ofString "cannot revoke device " ++ deviceId ++
      Text.ofString ": identity is missing")))
  let content ← readDir (.mutate .readPasswords) staging (·.readText passwordsPath)
  writeText (.mutate .writePasswords) staging passwordsPath (removeIdentity content deviceId)
  let paths ← readDir (.mutate .listClients) staging fun directory ↦
    .ok (clientFiles deviceId directory)
  paths.forM fun path ↦ unlink (.mutate (.removeClient path)) staging path
  let present ← readDir (.mutate .metadataExists) staging fun directory ↦
    .ok (decide (deviceMetadataPath deviceId ∈ directory))
  if present then
    unlink (.mutate .removeMetadata) staging (deviceMetadataPath deviceId)

/-! ### Transactions -/

/-- `write_package` into the temporary file. -/
def writePackage (env : LifecycleEnv) (package : ProvisioningPackage) : Script Unit := do
  .ofExcept (validateProvisioningPackage env package.toJson)
  touch (.prepare .makeParent)
  query (.prepare .checkSymlink) fun t ↦
    if t.files.temporaryOutput = some .symlink then
      .error (.ofString "refusing provisioning package symlink")
    else .ok ()
  .step (.prepare .openFile) (fun t ↦ .ok ((), t.setTemporary (some (.text []))))
    fun damage t ↦ t.setTemporary damage.file
  let content := env.dumps package.toJson ++ Text.ofString "\n"
  .step (.prepare .writeFile) (fun t ↦ .ok ((), t.setTemporary (some (.text content))))
    fun damage t ↦ t.setTemporary damage.file
  touch (.prepare .restrict)

/-- `os.replace(temporary_output, output)`. -/
def replaceOutput : Script Unit :=
  atomically .commit fun t ↦
    { t with files := { t.files with
        output := t.files.temporaryOutput
        temporaryOutput := none } }

/-- The handler of a failed promotion. -/
def undoPromotion : Script Unit := do
  atomically .restoreBundle (·.rename .backup .bundle)
  .assign fun t ↦ { t with backup := none }

/-- The handler of a failed commit. -/
def undoCommit : Script Unit := do
  atomically .makeFailed fun t ↦ { t.setDir .failed (some ∅) with staging := .failed }
  atomically .clearFailed (·.setDir .failed none)
  atomically .moveFailed (·.rename .bundle .failed)
  atomically .restoreBackup (·.rename .backup .bundle)
  .assign fun t ↦ { t with backup := none }
  rmtree .removeFailed .failed

/-- A callback that may be missing. -/
def optionally {α : Type} (callback : Option (α → Script Unit)) (result : α) : Script Unit :=
  match callback with
  | some callback => callback result
  | none => pure ()

/-- `manage_mqtt_device.py:230–235`: the mutated bundle in the staging directory. -/
def stageUpdate {α : Type} (env : LifecycleEnv) (mutator : Place → Script α) : Script α := do
  rmtree .clearStaging .staging
  copytree .copyBundle .bundle .staging
  let result ← mutator .staging
  readDir .checkStaging .staging ensureManagedBundle
  writeDynamicSecurity env .staging
  applyRuntimePermissions .staging
  return result

/-- `manage_mqtt_device.py:238–260`: the staged bundle takes the place of the old one. -/
def publishUpdate {α : Type} (commit : Option (α → Script Unit)) (result : α) : Script Unit := do
  atomically .makeBackup fun t ↦ { t.setDir .backup (some ∅) with backup := some .backup }
  atomically .clearBackup (·.setDir .backup none)
  atomically .moveBundle (·.rename .bundle .backup)
  .onError (atomically .promote (·.rename .staging .bundle)) undoPromotion
  .onError (optionally commit result) undoCommit
  rmtree .removeBackup .backup
  .assign fun t ↦ { t with backup := none }

/-- The body of the `try` statement of `transactional_update`. -/
def transactionBody {α : Type} (env : LifecycleEnv) (mutator : Place → Script α)
    (prepare commit : Option (α → Script Unit)) : Script α := do
  let result ← stageUpdate env mutator
  optionally prepare result
  publishUpdate commit result
  return result

/-- The last lines of the `finally` of `transactional_update`: a backup without a bundle. -/
def restoreLeft : Script Unit := do
  match ← .read (·.backup) with
  | none => return
  | some place =>
    if ← pathExists .backupExists place then
      if !(← pathExists .bundleExists .bundle) then
        atomically .restoreLeft (·.rename place .bundle)

/-- The `finally` of `transactional_update`. -/
def transactionCleanup : Script Unit := do
  let place ← .read (·.staging)
  if ← pathExists .stagingExists place then rmtree .removeStaging place
  restoreLeft

/-- `transactional_update`. -/
def transactionalUpdate {α : Type} (env : LifecycleEnv) (mutator : Place → Script α)
    (prepare commit : Option (α → Script Unit)) : Script α := do
  readDir .checkBundle .bundle ensureManagedBundle
  atomically .makeStaging fun t ↦ { t.setDir .staging (some ∅) with staging := .staging }
  .ensuring (transactionBody env mutator prepare commit) transactionCleanup

/-! ### Commands -/

/-- `add_or_rotate`, with the password that it draws. -/
def addOrRotate (env : LifecycleEnv) (rotate : Bool) (deviceId brokerUri : Text)
    (password : PasswordToken) : Script Unit := do
  let deviceId ← .ofExcept (checkDeviceId deviceId)
  let brokerUri ← .ofExcept (validateBrokerUri env brokerUri)
  if (← .read (·.files.output)) = some .symlink then
    .ofExcept (.error (.ofString "refusing provisioning package symlink"))
  .assign (·.setTemporary (some (.text [])))
  .ensuring
    (do
      let _ ← transactionalUpdate env
        (credentialMutator env rotate deviceId password.val brokerUri)
        (some (writePackage env)) (some fun _ ↦ replaceOutput))
    (.assign (·.setTemporary none))

/-- `revoke`. -/
def revoke (env : LifecycleEnv) (deviceId : Text) : Script Unit := do
  let deviceId ← .ofExcept (validateExistingDeviceId deviceId)
  transactionalUpdate env (revokeMutator deviceId) none none

/-- A mutating command. -/
inductive CredentialCommand where
  | add (deviceId brokerUri : Text) (password : PasswordToken)
  | rotate (deviceId brokerUri : Text) (password : PasswordToken)
  | revoke (deviceId : Text)

def CredentialCommand.script (env : LifecycleEnv) : CredentialCommand → Script Unit
  | add deviceId brokerUri password => addOrRotate env false deviceId brokerUri password
  | rotate deviceId brokerUri password => addOrRotate env true deviceId brokerUri password
  | revoke deviceId => Scripts.revoke env deviceId

/-- A bundle and a package output before a command. -/
def Transaction.start (bundle : Directory) (output : Option Entry) : Transaction where
  files := ⟨fun place ↦ if place = .bundle then some bundle else none, none, output⟩
  staging := .staging
  backup := none

end EdgeMonitor.Scripts
