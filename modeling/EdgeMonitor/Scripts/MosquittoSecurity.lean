import EdgeMonitor.Base.Json

/-!
# Broker security

Library `Scripts`. `scripts/build_mosquitto_security.py`: the password file of Mosquitto
and the Dynamic Security configuration built from it and from the policy of the repository.
-/

namespace EdgeMonitor.Scripts
open EdgeMonitor.Base

/-- What the scripts raise. -/
inductive PythonError where
  /-- `ValueError` with its message. -/
  | value (message : Text)
  /-- `OSError`, and the errors of subprocesses. -/
  | os
  /-- `UnicodeDecodeError`. -/
  | unicode
  /-- `json.JSONDecodeError`, and the errors of reading members that are not there. -/
  | lookup
  deriving DecidableEq

/-- A `ValueError` with a fixed message. -/
def PythonError.ofString (message : String) : PythonError := .value (Text.ofString message)

/-! ### The password file -/

/-- `SUPPORTED_PASSWORD_HASH_PREFIXES`. -/
def supportedPasswordHashPrefixes : List Text := ["$7$", "$argon2id$"].map Text.ofString

/-- The decimal digits of a line number. -/
def lineNumberText (n : Nat) : Text := Text.ofString (toString n)

/-- The loop of `load_passwords` from a line on. -/
def loadPasswordLines (lineNumber : Nat) (passwords : List (Text × Text)) :
    List Text → Except PythonError (List (Text × Text))
  | [] => .ok passwords
  | rawLine :: rest =>
    if rawLine = [] then loadPasswordLines (lineNumber + 1) passwords rest
    else
      match Text.partitionAt rawLine 0x3A with
      | (_, none) => .error (.value
          (Text.ofString "invalid hashed password entry on line " ++ lineNumberText lineNumber))
      | (username, some encodedPassword) =>
        if username = [] ∨ !supportedPasswordHashPrefixes.any (·.isPrefixOf encodedPassword) then
          .error (.value
            (Text.ofString "invalid hashed password entry on line " ++ lineNumberText lineNumber))
        else if username ∈ passwords.map (·.1) then
          .error (.value
            (Text.ofString "duplicate MQTT username on line " ++ lineNumberText lineNumber))
        else loadPasswordLines (lineNumber + 1) (passwords ++ [(username, encodedPassword)]) rest

/-- `load_passwords` on the text of the file: usernames with their hashes. -/
def loadPasswords (text : Text) : Except PythonError (List (Text × Text)) :=
  match loadPasswordLines 1 [] text.splitlines with
  | .error e => .error e
  | .ok [] => .error (.ofString "password file contains no clients")
  | .ok passwords => .ok passwords

/-! ### The policy -/

/-- An entry of a role's access control list. -/
structure Acl where
  acltype : Text
  topic : Text
  priority : Int
  allow : Bool

/-- A role of the policy. -/
structure SecurityRole where
  rolename : Text
  acls : List Acl

/-- `default_acl_access`. -/
structure DefaultAclAccess where
  publishClientSend : Bool
  publishClientReceive : Bool
  subscribe : Bool
  unsubscribe : Bool

/-- `docker/mosquitto/security-policy.json`. -/
structure SecurityPolicy where
  defaultAclAccess : DefaultAclAccess
  serviceRoles : List (Text × Text)
  defaultRole : Text
  roles : List SecurityRole

/-- A client of the configuration with the name of its role. -/
structure SecurityClient where
  username : Text
  encodedPassword : Text
  rolename : Text

/-- What `build_configuration` returns. -/
structure DynamicSecurity where
  defaultAclAccess : DefaultAclAccess
  clients : List SecurityClient
  roles : List SecurityRole

/-- The order of Python strings. -/
def textLe (s t : Text) : Bool := !decide (t < s)

/-- `service_roles.get(username, default_role)`. -/
def SecurityPolicy.roleOf (policy : SecurityPolicy) (username : Text) : Text :=
  (policy.serviceRoles.lookup username).getD policy.defaultRole

/-- `build_configuration`. -/
def buildConfiguration (policy : SecurityPolicy) (passwords : List (Text × Text)) :
    Except PythonError DynamicSecurity :=
  let roleNames := policy.roles.map (·.rolename)
  let selectedRoles := policy.defaultRole :: policy.serviceRoles.map (·.2)
  if ¬ roleNames.Nodup then .error (.ofString "security policy contains duplicate roles")
  else if ¬ selectedRoles ⊆ roleNames then
    .error (.ofString "security policy references an undefined role")
  else .ok {
    defaultAclAccess := policy.defaultAclAccess
    clients := (passwords.mergeSort fun p q ↦ textLe p.1 q.1).map fun (username, encodedPassword) ↦
      { username, encodedPassword, rolename := policy.roleOf username }
    roles := policy.roles }

/-! ### The configuration file -/

/-- A JSON object with literal keys. -/
def jsonObject (members : List (String × Json)) : Json :=
  .object (members.map fun (key, value) ↦ (Text.ofString key, value))

/-- A JSON string of a literal. -/
def jsonString (s : String) : Json := .string (Text.ofString s)

def Acl.toJson (acl : Acl) : Json := jsonObject [
  ("acltype", .string acl.acltype),
  ("topic", .string acl.topic),
  ("priority", .integer acl.priority),
  ("allow", .boolean acl.allow)]

def SecurityRole.toJson (role : SecurityRole) : Json := jsonObject [
  ("rolename", .string role.rolename),
  ("acls", .array (role.acls.map Acl.toJson))]

def DefaultAclAccess.toJson (access : DefaultAclAccess) : Json := jsonObject [
  ("publishClientSend", .boolean access.publishClientSend),
  ("publishClientReceive", .boolean access.publishClientReceive),
  ("subscribe", .boolean access.subscribe),
  ("unsubscribe", .boolean access.unsubscribe)]

def SecurityClient.toJson (client : SecurityClient) : Json := jsonObject [
  ("username", .string client.username),
  ("encoded_password", .string client.encodedPassword),
  ("roles", .array [jsonObject [("rolename", .string client.rolename), ("priority", .integer 0)]])]

/-- The dictionary that `build_configuration` returns. -/
def DynamicSecurity.toJson (configuration : DynamicSecurity) : Json := jsonObject [
  ("defaultACLAccess", configuration.defaultAclAccess.toJson),
  ("clients", .array (configuration.clients.map SecurityClient.toJson)),
  ("groups", .array [jsonObject [
    ("groupname", jsonString "unauthenticated"), ("roles", .array [])]]),
  ("roles", .array (configuration.roles.map SecurityRole.toJson)),
  ("anonymousGroup", jsonString "unauthenticated")]

end EdgeMonitor.Scripts
