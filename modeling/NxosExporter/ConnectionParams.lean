import Mathlib.Data.List.TakeDrop
import NxosExporter.Heartbeat

/-!
# The connection parameters

`NXOSConnectionConfigParams::parseConfig` checks the `connection-params` that Kea hands to the library, one
element after the other, and raises `ConfigError` for the first that is wrong. The management client and
the heartbeat service each parse them when the library is loaded.
-/

namespace NxosExporter

open Effectful

/-- `isc::data::Element`. -/
inductive Element where
  | null
  | boolean (value : Bool)
  | integer (value : Int64)
  | bigint (value : Int)
  | real (value : ℚ)
  | string (value : String)
  | list (items : List Element)
  | map (members : List (String × Element))

namespace Element

inductive Kind where
  | null
  | boolean
  | integer
  | bigint
  | real
  | string
  | list
  | map
  deriving DecidableEq, Repr

def getType : Element → Kind
  | null => .null
  | boolean _ => .boolean
  | integer _ => .integer
  | bigint _ => .bigint
  | real _ => .real
  | string _ => .string
  | list _ => .list
  | map _ => .map

def intValue : Element → Outcome Exn Int64
  | integer value => .ok value
  | _ => .throw (.isc .typeError "intValue() called on non-integer Element")

/-- `find` of a name that is no path. -/
def find (element : Element) (name : String) : Outcome Exn (Option Element) :=
  match element with
  | map members => .ok (members.lookup name)
  | _ => .throw (.isc .typeError "find(string) called on a non-map Element")

end Element

/-! `isc::http::BasicHttpAuth` refuses a user with a colon, at which the HTTP client splits the secret. -/

structure BasicHttpAuth where
  user : String
  password : String
  noColon : ':' ∉ user.toList

def BasicHttpAuth.new (user password : String) : Outcome Exn BasicHttpAuth :=
  if hcolon : ':' ∈ user.toList then
    .throw (.isc .badValue ("user '" ++ user ++ "' must not contain a ':'"))
  else
    .ok ⟨user, password, hcolon⟩

def BasicHttpAuth.getSecret (auth : BasicHttpAuth) : String := auth.user ++ ":" ++ auth.password

theorem splitSecret_getSecret (auth : BasicHttpAuth) :
    splitSecret auth.getSecret = some (auth.user, auth.password) := by
  have hkept : ∀ c ∈ auth.user.toList, decide (c ≠ ':') = true := by
    intro c hmem
    have hne : c ≠ ':' := by
      rintro rfl
      exact auth.noColon hmem
    simpa using hne
  have htext : auth.getSecret.toList = auth.user.toList ++ ':' :: auth.password.toList := by
    simp [BasicHttpAuth.getSecret]
  rw [splitSecret, htext, List.span_eq_takeWhile_dropWhile, List.takeWhile_append_of_pos hkept,
    List.dropWhile_append_of_pos hkept]
  simp

structure NXOSConnectionInfo where
  url : Url
  deriving DecidableEq, Repr

structure NXOSConnectionAuth where
  auth : BasicHttpAuth

structure NXOSConnectionConfigParams where
  connInfo : NXOSConnectionInfo
  auth : NXOSConnectionAuth
  certFile : Option String
  keyFile : Option String
  heartbeatIntervalSecs : UInt64

/-! ### The checks -/

def throwConfigError {α : Type} (what : String) : Outcome Exn α := .throw (.isc .configError what)

/-- `FIELD_ERROR_STR`. -/
def fieldErrorStr (fieldName what : String) : String :=
  "Field \"" ++ fieldName ++ "\" in \"connection-params\" " ++ what

/-- What is asked of the host, the login, the password and the certificate. -/
def stringField (fieldName : String) : Option Element → Outcome Exn String
  | none => throwConfigError (fieldErrorStr fieldName "must not be null")
  | some (.string value) => .ok value
  | some _ => throwConfigError (fieldErrorStr fieldName "must be a string")

section ParseConfig

variable (parseUrl : String → Except String Url)

/-- `Url` is parsed by the library; an invalid one keeps its error message. -/
def parseHost (mgmtConnParams : Element) : Outcome Exn Url := do
  let hostElement ← mgmtConnParams.find "host"
  let hostStr ← stringField "host" hostElement
  match parseUrl hostStr with
  | .ok url => pure url
  | .error message => throwConfigError (fieldErrorStr "host" "must be a valid URL" ++ ": " ++ message)

/-- The default of 5 seconds is overwritten by the value of the element, whether it is there or not. -/
def parseHeartbeatInterval (mgmtConnParams : Element) : Outcome Exn UInt64 := do
  let heartbeatIntervalElement ← mgmtConnParams.find "heartbeat-interval"
  match heartbeatIntervalElement with
  | some element =>
      if element.getType ≠ .integer then
        throwConfigError (fieldErrorStr "heartbeat-interval" "must be a integer")
  | none => pure ()
  let element ← .deref heartbeatIntervalElement
  let value ← element.intValue
  -- from here on the value is unsigned
  let intervalTimer := value.toUInt64
  if intervalTimer ≤ 0 then
    throwConfigError (fieldErrorStr "heartbeat-interval" "must be a non-zero non-negative integer")
  pure intervalTimer

def parseCredentials (mgmtConnParams : Element) : Outcome Exn (List (String × Element)) := do
  match ← mgmtConnParams.find "credentials" with
  | none => throwConfigError (fieldErrorStr "credentials" "must not be null")
  | some (.map credentialsParams) => pure credentialsParams
  | some _ => throwConfigError (fieldErrorStr "credentials" "must be a map")

/-- The last check asks for the type of the key file and looks at the certificate. -/
def checkTlsCredentials (url : Url) (credentialsParams : List (String × Element)) : Outcome Exn Unit := do
  if url.scheme = .https then
    let certificateElement := credentialsParams.lookup "certificate"
    let _ ← stringField "certificate" certificateElement
    if (credentialsParams.lookup "keyfile").isNone then
      throwConfigError (fieldErrorStr "keyfile" "must not be null")
    let keyfileElement ← .deref certificateElement
    if keyfileElement.getType ≠ .string then
      throwConfigError (fieldErrorStr "keyfile" "must be a string")

/-- The credentials, from the map to the last check of the TLS ones. The URL was moved from before its scheme
is read, which leaves the scheme as it was. -/
def parseAuth (url : Url) (mgmtConnParams : Element) : Outcome Exn BasicHttpAuth := do
  let credentialsParams ← parseCredentials mgmtConnParams
  let login ← stringField "login" (credentialsParams.lookup "login")
  let password ← stringField "password" (credentialsParams.lookup "password")
  let auth ← BasicHttpAuth.new login password
  checkTlsCredentials url credentialsParams
  pure auth

def NXOSConnectionConfigParams.parseConfig (mgmtConnParams : Option Element) :
    Outcome Exn NXOSConnectionConfigParams := do
  match mgmtConnParams with
  | none => throwConfigError "NXOS DHCP6 Exporter configuration must not be null"
  | some mgmtConnParams => do
      let url ← parseHost parseUrl mgmtConnParams
      let intervalTimer ← parseHeartbeatInterval mgmtConnParams
      let auth ← parseAuth url mgmtConnParams
      pure ⟨⟨url⟩, ⟨auth⟩, none, none, intervalTimer⟩

/-! ### Loading the library -/

def managementClientName : String := "nxos"

/-- `ManagementClient::init`: what the client keeps of its parameters. -/
def managementClientInit (mgmtName : String) (mgmtConnParams : Element) :
    Outcome Exn NXOSConnectionConfigParams :=
  if mgmtName = managementClientName then
    NXOSConnectionConfigParams.parseConfig parseUrl (some mgmtConnParams)
  else
    .throw (.isc .invalidParameter ("Failed to find management client with name \"" ++ mgmtName ++ "\""))

def heartbeatServiceInit (mgmtName : String) (mgmtConnParams : Element) :
    Outcome Exn NXOSHeartbeatService :=
  if mgmtName = managementClientName then do
    let params ← NXOSConnectionConfigParams.parseConfig parseUrl (some mgmtConnParams)
    pure ⟨params.heartbeatIntervalSecs, false, false, 0, true⟩
  else
    .throw (.isc .invalidParameter
      ("Failed to find heartbeat service for management client with name \"" ++ mgmtName ++ "\""))

def configureAndInitClient (mgmtConnType mgmtConnParams : Option Element) :
    Outcome Exn (NXOSConnectionConfigParams × NXOSHeartbeatService) :=
  match mgmtConnType with
  | none => .throw (.isc .badValue "No parameter \"connection-type\" in config")
  | some (.string mgmtName) =>
      match mgmtConnParams with
      | none => .throw (.isc .badValue "No parameter \"connection-params\" in config")
      | some (.map members) => do
          let client ← managementClientInit parseUrl mgmtName (.map members)
          let heartbeatService ← heartbeatServiceInit parseUrl mgmtName (.map members)
          pure (client, heartbeatService)
      | some _ => .throw (.isc .badValue "parameter \"connection-params\" must be a map")
  | some _ => .throw (.isc .badValue "parameter \"connection-type\" must be a string")

end ParseConfig

end NxosExporter
