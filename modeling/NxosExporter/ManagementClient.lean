import NxosExporter.NxosStructs
import NxosExporter.RouteExport
import NxosExporter.Command

/-!
# The management client

`NXOSManagementClient` turns a route export into requests. A request carries the closure that takes its
reply; each closure the source creates is a constructor below with the strings it captures, and
`handleReply` is the body it runs. Debug traces are left out, errors and results that are logged are
effects.
-/

namespace NxosExporter

open Effectful Nlohmann

/-! ### What the client does -/

inductive LogMessage where
  | vlanAddrMappingError (what : Exn)
  | responseParseError (name : String) (what : Exn)
  | responseFailed (type src : String)
  | routeApplyUnknownError (what : Exn)
  | routeApplySuccess (type src dst : String)
  | routeApplyFailed (type src dst : String) (what : Exn)
  | routeRemoveSuccess (type src dst : String)
  | routeRemoveFailed (type src dst : String) (what : Exn)

/-- The continuations of `asyncLookupAddressInternal`. -/
inductive LookupHandler where
  | applyIANA (iaNAAddrStr linkAddrStr dhcpv6TypeStr : String)
  | removeIANA (iaNAAddrStr linkAddrStr dhcpv6TypeStr : String)
  | fuzzyRemoveIANA (iaNAAddrStr dhcpv6TypeStr : String)
  | fuzzyRemoveIAPD (srcIAPDSubnetStr dhcpv6TypeStr : String)
  deriving DecidableEq, Repr

inductive ResponseHandler where
  | lookupAddress (lookupAddrStr lookupAddrType : String) (responseHandler : LookupHandler)
  | routeApply (routeAddrTypeStr src dst : String)
  | routeRemove (routeAddrTypeStr src dst : String)
  | hwAddrMapping
  deriving DecidableEq, Repr

structure Request where
  commands : List (Int × Command)
  handler : ResponseHandler
  deriving DecidableEq, Repr

/-- `std::unordered_map<HWAddr, string>`: one entry for each key. -/
abbrev HWAddrMap := List (HWAddr × String)

def HWAddrMap.find (mapping : HWAddrMap) (key : HWAddr) : Option String := List.lookup key mapping

def HWAddrMap.insert (mapping : HWAddrMap) (key : HWAddr) (value : String) : HWAddrMap :=
  (key, value) :: mapping.filter fun entry => entry.1 ≠ key

inductive ClientEffect where
  | sendRequest (request : Request)
  | log (message : LogMessage)
  | hwAddrMapping (mapping : HWAddrMap) (connectionOrEarlyValidationFailed : Bool)

abbrev ClientProg := Prog ClientEffect Exn

/-- `m_httpClient->sendRequest`, to the one URL of the connection and its one endpoint. -/
def sendRequest (commands : List (Int × Command)) (handler : ResponseHandler) : ClientProg Unit :=
  .emit (.sendRequest ⟨commands, handler⟩)

def logMessage (message : LogMessage) : ClientProg Unit := .emit (.log message)

def endpointName : String := "/ins"

def defaultTimeout : Int := 10000

def Request.toHttp (request : Request) (url : Url) : HttpRequest ResponseHandler where
  url := url
  endpointName := endpointName
  tlsContext := none
  requestBody := createRequestFromCommands request.commands
  responseHandler := some request.handler
  timeout := defaultTimeout

def frontBody (response : List JsonRpcResponse) : Outcome Exn Json := do
  let front ← .index response 0
  liftJson (front.result.index "body")

/-- `VlanIfRegex`, matched in full: `vlan` in any case and at least one digit. -/
def isValidVlanName (ifName : String) : Bool :=
  match ifName.toList with
  | v :: l :: a :: n :: digits =>
      [v, l, a, n].map Char.toLower = ['v', 'l', 'a', 'n'] && !digits.isEmpty && digits.all Char.isDigit
  | _ => false

/-! ### The guard chain of the lookup continuations

All four continuations walk down the same four tables. They differ in what they do when the prefix
guard fires, in which entries of the path they accept and in the text for a path without one. -/

def throwBadValue {α : Type} (what : String) : Outcome Exn α := .throw (.isc .badValue what)

def singleAddrf (routeLookup : RouteLookupResponse) : Outcome Exn RowAddr := do
  if routeLookup.tableVrf.length ≠ 1 then
    throwBadValue "field \"TABLE_vrf\" of response does not contain exactly 1 item"
  let vrfRow ← .index routeLookup.tableVrf 0
  if vrfRow.tableAddrf.length ≠ 1 then
    throwBadValue "field \"TABLE_addrf\" of response does not contain exactly 1 item"
  .index vrfRow.tableAddrf 0

/-- `!table_prefix.has_value() && table_prefix->size() != 1`. -/
def prefixGuard (addrfRow : RowAddr) : Outcome Exn Bool :=
  if !addrfRow.tablePrefix.isSome then do
    let rows ← .deref addrfRow.tablePrefix
    pure (rows.length ≠ 1)
  else
    pure false

/-- From `(*table_prefix)[0]` to the first accepted entry of its one path. -/
def acceptedEntry (entries : RowPath → List (Option String)) (accepts : String → Bool)
    (noneAccepted : String) (addrfRow : RowAddr) : Outcome Exn String := do
  let rows ← .deref addrfRow.tablePrefix
  let prefixRow ← .index rows 0
  if prefixRow.tablePath.length ≠ 1 then
    throwBadValue "field \"TABLE_path\" does not contain exactly 1 item"
  let path ← .index prefixRow.tablePath 0
  match (entries path).find? fun entry => entry.any accepts with
  | some entry => .deref entry
  | none => throwBadValue noneAccepted

def lookupIfName (accepts : String → Bool) (noneAccepted : String)
    (routeLookup : RouteLookupResponse) : Outcome Exn String := do
  let addrfRow ← singleAddrf routeLookup
  if ← prefixGuard addrfRow then
    throwBadValue "field \"TABLE_prefix\" does not contain exactly 1 item"
  acceptedEntry RowPath.ifname accepts noneAccepted addrfRow

def lookupVlanIfName : RouteLookupResponse → Outcome Exn String :=
  lookupIfName (fun _ => true) "vlan interface id is empty"

def lookupFuzzyVlanIfName : RouteLookupResponse → Outcome Exn String :=
  lookupIfName isValidVlanName "can't find vlan interface id"

/-! ### The continuations -/

/-- A relay lookup: its exceptions are logged, and then nothing is sent. -/
def withVlanIfName (routeLookup : RouteLookupResponse) (next : String → ClientProg Unit) :
    ClientProg Unit := do
  let vlanIfName ← Prog.tryCatch (some <$> .lift (lookupVlanIfName routeLookup)) fun ex => do
    logMessage (if ex.isBadValue then .vlanAddrMappingError ex
      else .responseParseError "RouteLookupResponse" ex)
    pure none
  match vlanIfName with
  | some vlanIfName => next vlanIfName
  | none => pure ()

def sendRemoveIANA (dhcpv6TypeStr iaNAAddrStr vlanIfName : String) : ClientProg Unit :=
  sendRequest [(1, .removeRouteIpv6 iaNAAddrStr vlanIfName), (2, .removeNDCacheEntryIpv6 vlanIfName)]
    (.routeRemove dhcpv6TypeStr iaNAAddrStr vlanIfName)

def runLookupHandler (handler : LookupHandler) (routeLookup : RouteLookupResponse) :
    ClientProg Unit :=
  match handler with
  | .applyIANA iaNAAddrStr _ dhcpv6TypeStr =>
      withVlanIfName routeLookup fun vlanIfName =>
        sendRequest [(1, .applyRouteIpv6 iaNAAddrStr vlanIfName)]
          (.routeApply dhcpv6TypeStr iaNAAddrStr vlanIfName)
  | .removeIANA iaNAAddrStr _ dhcpv6TypeStr =>
      withVlanIfName routeLookup fun vlanIfName =>
        sendRemoveIANA dhcpv6TypeStr iaNAAddrStr vlanIfName
  | .fuzzyRemoveIANA iaNAAddrStr dhcpv6TypeStr => do
      let vlanIfName ← .lift (lookupFuzzyVlanIfName routeLookup)
      sendRemoveIANA dhcpv6TypeStr iaNAAddrStr vlanIfName
  | .fuzzyRemoveIAPD srcIAPDSubnetStr dhcpv6TypeStr => do
      let addrfRow ← .lift (singleAddrf routeLookup)
      if ← .lift (prefixGuard addrfRow) then
        logMessage (.responseFailed dhcpv6TypeStr srcIAPDSubnetStr)
      else do
        let iaNAAddrStr ← .lift
          (acceptedEntry RowPath.ipnexthop (fun _ => true) "can't find IA_NA address" addrfRow)
        sendRequest [(1, .removeRouteIpv6 srcIAPDSubnetStr iaNAAddrStr)]
          (.routeRemove dhcpv6TypeStr srcIAPDSubnetStr iaNAAddrStr)

/-! ### The replies -/

def decodeRouteLookup (reply : Reply) : Outcome Exn RouteLookupResponse := do
  let response := reply.response.getD []
  if response.isEmpty then
    .throw (.isc .unexpected "received empty response")
  let routeLookupRaw ← frontBody response
  liftJson (RouteLookupResponse.fromJson routeLookupRaw)

/-- The closure of `asyncLookupAddressInternal`: the continuation runs outside the `try`. -/
def lookupAddressReply (responseHandler : LookupHandler) (reply : Reply) : ClientProg Unit := do
  let routeLookup ← Prog.tryCatch (some <$> .lift (decodeRouteLookup reply)) fun ex => do
    logMessage (.responseParseError "RouteLookupResponse" ex)
    pure none
  match routeLookup with
  | some routeLookup => runLookupHandler responseHandler routeLookup
  | none => pure ()

/-- The verdict that `handleRouteApply` and `handleRouteRemove` share. Status 500 falls through to the
default case. -/
def checkRouteReply (reply : Reply) : Outcome Exn Unit := do
  if reply.responseError ≠ .success then
    .throw (.isc .unexpected ("error while sending response to the switch: \x7b"
      ++ responseErrorToString reply.responseError ++ "\x7d"))
  if reply.statusCode = 200 then
    pure ()
  else if reply.statusCode = 401 then
    match reply.jsonRpcException with
    | some exception => .throw (.jsonRpc exception)
    | none => .throw (.isc .unexpected "unauthorized request")
  else
    match reply.jsonRpcException with
    | some exception => .throw (.jsonRpc exception)
    | none => pure ()
  if (reply.response.getD []).isEmpty then
    .throw (.isc .unexpected "response must be not empty")

def handleRouteApply (routeAddrTypeStr src dst : String) (reply : Reply) : ClientProg Unit :=
  match checkRouteReply reply with
  | .ok () => logMessage (.routeApplySuccess routeAddrTypeStr src dst)
  | .throw ex => logMessage (.routeApplyFailed routeAddrTypeStr src dst ex)
  | .undefined => .lift .undefined

def handleRouteRemove (routeAddrTypeStr src dst : String) (reply : Reply) : ClientProg Unit :=
  match checkRouteReply reply with
  | .ok () => logMessage (.routeRemoveSuccess routeAddrTypeStr src dst)
  | .throw ex => logMessage (.routeRemoveFailed routeAddrTypeStr src dst ex)
  | .undefined => .lift .undefined

/-- `fromRawCiscoString`, up to `HWAddr::fromText`: dots are dropped and a colon goes before every
other character that is kept; `cnt` counts the kept ones. -/
def insertColons : List Char → Nat → List Char
  | [], _ => []
  | c :: rest, cnt =>
      if c = '.' then
        insertColons rest cnt
      else if 0 < cnt ∧ cnt % 2 = 0 then
        ':' :: c :: insertColons rest (cnt + 1)
      else
        c :: insertColons rest (cnt + 1)

def fromRawCiscoString (rawMac : String) : Outcome Exn HWAddr :=
  match HWAddr.fromText (insertColons rawMac.toList 0) with
  | some hwAddr => .ok hwAddr
  | none => .throw (.isc .badValue "invalid hardware address")

def collectObject (mapping : HWAddrMap) (object : AdjObject) : Outcome Exn HWAddrMap :=
  if isValidVlanName object.intfOut then do
    let hwAddr ← fromRawCiscoString object.mac
    pure (mapping.insert hwAddr object.intfOut)
  else
    pure mapping

def collectMapping (neighborLookup : NeighborLookupResponse) : Outcome Exn HWAddrMap :=
  neighborLookup.tableVrf.foldlM (fun mapping vrf =>
    vrf.tableAfi.foldlM (fun mapping afi =>
      afi.tableAdj.foldlM (fun mapping adj =>
        adj.tableObject.foldlM collectObject mapping) mapping) mapping) []

/-- The closure of `asyncGetHWAddrToInterfaceNameMapping`: only the decoding is under a `try`. -/
def hwAddrMappingReply (reply : Reply) : ClientProg Unit := do
  if reply.responseError = .success ∧ reply.statusCode = 200 then
    let decoded ← Prog.tryCatch
      (do
        match reply.jsonRpcException with
        | some exception => .throw (.jsonRpc exception)
        | none => pure ()
        let response ← .lift (.deref reply.response)
        let neighborLookupRaw ← .lift (frontBody response)
        some <$> .lift (liftJson (NeighborLookupResponse.fromJson neighborLookupRaw)))
      fun ex => do
        logMessage (.responseParseError "NeighborLookupResponse" ex)
        pure none
    let mapping ← .lift (collectMapping (decoded.getD ⟨[]⟩))
    .emit (.hwAddrMapping mapping decoded.isNone)
  else
    .emit (.hwAddrMapping [] true)

/-- What the closure carried by a request does with its reply. -/
def handleReply (handler : ResponseHandler) (reply : Reply) : ClientProg Unit :=
  match handler with
  | .lookupAddress _ _ responseHandler => lookupAddressReply responseHandler reply
  | .routeApply routeAddrTypeStr src dst => handleRouteApply routeAddrTypeStr src dst reply
  | .routeRemove routeAddrTypeStr src dst => handleRouteRemove routeAddrTypeStr src dst reply
  | .hwAddrMapping => hwAddrMappingReply reply

/-! ### The operations of the client -/

section Operations

variable {Addr : Type} [IOAddress Addr]

def hostSubnet (address : Addr) : String := IOAddress.toText address ++ "/128"

def prefixSubnet (iaPDPrefix : Addr) (iaPDLength : UInt8) : String :=
  IOAddress.toText iaPDPrefix ++ "/" ++ toString iaPDLength.toNat

def asyncLookupAddressInternal (lookupAddrStr lookupAddrType : String)
    (responseHandler : LookupHandler) : ClientProg Unit :=
  sendRequest [(1, .mappingVlanAddrToVlanId lookupAddrStr)]
    (.lookupAddress lookupAddrStr lookupAddrType responseHandler)

def asyncGetHWAddrToInterfaceNameMapping : ClientProg Unit :=
  sendRequest [(1, .showIPv6Neighbour)] .hwAddrMapping

def sendRoutesToSwitch (route : RouteExport Addr) : ClientProg Unit :=
  let dhcpv6TypeStr := route.toDHCPv6IATypeString
  Prog.tryCatch
    (match route.routeInfo with
      | .iaNAInfo srcVlanAddr iaNAAddr =>
          let linkAddrStr := hostSubnet srcVlanAddr
          let iaNAAddrStr := hostSubnet iaNAAddr
          asyncLookupAddressInternal linkAddrStr "RELAY_ADDRESS"
            (.applyIANA iaNAAddrStr linkAddrStr dhcpv6TypeStr)
      | .iaNAFast srcVlanIfName iaNAAddr =>
          let iaNAAddrStr := hostSubnet iaNAAddr
          sendRequest [(1, .applyRouteIpv6 iaNAAddrStr srcVlanIfName)]
            (.routeApply dhcpv6TypeStr iaNAAddrStr srcVlanIfName)
      | .iaPDInfo dstIaNAAddr iaPDPrefix iaPDLength =>
          let srcIAPDSubnetStr := prefixSubnet iaPDPrefix iaPDLength
          let dstIANAAddrStr := IOAddress.toText dstIaNAAddr
          sendRequest [(1, .applyRouteIpv6 srcIAPDSubnetStr dstIANAAddrStr)]
            (.routeApply dhcpv6TypeStr srcIAPDSubnetStr dstIANAAddrStr)
      | _ => .throw (.isc .notImplemented "not implemented IA route info"))
    fun ex => logMessage (.routeApplyUnknownError ex)

def removeRoutesFromSwitch (leaseMgr : LeaseMgr Addr) (route : RouteExport Addr) : ClientProg Unit :=
  let dhcpv6TypeStr := route.toDHCPv6IATypeString
  match route.routeInfo with
  | .iaNAInfo srcVlanAddr iaNAAddr =>
      let linkAddrStr := hostSubnet srcVlanAddr
      let iaNAAddrStr := hostSubnet iaNAAddr
      asyncLookupAddressInternal linkAddrStr "RELAY_ADDRESS"
        (.removeIANA iaNAAddrStr linkAddrStr dhcpv6TypeStr)
  | .iaPDInfo dstIaNAAddr iaPDPrefix iaPDLength =>
      let srcIAPDSubnetStr := prefixSubnet iaPDPrefix iaPDLength
      let dstIANAAddrStr := IOAddress.toText dstIaNAAddr
      sendRequest [(1, .removeRouteIpv6 srcIAPDSubnetStr dstIANAAddrStr)]
        (.routeRemove dhcpv6TypeStr srcIAPDSubnetStr dstIANAAddrStr)
  | .iaNAInfoFuzzyRemove iaNAAddr =>
      let iaNAAddrStr := hostSubnet iaNAAddr
      asyncLookupAddressInternal iaNAAddrStr dhcpv6TypeStr
        (.fuzzyRemoveIANA iaNAAddrStr dhcpv6TypeStr)
  | .iaPDInfoFuzzyRemove iaPDPrefix iaPDLength =>
      let srcIAPDSubnetStr := prefixSubnet iaPDPrefix iaPDLength
      match findIANALeaseByDUIDIAID leaseMgr route.duid route.iaid with
      | some leaseIANA =>
          let dstIaNAAddrStr := hostSubnet leaseIANA.addr
          sendRequest [(1, .removeRouteIpv6 srcIAPDSubnetStr dstIaNAAddrStr)]
            (.routeRemove dhcpv6TypeStr srcIAPDSubnetStr dstIaNAAddrStr)
      | none =>
          asyncLookupAddressInternal srcIAPDSubnetStr dhcpv6TypeStr
            (.fuzzyRemoveIAPD srcIAPDSubnetStr dhcpv6TypeStr)
  | .iaNAFast _ _ => .throw (.isc .notImplemented "not implemented IA route info")

/-! Nothing an export does raises unless its route has no export, so the `catch` around it is idle. -/

@[simp]
theorem sendRoutesToSwitch_iaNAInfo (tid iaid : UInt32) (duid : Option DUID) (srcVlanAddr iaNAAddr : Addr) :
    sendRoutesToSwitch ⟨tid, iaid, duid, .iaNAInfo srcVlanAddr iaNAAddr⟩
      = asyncLookupAddressInternal (hostSubnet srcVlanAddr) "RELAY_ADDRESS"
          (.applyIANA (hostSubnet iaNAAddr) (hostSubnet srcVlanAddr) "IA_NA") := rfl

@[simp]
theorem sendRoutesToSwitch_iaNAFast (tid iaid : UInt32) (duid : Option DUID) (srcVlanIfName : String)
    (iaNAAddr : Addr) :
    sendRoutesToSwitch ⟨tid, iaid, duid, .iaNAFast srcVlanIfName iaNAAddr⟩
      = sendRequest [(1, .applyRouteIpv6 (hostSubnet iaNAAddr) srcVlanIfName)]
          (.routeApply "IA_NA" (hostSubnet iaNAAddr) srcVlanIfName) := rfl

@[simp]
theorem sendRoutesToSwitch_iaPDInfo (tid iaid : UInt32) (duid : Option DUID)
    (dstIaNAAddr iaPDPrefix : Addr) (iaPDLength : UInt8) :
    sendRoutesToSwitch ⟨tid, iaid, duid, .iaPDInfo dstIaNAAddr iaPDPrefix iaPDLength⟩
      = sendRequest
          [(1, .applyRouteIpv6 (prefixSubnet iaPDPrefix iaPDLength) (IOAddress.toText dstIaNAAddr))]
          (.routeApply "IA_PD" (prefixSubnet iaPDPrefix iaPDLength) (IOAddress.toText dstIaNAAddr)) := rfl

end Operations

/-! ### What a run of the client has posted -/

def ClientEffect.request? : ClientEffect → Option Request
  | sendRequest request => some request
  | _ => none

def requestsOf (effects : List ClientEffect) : List Request :=
  effects.filterMap ClientEffect.request?

@[simp]
theorem requestsOf_nil : requestsOf [] = [] := rfl

@[simp]
theorem requestsOf_cons (effect : ClientEffect) (rest : List ClientEffect) :
    requestsOf (effect :: rest) = effect.request?.toList ++ requestsOf rest := by
  cases effect <;> rfl

@[simp]
theorem requestsOf_append (first second : List ClientEffect) :
    requestsOf (first ++ second) = requestsOf first ++ requestsOf second :=
  List.filterMap_append

@[simp]
theorem sendRequest_effects (commands : List (Int × Command)) (handler : ResponseHandler) :
    (sendRequest commands handler).effects = [.sendRequest ⟨commands, handler⟩] := rfl

@[simp]
theorem sendRequest_outcome (commands : List (Int × Command)) (handler : ResponseHandler) :
    (sendRequest commands handler).outcome = .ok () := rfl

@[simp]
theorem logMessage_effects (message : LogMessage) : (logMessage message).effects = [.log message] := rfl

@[simp]
theorem logMessage_outcome (message : LogMessage) : (logMessage message).outcome = .ok () := rfl

@[simp]
theorem asyncLookupAddressInternal_effects (lookupAddrStr lookupAddrType : String)
    (responseHandler : LookupHandler) :
    (asyncLookupAddressInternal lookupAddrStr lookupAddrType responseHandler).effects
      = [.sendRequest ⟨[(1, .mappingVlanAddrToVlanId lookupAddrStr)],
          .lookupAddress lookupAddrStr lookupAddrType responseHandler⟩] := rfl

@[simp]
theorem asyncLookupAddressInternal_outcome (lookupAddrStr lookupAddrType : String)
    (responseHandler : LookupHandler) :
    (asyncLookupAddressInternal lookupAddrStr lookupAddrType responseHandler).outcome = .ok () := rfl

def Request.cliCommands (request : Request) : List Command := request.commands.map Prod.snd

end NxosExporter
