import NxosExporter.Proof.Restore

/-!
# Reporting a restore that fails

A restore that does not finish should ask for another one. The closure of the neighbor lookup reports what goes
wrong while it decodes the reply; the conversion of the hardware addresses after that, and the pass itself, raise
exceptions that nobody reports.
-/

namespace NxosExporter

open Effectful Nlohmann

variable {Addr : Type}

/-- What the `try` block of the closure reads out of the reply. -/
def readNeighbors (reply : Reply) : Outcome Exn NeighborLookupResponse := do
  match reply.jsonRpcException with
  | some exception => .throw (.jsonRpc exception)
  | none => pure ()
  let response ← .deref reply.response
  let neighborLookupRaw ← frontBody response
  liftJson (NeighborLookupResponse.fromJson neighborLookupRaw)

/-- The callback of the service, called with what the client hands over. -/
def deliverMapping (leaseMgr : LeaseMgr Addr) (cfgMgr : CfgMgr) : ClientEffect → ServiceProg Addr Unit
  | .hwAddrMapping mapping connectionOrEarlyValidationFailed =>
      restoreCallback leaseMgr cfgMgr (some mapping) connectionOrEarlyValidationFailed
  | .sendRequest _ | .log _ => pure ()

/-- A restore attempt from the reply on. The closure calls the callback last, so an exception of either one
leaves the closure. -/
def restoreAttempt (leaseMgr : LeaseMgr Addr) (cfgMgr : CfgMgr) (reply : Reply) : ServiceProg Addr Unit :=
  match (hwAddrMappingReply reply).outcome with
  | .ok () => Prog.forEach (deliverMapping leaseMgr cfgMgr) (hwAddrMappingReply reply).effects
  | .throw ex => .throw ex
  | .undefined => .lift .undefined

/-- The attempt ends early because of an error: it leaves the closure, or the reply is of no use. -/
def StopsWithError (leaseMgr : LeaseMgr Addr) (cfgMgr : CfgMgr) (reply : Reply) : Prop :=
  (restoreAttempt leaseMgr cfgMgr reply).outcome ≠ .ok () ∨
    ∃ mapping, ClientEffect.hwAddrMapping mapping true ∈ (hwAddrMappingReply reply).effects

def ReportedForRetry (leaseMgr : LeaseMgr Addr) (cfgMgr : CfgMgr) (reply : Reply) : Prop :=
  StopsWithError leaseMgr cfgMgr reply → .handlerFailed ∈ (restoreAttempt leaseMgr cfgMgr reply).effects

/-- The adjacencies of the reply, in the order of the four loops. -/
def NeighborLookupResponse.objects (neighborLookup : NeighborLookupResponse) : List AdjObject :=
  neighborLookup.tableVrf.flatMap fun vrf => vrf.tableAfi.flatMap fun afi =>
    afi.tableAdj.flatMap RowAdj.tableObject

def hasMalformedMac (object : AdjObject) : Bool :=
  isValidVlanName object.intfOut && (HWAddr.fromText (insertColons object.mac.toList 0)).isNone

/-- The server has its subnets configured, and the lease that ends the pass, if any, is an IA_PD with a HWAddr
and a DUID. -/
def PassFinishes (leaseMgr : LeaseMgr Addr) (cfgMgr : CfgMgr) : Prop :=
  ∃ subnets, cfgMgr = configured subnets ∧
    ∀ lease ∈ (restoredLeases leaseMgr subnets).find? endsPass, lease.hwaddr.isSome ∧ lease.duid.isSome

/-- Where a reply of status 200 is no error, it holds a response, and when that can be decoded there is no
malformed MAC on a VLAN interface and the pass finishes. -/
def OnlyReportedErrors (leaseMgr : LeaseMgr Addr) (cfgMgr : CfgMgr) (reply : Reply) : Prop :=
  reply.responseError = .success → reply.statusCode = 200 → reply.jsonRpcException = none →
    reply.response.getD [] ≠ [] ∧
      ∀ neighborLookup, readNeighbors reply = .ok neighborLookup →
        (∀ object ∈ neighborLookup.objects, hasMalformedMac object = false) ∧ PassFinishes leaseMgr cfgMgr

section Mapping

variable {object : AdjObject} {neighborLookup : NeighborLookupResponse}

theorem collectMapping_eq (neighborLookup : NeighborLookupResponse) :
    collectMapping neighborLookup = neighborLookup.objects.foldlM collectObject [] := by
  simp only [collectMapping, NeighborLookupResponse.objects, Outcome.foldlM_flatMap]

theorem collectObject_of_wellFormed (hmac : hasMalformedMac object = false) (mapping : HWAddrMap) :
    ∃ mapping', collectObject mapping object = .ok mapping' := by
  cases hvlan : isValidVlanName object.intfOut with
  | false => exact ⟨mapping, by simp [collectObject, hvlan]⟩
  | true =>
      cases htext : HWAddr.fromText (insertColons object.mac.toList 0) with
      | none => simp [hasMalformedMac, hvlan, htext] at hmac
      | some hwAddr =>
          exact ⟨mapping.insert hwAddr object.intfOut, by simp [collectObject, hvlan, fromRawCiscoString, htext]⟩

theorem collectObject_of_malformed (hmac : hasMalformedMac object = true) (mapping : HWAddrMap) :
    collectObject mapping object = .throw (.isc .badValue "invalid hardware address") := by
  rw [hasMalformedMac, Bool.and_eq_true, Option.isNone_iff_eq_none] at hmac
  simp [collectObject, hmac.1, fromRawCiscoString, hmac.2]

/-- The conversion succeeds when it meets no malformed MAC and raises an exception otherwise. -/
theorem foldlM_collectObject (objects : List AdjObject) (mapping : HWAddrMap) :
    ((∀ object ∈ objects, hasMalformedMac object = false) ∧
        ∃ mapping', objects.foldlM collectObject mapping = .ok mapping') ∨
      ((∃ object ∈ objects, hasMalformedMac object = true) ∧
        ∃ exn, objects.foldlM collectObject mapping = .throw exn) := by
  induction objects generalizing mapping with
  | nil => exact .inl ⟨by simp, mapping, rfl⟩
  | cons object rest ih =>
      rw [List.foldlM_cons]
      cases hmac : hasMalformedMac object with
      | true =>
          rw [collectObject_of_malformed hmac]
          exact .inr ⟨⟨object, by simp, hmac⟩, _, rfl⟩
      | false =>
          obtain ⟨mapping', hobject⟩ := collectObject_of_wellFormed hmac mapping
          rw [hobject, Outcome.ok_bind]
          obtain ⟨hall, hok⟩ | ⟨⟨other, hmem, hother⟩, hthrow⟩ := ih mapping'
          · exact .inl ⟨List.forall_mem_cons.mpr ⟨hmac, hall⟩, hok⟩
          · exact .inr ⟨⟨other, List.mem_cons_of_mem object hmem, hother⟩, hthrow⟩

end Mapping

/-! ### Reading the reply -/

section Reading

variable {reply : Reply} {α β : Type}

theorem defined_getAt (value : Json) (key : String) : (value.getAt key).Handled fun _ => True := by
  unfold Json.getAt
  split
  · split <;> simp
  · simp

theorem defined_getStringAt (value : Json) (key : String) : (getStringAt value key).Handled fun _ => True := by
  refine Outcome.handled_bind (defined_getAt value key) fun member => ?_
  cases member <;> simp [Json.getString]

theorem defined_decodeCopiedTable {decode : Json → Outcome JsonError α}
    (hdecode : ∀ value, (decode value).Handled fun _ => True) (table : Json) :
    (decodeCopiedTable decode table).Handled fun _ => True := by
  rw [decodeCopiedTable_eq, Outcome.handled_map_iff]
  exact hdecode table.deduced

theorem defined_adjObject (value : Json) : (AdjObject.fromJson value).Handled fun _ => True :=
  Outcome.handled_bind (defined_getStringAt _ _) fun _ =>
    Outcome.handled_bind (defined_getStringAt _ _) fun _ =>
      Outcome.handled_bind (defined_getStringAt _ _) fun _ => Outcome.handled_ok _ _

theorem defined_rowAdj (value : Json) : (RowAdj.fromJson value).Handled fun _ => True := by
  refine Outcome.handled_bind (defined_getAt _ _) fun inner => ?_
  dsimp only
  split
  · exact Outcome.handled_bind (defined_decodeCopiedTable defined_adjObject _) fun _ => Outcome.handled_ok _ _
  · exact Outcome.handled_ok _ _

theorem defined_decodeNamedRow {decode : Json → Outcome JsonError α}
    (hdecode : ∀ value, (decode value).Handled fun _ => True) (rowKey name tableKey : String)
    (make : String → Option (List α) → β) (value : Json) :
    (decodeNamedRow rowKey name tableKey decode make value).Handled fun _ => True := by
  refine Outcome.handled_bind (defined_getAt _ _) fun inner => ?_
  refine Outcome.handled_bind (defined_getStringAt _ _) fun rowName => ?_
  dsimp only
  split
  · exact Outcome.handled_bind (defined_decodeCopiedTable hdecode _) fun _ => Outcome.handled_ok _ _
  · exact Outcome.handled_ok _ _

theorem defined_rowVrfNeighborLookup (value : Json) :
    (RowVrfNeighborLookup.fromJson value).Handled fun _ => True := by
  rw [RowVrfNeighborLookup.fromJson_eq, RowAfi.fromJson_eq]
  exact defined_decodeNamedRow (defined_decodeNamedRow defined_rowAdj _ _ _ _) _ _ _ _ value

theorem defined_neighborLookup (value : Json) :
    (NeighborLookupResponse.fromJson value).Handled fun _ => True := by
  refine Outcome.handled_bind (defined_getAt _ _) fun table => ?_
  split
  · exact Outcome.handled_bind (Outcome.handled_mapM defined_rowVrfNeighborLookup _) fun _ =>
      Outcome.handled_ok _ _
  · exact Outcome.handled_bind (defined_rowVrfNeighborLookup _) fun _ => Outcome.handled_ok _ _
  · exact Outcome.handled_ok _ _

theorem defined_frontBody (first : JsonRpcResponse) (rest : List JsonRpcResponse) :
    (frontBody (first :: rest)).Handled fun _ => True := by
  rw [frontBody, Outcome.index_cons_zero, Outcome.ok_bind]
  cases hresult : first.result <;> simp [Json.index]

theorem handled_liftJson {outcome : Outcome JsonError α} (houtcome : outcome.Handled fun _ => True) :
    (liftJson outcome).Handled fun _ => True := by
  obtain ⟨value, rfl⟩ | ⟨error, -, rfl⟩ := houtcome <;> simp

/-- Reading a reply leaves the language exactly when it is no error and holds no response. -/
theorem readNeighbors_eq_undefined_iff :
    readNeighbors reply = .undefined ↔ reply.jsonRpcException = none ∧ reply.response.getD [] = [] := by
  obtain ⟨response, responseError, statusCode, jsonRpcException⟩ := reply
  cases jsonRpcException with
  | some exception => simp [readNeighbors]
  | none =>
      match response with
      | none => simp [readNeighbors]
      | some [] => simp [readNeighbors, frontBody]
      | some (first :: rest) =>
          have heq : readNeighbors ⟨some (first :: rest), responseError, statusCode, none⟩
              = frontBody (first :: rest) >>= fun body => liftJson (NeighborLookupResponse.fromJson body) := rfl
          have hread : (readNeighbors ⟨some (first :: rest), responseError, statusCode, none⟩).Handled
              fun _ => True := by
            rw [heq]
            exact Outcome.handled_bind (defined_frontBody first rest) fun body =>
              handled_liftJson (defined_neighborLookup body)
          obtain ⟨neighborLookup, hok⟩ | ⟨exn, -, hthrow⟩ := hread
          · simp [hok]
          · simp [hthrow]

end Reading

/-! ### The attempt -/

section Attempt

variable {leaseMgr : LeaseMgr Addr} {cfgMgr : CfgMgr} {reply : Reply}

theorem hwAddrMappingReply_of_failed (hfailed : ¬ (reply.responseError = .success ∧ reply.statusCode = 200)) :
    hwAddrMappingReply reply = .emit (.hwAddrMapping [] true) := by
  rw [hwAddrMappingReply, if_neg hfailed]

theorem hwAddrMappingReply_eq (hsuccess : reply.responseError = .success) (hstatus : reply.statusCode = 200) :
    hwAddrMappingReply reply = match readNeighbors reply with
      | .ok neighborLookup => do
          let mapping ← .lift (collectMapping neighborLookup)
          .emit (.hwAddrMapping mapping false)
      | .throw ex => do
          logMessage (.responseParseError "NeighborLookupResponse" ex)
          .emit (.hwAddrMapping [] true)
      | .undefined => .lift .undefined := by
  obtain ⟨response, responseError, statusCode, jsonRpcException⟩ := reply
  obtain rfl : responseError = .success := hsuccess
  obtain rfl : statusCode = 200 := hstatus
  cases jsonRpcException with
  | some exception => simp [hwAddrMappingReply, readNeighbors, collectMapping]
  | none =>
      cases response with
      | none => simp [hwAddrMappingReply, readNeighbors]
      | some response =>
          cases hbody : frontBody response with
          | ok body =>
              cases hdecode : NeighborLookupResponse.fromJson body <;>
                simp [hwAddrMappingReply, readNeighbors, hbody, hdecode, collectMapping]
          | throw exn => simp [hwAddrMappingReply, readNeighbors, hbody, collectMapping]
          | undefined => simp [hwAddrMappingReply, readNeighbors, hbody]

theorem jsonRpcException_of_readNeighbors {neighborLookup : NeighborLookupResponse}
    (hread : readNeighbors reply = .ok neighborLookup) : reply.jsonRpcException = none := by
  cases hexception : reply.jsonRpcException with
  | none => rfl
  | some exception => simp [readNeighbors, hexception] at hread

/-! A reply that the client hands over as failed is reported at once. -/

theorem restoreAttempt_of_failed (hfailed : ¬ (reply.responseError = .success ∧ reply.statusCode = 200)) :
    restoreAttempt leaseMgr cfgMgr reply = ⟨[.handlerFailed], .ok ()⟩ := by
  rw [restoreAttempt, hwAddrMappingReply_of_failed hfailed]
  rfl

theorem restoreAttempt_of_unreadable {exn : Exn} (hsuccess : reply.responseError = .success)
    (hstatus : reply.statusCode = 200) (hread : readNeighbors reply = .throw exn) :
    restoreAttempt leaseMgr cfgMgr reply = ⟨[.handlerFailed], .ok ()⟩ := by
  rw [restoreAttempt, hwAddrMappingReply_eq hsuccess hstatus, hread]
  rfl

theorem restoreAttempt_of_read {neighborLookup : NeighborLookupResponse}
    (hsuccess : reply.responseError = .success) (hstatus : reply.statusCode = 200)
    (hread : readNeighbors reply = .ok neighborLookup) :
    restoreAttempt leaseMgr cfgMgr reply = match collectMapping neighborLookup with
      | .ok mapping => restoreCallback leaseMgr cfgMgr (some mapping) false
      | .throw exn => .throw exn
      | .undefined => .lift .undefined := by
  rw [restoreAttempt, hwAddrMappingReply_eq hsuccess hstatus, hread]
  cases hmapping : collectMapping neighborLookup with
  | ok mapping => simp [hmapping, deliverMapping]
  | throw exn => simp [hmapping]
  | undefined => simp [hmapping]

end Attempt

/-! ### The pass -/

section Pass

variable {leaseMgr : LeaseMgr Addr} {cfgMgr : CfgMgr} {mapping : HWAddrMap} {lease : Lease6 Addr}

theorem restoreLease_outcome_of_endsPass (hends : endsPass lease = true) :
    (∃ exit, (restoreLease leaseMgr mapping lease).outcome = .ok exit) ↔
      lease.hwaddr.isSome = true ∧ lease.duid.isSome = true := by
  cases hhwAddr : lease.hwaddr with
  | none => simp [restoreLease, hhwAddr]
  | some hwAddr =>
      have htype : lease.type = .typePD := by simpa [endsPass, hhwAddr, isPrefixLease] using hends
      cases hduid : lease.duid with
      | none => simp [restoreLease, hhwAddr, htype, hduid, findIANALeaseByDUIDIAID]
      | some duid =>
          cases hfind : findIANALeaseByDUIDIAID leaseMgr (some duid) lease.iaid <;>
            simp [restoreLease, hhwAddr, htype, hduid, hfind]

theorem restoreSubnets_outcome (leaseMgr : LeaseMgr Addr) (mapping : HWAddrMap) (subnets : List UInt32) :
    (∃ exit, (restoreSubnets leaseMgr mapping subnets).outcome = .ok exit) ↔
      ∀ lease ∈ (restoredLeases leaseMgr subnets).find? endsPass,
        lease.hwaddr.isSome = true ∧ lease.duid.isSome = true := by
  rw [restoreSubnets_eq, Prog.loop_outcome _ endsPass _ fun lease _ => (restoreLease_spec lease).2]
  cases hfind : (restoredLeases leaseMgr subnets).find? endsPass with
  | none => simp
  | some lease =>
      have hends : endsPass lease = true := List.find?_some hfind
      simpa using restoreLease_outcome_of_endsPass hends

theorem restoreCallback_outcome_iff (mapping : HWAddrMap) :
    (restoreCallback leaseMgr cfgMgr (some mapping) false).outcome = .ok () ↔ PassFinishes leaseMgr cfgMgr := by
  match hcfg : cfgMgr with
  | ⟨none⟩ => simp [restoreCallback, PassFinishes, configured]
  | ⟨some ⟨none⟩⟩ => simp [restoreCallback, PassFinishes, configured]
  | ⟨some ⟨some ⟨none⟩⟩⟩ => simp [restoreCallback, PassFinishes, configured]
  | ⟨some ⟨some ⟨some subnets⟩⟩⟩ =>
      have hpass := restoreSubnets_outcome leaseMgr mapping subnets
      cases houtcome : (restoreSubnets leaseMgr mapping subnets).outcome <;>
        simp_all [restoreCallback, PassFinishes, configured, Prog.bind_eq, Prog.bind]

theorem handlerFailed_not_mem_restoreLease (leaseMgr : LeaseMgr Addr) (mapping : HWAddrMap)
    (lease : Lease6 Addr) : .handlerFailed ∉ (restoreLease leaseMgr mapping lease).effects := by
  cases hhwAddr : lease.hwaddr with
  | none => simp [restoreLease, hhwAddr]
  | some hwAddr =>
      cases htype : lease.type with
      | typeNA => cases hlookup : mapping.find hwAddr <;> simp [restoreLease, hhwAddr, htype, hlookup]
      | typePD =>
          cases hfind : findIANALeaseByDUIDIAID leaseMgr lease.duid lease.iaid with
          | some entry => simp [restoreLease, hhwAddr, htype, hfind]
          | none =>
              cases hduid : lease.duid <;> rw [hduid] at hfind <;>
                simp [restoreLease, hhwAddr, htype, hfind, hduid]
      | typeTA => simp [restoreLease, hhwAddr, htype]
      | typeV4 => simp [restoreLease, hhwAddr, htype]

/-- The pass itself never asks for another restore. -/
theorem handlerFailed_not_mem_restoreCallback (mapping : HWAddrMap) :
    .handlerFailed ∉ (restoreCallback leaseMgr cfgMgr (some mapping) false).effects := by
  match cfgMgr with
  | ⟨none⟩ => simp [restoreCallback]
  | ⟨some ⟨none⟩⟩ => simp [restoreCallback]
  | ⟨some ⟨some ⟨none⟩⟩⟩ => simp [restoreCallback]
  | ⟨some ⟨some ⟨some subnets⟩⟩⟩ =>
      have hloop : .handlerFailed ∉ (restoreSubnets leaseMgr mapping subnets).effects := by
        rw [restoreSubnets_eq, Prog.loop_effects _ endsPass _ fun lease _ => (restoreLease_spec lease).2,
          List.mem_flatMap]
        rintro ⟨lease, -, hmem⟩
        exact handlerFailed_not_mem_restoreLease leaseMgr mapping lease hmem
      simpa [restoreCallback] using hloop

end Pass

/-- Once the reply is read, nothing reports an error any more. -/
theorem reportedForRetry_of_read {leaseMgr : LeaseMgr Addr} {cfgMgr : CfgMgr} {reply : Reply}
    {neighborLookup : NeighborLookupResponse} (hsuccess : reply.responseError = .success)
    (hstatus : reply.statusCode = 200) (hread : readNeighbors reply = .ok neighborLookup) :
    ReportedForRetry leaseMgr cfgMgr reply ↔
      (∀ object ∈ neighborLookup.objects, hasMalformedMac object = false) ∧ PassFinishes leaseMgr cfgMgr := by
  have hreply := hwAddrMappingReply_eq hsuccess hstatus
  have hattempt : restoreAttempt leaseMgr cfgMgr reply = _ := restoreAttempt_of_read hsuccess hstatus hread
  simp only [hread, collectMapping_eq] at hreply hattempt
  obtain ⟨hwell, mapping, hmapping⟩ | ⟨⟨object, hobject, hmac⟩, exn, hmapping⟩ :=
    foldlM_collectObject neighborLookup.objects []
  · simp only [hmapping] at hreply hattempt
    have hunflagged :
        ¬ ∃ mapping, ClientEffect.hwAddrMapping mapping true ∈ (hwAddrMappingReply reply).effects := by
      rw [hreply]
      simp
    rw [ReportedForRetry, StopsWithError, hattempt, or_iff_left hunflagged, Ne, restoreCallback_outcome_iff]
    constructor
    · intro hreported
      refine ⟨hwell, ?_⟩
      by_contra hunfinished
      exact handlerFailed_not_mem_restoreCallback mapping (hreported hunfinished)
    · rintro ⟨-, hfinishes⟩ hunfinished
      exact absurd hfinishes hunfinished
  · simp only [hmapping] at hattempt
    constructor
    · intro hreported
      have hmem := hreported (.inl (by simp [hattempt]))
      simp [hattempt] at hmem
    · rintro ⟨hwell, -⟩
      rw [hwell object hobject] at hmac
      cases hmac

/-- **Failed restores.** A restore that ends early because of an error is reported for retry exactly when its
only errors are those of the reply: a transport error, another status, a JSON-RPC error or a body that cannot be
decoded. An empty response list, a malformed MAC on a VLAN interface, a missing configuration and a lease without
HWAddr or DUID end it unreported. -/
theorem reportedForRetry_iff (leaseMgr : LeaseMgr Addr) (cfgMgr : CfgMgr) (reply : Reply) :
    ReportedForRetry leaseMgr cfgMgr reply ↔ OnlyReportedErrors leaseMgr cfgMgr reply := by
  by_cases hok : reply.responseError = .success ∧ reply.statusCode = 200
  · obtain ⟨hsuccess, hstatus⟩ := hok
    cases hread : readNeighbors reply with
    | undefined =>
        obtain ⟨hexception, hempty⟩ := readNeighbors_eq_undefined_iff.mp hread
        have hattempt : restoreAttempt leaseMgr cfgMgr reply = .lift .undefined := by
          rw [restoreAttempt, hwAddrMappingReply_eq hsuccess hstatus, hread]
          rfl
        refine iff_of_false (fun hreported => ?_) fun honly => (honly hsuccess hstatus hexception).1 hempty
        have hmem := hreported (.inl (by simp [hattempt]))
        simp [hattempt] at hmem
    | throw exn =>
        refine iff_of_true (fun _ => ?_) fun _ _ hexception => ⟨fun hempty => ?_, fun neighborLookup hok => ?_⟩
        · simp [restoreAttempt_of_unreadable hsuccess hstatus hread]
        · rw [readNeighbors_eq_undefined_iff.mpr ⟨hexception, hempty⟩] at hread
          cases hread
        · rw [hread] at hok
          cases hok
    | ok neighborLookup =>
        have hexception := jsonRpcException_of_readNeighbors hread
        rw [reportedForRetry_of_read hsuccess hstatus hread]
        constructor
        · intro hfinishes _ _ _
          refine ⟨fun hempty => ?_, fun other hother => ?_⟩
          · rw [readNeighbors_eq_undefined_iff.mpr ⟨hexception, hempty⟩] at hread
            cases hread
          · rw [hread] at hother
            obtain rfl := Outcome.ok.inj hother
            exact hfinishes
        · intro honly
          exact (honly hsuccess hstatus hexception).2 neighborLookup hread
  · refine iff_of_true (fun _ => ?_) fun hsuccess hstatus => absurd ⟨hsuccess, hstatus⟩ hok
    simp [restoreAttempt_of_failed hok]

/-! A neighbor on a VLAN interface, once with its MAC and once before the switch has resolved it. -/

def neighborReply (mac : String) : Reply where
  response := some [⟨.int 1, .object [("body", .object [("TABLE_vrf", .object [("ROW_vrf", .object
    [("vrf-name-out", .string "default"), ("TABLE_afi", .object [("ROW_afi", .object
      [("afi", .string "ipv6"), ("TABLE_adj", .object [("ROW_adj", .object [("ROW_adj", .object
        [("intf-out", .string "Vlan10"), ("ipv6-addr", .string "fe80::5"),
          ("mac", .string mac)])])])])])])])])]⟩]
  responseError := .success
  statusCode := 200
  jsonRpcException := none

def leaseWithoutHWAddr : Lease6 TextAddress := { addressLease with hwaddr := none }

theorem not_reportedForRetry_malformedMac_noHWAddr :
    ¬ ReportedForRetry ⟨[addressLease]⟩ (configured [1]) (neighborReply "incomplete") ∧
      ¬ ReportedForRetry ⟨[leaseWithoutHWAddr]⟩ (configured [1]) (neighborReply "f6a5.486e.8aad") := by
  constructor
  · intro hreported
    have hattempt : restoreAttempt ⟨[addressLease]⟩ (configured [1]) (neighborReply "incomplete")
        = .throw (.isc .badValue "invalid hardware address") := rfl
    have hmem := hreported (.inl (by simp [hattempt]))
    simp [hattempt] at hmem
  · intro hreported
    have hattempt : restoreAttempt ⟨[leaseWithoutHWAddr]⟩ (configured [1]) (neighborReply "f6a5.486e.8aad")
        = .throw (.isc .unexpected "can't recover route for lease without HWAddr") := rfl
    have hmem := hreported (.inl (by simp [hattempt]))
    simp [hattempt] at hmem

end NxosExporter
