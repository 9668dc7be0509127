import NxosExporter.Switch
import NxosExporter.Proof.PathRows

/-!
# Ambiguous lookup replies

The continuations that look an interface up are meant to refuse a reply with several rows in a table. The
tests of the other tables do; the one of `TABLE_prefix` asks for the size only when there is no table, so
that a reply with several prefixes would be consumed by its first one. The decoder makes no such reply, since
it reads a table that it copies as one row, and every reply that it makes is refused where it is ambiguous.
-/

namespace NxosExporter

open Effectful Nlohmann

/-- The continuations that take an interface out of the reply: the export of an IA_NA, its removal and its
fuzzy removal. -/
def LookupHandler.looksUpInterface : LookupHandler → Bool
  | applyIANA _ _ _ | removeIANA _ _ _ | fuzzyRemoveIANA _ _ => true
  | fuzzyRemoveIAPD _ _ => false

/-- Which interface names the continuation takes. -/
def LookupHandler.accepts : LookupHandler → String → Bool
  | fuzzyRemoveIANA _ _ => isValidVlanName
  | _ => fun _ => true

def LookupHandler.firstQualifying (handler : LookupHandler) (path : RowPath) : Option String :=
  (path.ifname.filterMap id).find? handler.accepts

/-- The text of the error for a path without a qualifying interface. -/
def LookupHandler.noneAccepted : LookupHandler → String
  | fuzzyRemoveIANA _ _ => "can't find vlan interface id"
  | _ => "vlan interface id is empty"

/-- The request that the continuation posts for what it looked up. -/
def LookupHandler.routeRequest (vlanIfName : String) : LookupHandler → Request
  | applyIANA iaNAAddrStr _ dhcpv6TypeStr =>
      ⟨[(1, .applyRouteIpv6 iaNAAddrStr vlanIfName)], .routeApply dhcpv6TypeStr iaNAAddrStr vlanIfName⟩
  | removeIANA iaNAAddrStr _ dhcpv6TypeStr | fuzzyRemoveIANA iaNAAddrStr dhcpv6TypeStr =>
      ⟨[(1, .removeRouteIpv6 iaNAAddrStr vlanIfName), (2, .removeNDCacheEntryIpv6 vlanIfName)],
        .routeRemove dhcpv6TypeStr iaNAAddrStr vlanIfName⟩
  | fuzzyRemoveIAPD srcIAPDSubnetStr dhcpv6TypeStr =>
      ⟨[(1, .removeRouteIpv6 srcIAPDSubnetStr vlanIfName)],
        .routeRemove dhcpv6TypeStr srcIAPDSubnetStr vlanIfName⟩

/-- The interface or next hop of a route command. -/
def Command.routeDst? : Command → Option String
  | applyRouteIpv6 _ dst | removeRouteIpv6 _ dst => some dst
  | _ => none

/-- Each of the four tables holds one row, and `path` is the last of these. -/
def HasSingleRows (routeLookup : RouteLookupResponse) (path : RowPath) : Prop :=
  ∃ vrfRow addrfRow prefixRow, routeLookup.tableVrf = [vrfRow] ∧ vrfRow.tableAddrf = [addrfRow] ∧
    addrfRow.tablePrefix = some [prefixRow] ∧ prefixRow.tablePath = [path]

def RowAddr.prefixRows (addrfRow : RowAddr) : List RowPrefix := addrfRow.tablePrefix.getD []

/-- Some table of the reply, at any level, holds more than one row. -/
def HasManyRows (routeLookup : RouteLookupResponse) : Prop :=
  1 < routeLookup.tableVrf.length ∨ ∃ vrfRow ∈ routeLookup.tableVrf,
    1 < vrfRow.tableAddrf.length ∨ ∃ addrfRow ∈ vrfRow.tableAddrf,
      1 < addrfRow.prefixRows.length ∨ ∃ prefixRow ∈ addrfRow.prefixRows, 1 < prefixRow.tablePath.length

/-- What the continuation posts when it gets the reply. -/
def lookupRequests (handler : LookupHandler) (routeLookup : RouteLookupResponse) : List Request :=
  requestsOf (runLookupHandler handler routeLookup).effects

/-- A route command goes out only over the first qualifying interface of a reply with single rows, and
nothing goes out when a table has several. -/
structure RefusesAmbiguous (handler : LookupHandler) (routeLookup : RouteLookupResponse) : Prop where
  single : ∀ request ∈ lookupRequests handler routeLookup, ∀ command ∈ request.cliCommands,
    ∀ vlanIfName, command.routeDst? = some vlanIfName →
      ∃ path, HasSingleRows routeLookup path ∧ handler.firstQualifying path = some vlanIfName
  refused : HasManyRows routeLookup → lookupRequests handler routeLookup = []

/-- The reply has one vrf and one addrf but several prefixes, and the first of these leads over one path
with a qualifying interface. -/
def TakesFirstPrefix (handler : LookupHandler) (routeLookup : RouteLookupResponse) : Prop :=
  ∃ vrfRow addrfRow first second rest path, routeLookup.tableVrf = [vrfRow] ∧
    vrfRow.tableAddrf = [addrfRow] ∧ addrfRow.tablePrefix = some (first :: second :: rest) ∧
    first.tablePath = [path] ∧ (handler.firstQualifying path).isSome = true

section Lookup

variable {routeLookup : RouteLookupResponse} {addrfRow : RowAddr} {accepts : String → Bool}
  {noneAccepted vlanIfName : String}

theorem acceptedEntry_eq_ok_iff {entries : RowPath → List (Option String)} :
    acceptedEntry entries accepts noneAccepted addrfRow = .ok vlanIfName ↔
      ∃ prefixRow rest path, addrfRow.tablePrefix = some (prefixRow :: rest) ∧
        prefixRow.tablePath = [path] ∧ ((entries path).filterMap id).find? accepts = some vlanIfName := by
  cases htable : addrfRow.tablePrefix with
  | none => simp [acceptedEntry, htable]
  | some prefixRows =>
      cases prefixRows with
      | nil => simp [acceptedEntry, htable]
      | cons prefixRow rest =>
          cases hpath : prefixRow.tablePath with
          | nil => simp [acceptedEntry, htable, hpath, throwBadValue]
          | cons path others =>
              cases others with
              | cons second others => simp [acceptedEntry, htable, hpath, throwBadValue]
              | nil =>
                  cases hfound : (entries path).find? fun entry => entry.any accepts with
                  | none => simp [acceptedEntry, htable, hpath, hfound, throwBadValue]
                  | some entry => cases entry <;> simp [acceptedEntry, htable, hpath, hfound]

/-- A lookup succeeds with the first accepted interface of the one path that the reply comes down to. -/
theorem lookupIfName_eq_ok_iff :
    lookupIfName accepts noneAccepted routeLookup = .ok vlanIfName ↔
      ∃ path, ComesDownTo routeLookup path ∧
        (path.ifname.filterMap id).find? accepts = some vlanIfName := by
  rw [lookupIfName, Outcome.bind_eq_ok_iff]
  constructor
  · rintro ⟨addrfRow, hsingle, hlookup⟩
    obtain ⟨vrfRow, hvrf, haddrf⟩ := singleAddrf_eq_ok_iff.mp hsingle
    obtain ⟨ambiguous, hguard, hentry⟩ := Outcome.bind_eq_ok_iff.mp hlookup
    cases ambiguous with
    | true => cases hentry
    | false =>
        obtain ⟨prefixRow, rest, path, htable, hpath, hfirst⟩ := acceptedEntry_eq_ok_iff.mp hentry
        exact ⟨path, ⟨vrfRow, addrfRow, prefixRow, rest, hvrf, haddrf, htable, hpath⟩, hfirst⟩
  · rintro ⟨path, ⟨vrfRow, addrfRow, prefixRow, rest, hvrf, haddrf, htable, hpath⟩, hfirst⟩
    have hguard : prefixGuard addrfRow = .ok false := prefixGuard_of_prefix (by simp [htable])
    have hentry : acceptedEntry RowPath.ifname accepts noneAccepted addrfRow = .ok vlanIfName :=
      acceptedEntry_eq_ok_iff.mpr ⟨prefixRow, rest, path, htable, hpath, hfirst⟩
    refine ⟨addrfRow, singleAddrf_eq_ok_iff.mpr ⟨vrfRow, hvrf, haddrf⟩, ?_⟩
    simp [hguard, hentry]

end Lookup

section Refuses

variable {handler : LookupHandler} {routeLookup : RouteLookupResponse} {path : RowPath} {request : Request}
  {vlanIfName : String}

theorem lookupRequests_eq (hinterface : handler.looksUpInterface = true) :
    lookupRequests handler routeLookup
      = match lookupIfName handler.accepts handler.noneAccepted routeLookup with
        | .ok vlanIfName => [handler.routeRequest vlanIfName]
        | _ => [] := by
  cases handler with
  | applyIANA iaNAAddrStr linkAddrStr dhcpv6TypeStr =>
      rw [lookupRequests, runLookupHandler, requestsOf_withVlanIfName]
      rfl
  | removeIANA iaNAAddrStr linkAddrStr dhcpv6TypeStr =>
      rw [lookupRequests, runLookupHandler, requestsOf_withVlanIfName]
      rfl
  | fuzzyRemoveIANA iaNAAddrStr dhcpv6TypeStr =>
      have hlookup : lookupIfName
          (LookupHandler.fuzzyRemoveIANA iaNAAddrStr dhcpv6TypeStr).accepts
          (LookupHandler.fuzzyRemoveIANA iaNAAddrStr dhcpv6TypeStr).noneAccepted routeLookup
          = lookupFuzzyVlanIfName routeLookup := rfl
      rw [lookupRequests, runLookupHandler, hlookup]
      cases lookupFuzzyVlanIfName routeLookup <;> rfl
  | fuzzyRemoveIAPD _ _ => cases hinterface

theorem mem_lookupRequests_iff (hinterface : handler.looksUpInterface = true) :
    request ∈ lookupRequests handler routeLookup ↔
      ∃ path vlanIfName, ComesDownTo routeLookup path ∧ handler.firstQualifying path = some vlanIfName ∧
        request = handler.routeRequest vlanIfName := by
  have hlookup : request ∈ lookupRequests handler routeLookup ↔
      ∃ vlanIfName, lookupIfName handler.accepts handler.noneAccepted routeLookup = .ok vlanIfName ∧
        request = handler.routeRequest vlanIfName := by
    rw [lookupRequests_eq hinterface]
    cases lookupIfName handler.accepts handler.noneAccepted routeLookup <;> simp
  rw [hlookup]
  constructor
  · rintro ⟨vlanIfName, hfound, heq⟩
    obtain ⟨path, hdown, hfirst⟩ := lookupIfName_eq_ok_iff.mp hfound
    exact ⟨path, vlanIfName, hdown, hfirst, heq⟩
  · rintro ⟨path, vlanIfName, hdown, hfirst, heq⟩
    exact ⟨vlanIfName, lookupIfName_eq_ok_iff.mpr ⟨path, hdown, hfirst⟩, heq⟩

/-- The one route command of the request names what was looked up. -/
theorem routeDst_of_mem_routeRequest {command : Command} {dst : String}
    (hmem : command ∈ (handler.routeRequest vlanIfName).cliCommands) (hdst : command.routeDst? = some dst) :
    dst = vlanIfName := by
  have hdsts : ∀ name ∈ (handler.routeRequest vlanIfName).cliCommands.filterMap Command.routeDst?,
      name = vlanIfName := by
    cases handler <;> simp [LookupHandler.routeRequest, Request.cliCommands, Command.routeDst?]
  exact hdsts dst (List.mem_filterMap.mpr ⟨command, hmem, hdst⟩)

theorem not_hasManyRows_of_hasSingleRows (hsingle : HasSingleRows routeLookup path) :
    ¬ HasManyRows routeLookup := by
  obtain ⟨vrfRow, addrfRow, prefixRow, hvrf, haddrf, htable, hpath⟩ := hsingle
  simp [HasManyRows, RowAddr.prefixRows, hvrf, haddrf, htable, hpath]

/-- A reply that comes down to one path has single rows throughout or is taken by its first prefix. -/
theorem hasSingleRows_of_comesDownTo (hdown : ComesDownTo routeLookup path)
    (hfirst : handler.firstQualifying path = some vlanIfName)
    (hfirstPrefix : ¬ TakesFirstPrefix handler routeLookup) : HasSingleRows routeLookup path := by
  obtain ⟨vrfRow, addrfRow, prefixRow, rest, hvrf, haddrf, htable, hpath⟩ := hdown
  cases rest with
  | nil => exact ⟨vrfRow, addrfRow, prefixRow, hvrf, haddrf, htable, hpath⟩
  | cons second rest =>
      refine absurd ⟨vrfRow, addrfRow, prefixRow, second, rest, path, hvrf, haddrf, htable, hpath, ?_⟩
        hfirstPrefix
      simp [hfirst]

/-- A continuation that looks an interface up refuses an ambiguous reply exactly when the reply is not taken by
the first of several prefixes. -/
theorem refusesAmbiguous_iff (handler : LookupHandler) (routeLookup : RouteLookupResponse)
    (hinterface : handler.looksUpInterface = true) :
    RefusesAmbiguous handler routeLookup ↔ ¬ TakesFirstPrefix handler routeLookup := by
  constructor
  · intro hrefuses htakes
    obtain ⟨vrfRow, addrfRow, first, second, rest, path, hvrf, haddrf, htable, hpath, hfirst⟩ := htakes
    obtain ⟨vlanIfName, hname⟩ := Option.isSome_iff_exists.mp hfirst
    have hdown : ComesDownTo routeLookup path :=
      ⟨vrfRow, addrfRow, first, second :: rest, hvrf, haddrf, htable, hpath⟩
    have hsent : handler.routeRequest vlanIfName ∈ lookupRequests handler routeLookup :=
      (mem_lookupRequests_iff hinterface).mpr ⟨path, vlanIfName, hdown, hname, rfl⟩
    have hmany : HasManyRows routeLookup := by
      simp [HasManyRows, RowAddr.prefixRows, hvrf, haddrf, htable]
    rw [hrefuses.refused hmany] at hsent
    exact List.not_mem_nil hsent
  · intro htakes
    have hsingle : ∀ request ∈ lookupRequests handler routeLookup, ∃ path vlanIfName,
        HasSingleRows routeLookup path ∧ handler.firstQualifying path = some vlanIfName ∧
          request = handler.routeRequest vlanIfName := by
      intro request hmem
      obtain ⟨path, vlanIfName, hdown, hfirst, heq⟩ := (mem_lookupRequests_iff hinterface).mp hmem
      exact ⟨path, vlanIfName, hasSingleRows_of_comesDownTo hdown hfirst htakes, hfirst, heq⟩
    refine ⟨fun request hmem command hcommand dst hdst => ?_, fun hmany => ?_⟩
    · obtain ⟨path, vlanIfName, hrows, hfirst, rfl⟩ := hsingle request hmem
      rw [routeDst_of_mem_routeRequest hcommand hdst]
      exact ⟨path, hrows, hfirst⟩
    · rw [List.eq_nil_iff_forall_not_mem]
      intro request hmem
      obtain ⟨path, vlanIfName, hrows, -, -⟩ := hsingle request hmem
      exact not_hasManyRows_of_hasSingleRows hrows hmany

end Refuses

/-! ### What the decoder makes -/

section Decoded

variable {value : Json} {reply : Reply} {routeLookup : RouteLookupResponse} {handler : LookupHandler}

theorem tablePrefix_of_fromJson {addrfRow : RowAddr} (hrow : RowAddr.fromJson value = .ok addrfRow) :
    addrfRow.tablePrefix = none ∨ ∃ prefixRow, addrfRow.tablePrefix = some [prefixRow] := by
  rw [RowAddr.fromJson_eq] at hrow
  obtain ⟨addrf, rfl | ⟨prefixRow, -, -, rfl⟩⟩ := decodeNamedRow_eq_ok hrow
  · exact .inl rfl
  · exact .inr ⟨prefixRow, rfl⟩

theorem fromJson_of_mem_tableAddrf {vrfRow : RowVrf} {addrfRow : RowAddr}
    (hrow : RowVrf.fromJson value = .ok vrfRow) (hmem : addrfRow ∈ vrfRow.tableAddrf) :
    ∃ source, RowAddr.fromJson source = .ok addrfRow := by
  rw [RowVrf.fromJson_eq] at hrow
  obtain ⟨vrfNameOut, rfl | ⟨only, source, honly, rfl⟩⟩ := decodeNamedRow_eq_ok hrow
  · exact absurd hmem List.not_mem_nil
  · obtain rfl := List.mem_singleton.mp hmem
    exact ⟨source, honly⟩

theorem fromJson_of_mem_tableVrf {vrfRow : RowVrf} (hvalue : RouteLookupResponse.fromJson value = .ok routeLookup)
    (hmem : vrfRow ∈ routeLookup.tableVrf) : ∃ source, RowVrf.fromJson source = .ok vrfRow := by
  rw [RouteLookupResponse.fromJson] at hvalue
  cases htable : value.find? "TABLE_vrf" with
  | none =>
      simp only [htable] at hvalue
      obtain rfl := Outcome.ok.inj hvalue
      exact absurd hmem List.not_mem_nil
  | some table =>
      simp only [htable] at hvalue
      obtain ⟨rows, hrows, hmake⟩ := Outcome.bind_eq_ok_iff.mp hvalue
      obtain ⟨only, source, honly, rfl⟩ := decodeCopiedTable_eq_ok hrows
      obtain rfl := Outcome.ok.inj hmake
      obtain rfl := List.mem_singleton.mp hmem
      exact ⟨source, honly⟩

theorem fromJson_of_decodeRouteLookup (hdecode : decodeRouteLookup reply = .ok routeLookup) :
    ∃ value, RouteLookupResponse.fromJson value = .ok routeLookup := by
  rw [decodeRouteLookup] at hdecode
  cases hempty : (reply.response.getD []).isEmpty with
  | true => simp [hempty] at hdecode
  | false =>
      simp only [hempty, Bool.false_eq_true, if_false] at hdecode
      obtain ⟨value, -, hvalue⟩ := Outcome.bind_eq_ok_iff.mp hdecode
      cases hrows : RouteLookupResponse.fromJson value with
      | ok response =>
          rw [hrows] at hvalue
          obtain rfl := Outcome.ok.inj hvalue
          exact ⟨value, hrows⟩
      | throw error => simp [hrows] at hvalue
      | undefined => simp [hrows] at hvalue

/-- No reply of the decoder has several prefixes. -/
theorem not_takesFirstPrefix_of_decoded (hdecode : decodeRouteLookup reply = .ok routeLookup) :
    ¬ TakesFirstPrefix handler routeLookup := by
  rintro ⟨vrfRow, addrfRow, first, second, rest, path, hvrf, haddrf, htable, -, -⟩
  obtain ⟨value, hvalue⟩ := fromJson_of_decodeRouteLookup hdecode
  obtain ⟨vrfSource, hvrfRow⟩ := fromJson_of_mem_tableVrf hvalue (hvrf ▸ List.mem_singleton_self vrfRow)
  obtain ⟨addrfSource, haddrfRow⟩ :=
    fromJson_of_mem_tableAddrf hvrfRow (haddrf ▸ List.mem_singleton_self addrfRow)
  obtain hnone | ⟨prefixRow, hone⟩ := tablePrefix_of_fromJson haddrfRow
  · simp [htable] at hnone
  · simp [htable] at hone

end Decoded

/-- **Ambiguous replies.** Whatever the switch replies, what is decoded from it is refused by the continuations
that look an interface up if one of its tables has several rows, and otherwise they name the first interface of
its one path that qualifies. -/
theorem refusesAmbiguous_of_decoded (handler : LookupHandler) (hinterface : handler.looksUpInterface = true)
    (reply : Reply) (routeLookup : RouteLookupResponse) (hdecode : decodeRouteLookup reply = .ok routeLookup) :
    RefusesAmbiguous handler routeLookup :=
  (refusesAmbiguous_iff handler routeLookup hinterface).mpr (not_takesFirstPrefix_of_decoded hdecode)

/-! A relay address that the switch routes over one interface, or over two paths. -/

def pathOver (ifName : String) : RowPath := ⟨[none], [some ifName]⟩

def replyOver (prefixRows : List RowPrefix) : RouteLookupResponse :=
  ⟨[⟨"default", [⟨"ipv6", some prefixRows⟩]⟩]⟩

def relayPrefix (ifName : String) : RowPrefix := ⟨"2001:db8::/64", true, [pathOver ifName]⟩

def relayExport : LookupHandler := .applyIANA "2001:db8::5/128" "2001:db8::1/128" "IA_NA"

def pathsPrefix (ifNames : List String) : RowPrefix := ⟨"2001:db8::/64", true, ifNames.map pathOver⟩

def pathsReply (ifNames : List String) : Reply where
  response := some [⟨.int 1, .object [("body", .object [("TABLE_vrf", .object [("ROW_vrf", .object
    [("vrf-name-out", .string "default"), ("TABLE_addrf", .object [("ROW_addrf", .object
      [("addrf", .string "ipv6"), ("TABLE_prefix", .object [("ROW_prefix", .object
        [("ipprefix", .string "2001:db8::/64"), ("attached", .string "true"),
          ("TABLE_path", .array (ifNames.map fun ifName =>
            .object [("ROW_path", .object [("ifname", .string ifName)])]))])])])])])])])]⟩]
  responseError := .success
  statusCode := 200
  jsonRpcException := none

theorem refusesAmbiguous_of_decoded_twoPaths :
    (∀ request ∈ lookupRequests relayExport (replyOver [pathsPrefix ["Vlan10"]]), ∀ command ∈ request.cliCommands,
      ∀ vlanIfName, command.routeDst? = some vlanIfName → ∃ path,
        HasSingleRows (replyOver [pathsPrefix ["Vlan10"]]) path ∧
          relayExport.firstQualifying path = some vlanIfName) ∧
      HasManyRows (replyOver [pathsPrefix ["Vlan10", "Vlan20"]]) ∧
      lookupRequests relayExport (replyOver [pathsPrefix ["Vlan10", "Vlan20"]]) = [] := by
  have hone := refusesAmbiguous_of_decoded relayExport rfl (pathsReply ["Vlan10"]) _ rfl
  have htwo := refusesAmbiguous_of_decoded relayExport rfl (pathsReply ["Vlan10", "Vlan20"]) _ rfl
  have hmany : HasManyRows (replyOver [pathsPrefix ["Vlan10", "Vlan20"]]) := by
    simp [HasManyRows, RowAddr.prefixRows, replyOver, pathsPrefix]
  exact ⟨hone.single, hmany, htwo.refused hmany⟩

end NxosExporter
