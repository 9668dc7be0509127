import NxosExporter.Proof.CiscoMac
import NxosExporter.Proof.RestoreFailure

/-!
# The map of the neighbors

The closure of the neighbor lookup goes through the adjacencies of the reply and enters the MAC of each one on
a VLAN interface into the map, over what was there. In the end the map knows the MACs of these adjacencies and
no others, each with the interface of the last one.
-/

namespace NxosExporter

open Effectful Nlohmann

/-- The name of a VLAN interface: `vlan` in any case, and digits. -/
def IsVlanName (ifName : String) : Prop :=
  ∃ word digits, ifName.toList = word ++ digits ∧ word.map Char.toLower = "vlan".toList ∧ digits ≠ [] ∧
    ∀ c ∈ digits, c.isDigit = true

/-- The MAC of the adjacency is written in groups, and these are its bytes. -/
def AdjObject.HasMac (object : AdjObject) (hwAddr : HWAddr) : Prop :=
  ∃ bytes, hwAddr = ⟨HWAddr.htypeEther, bytes⟩ ∧ CiscoText bytes object.mac.toList ∧
    bytes.length ≤ HWAddr.maxHWAddrLen

/-- What the map should hold: the MACs on VLAN interfaces, each with the interface it was last seen on, and
nothing that the other adjacencies of the reply have a part in. -/
structure MapsNeighbors (neighborLookup : NeighborLookupResponse) (mapping : HWAddrMap) : Prop where
  key : ∀ hwAddr, (mapping.find hwAddr).isSome = true ↔
    ∃ object ∈ neighborLookup.objects, IsVlanName object.intfOut ∧ object.HasMac hwAddr
  value : ∀ hwAddr before object after, neighborLookup.objects = before ++ object :: after →
    IsVlanName object.intfOut → object.HasMac hwAddr →
      (∀ later ∈ after, IsVlanName later.intfOut → ¬ later.HasMac hwAddr) →
        mapping.find hwAddr = some object.intfOut
  others : ∀ other : NeighborLookupResponse,
    other.objects.filter (isValidVlanName ·.intfOut)
        = neighborLookup.objects.filter (isValidVlanName ·.intfOut) →
      collectMapping other = .ok mapping

section VlanName

theorem isValidVlanName_iff (ifName : String) : isValidVlanName ifName = true ↔ IsVlanName ifName := by
  constructor
  · intro hvalid
    unfold isValidVlanName at hvalid
    split at hvalid
    · rename_i v l a n digits hname
      simp only [Bool.and_eq_true, decide_eq_true_eq, Bool.not_eq_true', List.isEmpty_eq_false_iff,
        List.all_eq_true] at hvalid
      obtain ⟨⟨hword, hdigits⟩, hall⟩ := hvalid
      exact ⟨[v, l, a, n], digits, hname, hword, hdigits, hall⟩
    · cases hvalid
  · rintro ⟨word, digits, hname, hword, hdigits, hall⟩
    have hlength : word.length = 4 := by simpa using congrArg List.length hword
    match word, hlength with
    | [v, l, a, n], _ =>
        have hlower : [v, l, a, n].map Char.toLower = ['v', 'l', 'a', 'n'] := hword
        simp only [isValidVlanName, hname, List.cons_append, List.nil_append, hlower]
        simpa [hdigits] using hall

end VlanName

section Collect

variable {object : AdjObject} {objects : List AdjObject} {hwAddr : HWAddr}

theorem lookup_filter_ne {key : HWAddr} (hkey : hwAddr ≠ key) (mapping : HWAddrMap) :
    List.lookup hwAddr (mapping.filter fun entry => entry.1 ≠ key) = List.lookup hwAddr mapping := by
  induction mapping with
  | nil => rfl
  | cons entry rest ih =>
      obtain ⟨other, name⟩ := entry
      by_cases hother : other = key
      · have hne : (hwAddr == other) = false := by simpa [hother] using hkey
        rw [List.filter_cons_of_neg (by simp [hother]), ih, List.lookup_cons, hne]
      · rw [List.filter_cons_of_pos (by simp [hother]), List.lookup_cons, List.lookup_cons, ih]

theorem HWAddrMap.find_insert (mapping : HWAddrMap) (key : HWAddr) (value : String) (hwAddr : HWAddr) :
    (mapping.insert key value).find hwAddr = if hwAddr = key then some value else mapping.find hwAddr := by
  rw [HWAddrMap.insert, HWAddrMap.find, HWAddrMap.find, List.lookup_cons]
  by_cases hkey : hwAddr = key
  · simp [hkey]
  · have hne : (hwAddr == key) = false := beq_eq_false_iff_ne.mpr hkey
    rw [hne, if_neg hkey]
    exact lookup_filter_ne hkey mapping

def AdjObject.readMac (object : AdjObject) : Option HWAddr :=
  HWAddr.fromText (insertColons object.mac.toList 0)

/-- The adjacency is entered into the map under the MAC. -/
def AdjObject.entersAs (hwAddr : HWAddr) (object : AdjObject) : Bool :=
  isValidVlanName object.intfOut && object.readMac = some hwAddr

theorem collectObject_of_vlan (hvlan : isValidVlanName object.intfOut = true)
    (hmac : object.readMac = some hwAddr) (mapping : HWAddrMap) :
    collectObject mapping object = .ok (mapping.insert hwAddr object.intfOut) := by
  rw [AdjObject.readMac] at hmac
  simp [collectObject, hvlan, fromRawCiscoString, hmac]

theorem collectObject_of_not_vlan (hvlan : isValidVlanName object.intfOut = false) (mapping : HWAddrMap) :
    collectObject mapping object = .ok mapping := by
  simp [collectObject, hvlan]

/-- One adjacency changes the entry of its own MAC, if it is on a VLAN interface, and no other. -/
theorem collectObject_find (hmac : isValidVlanName object.intfOut = true → object.readMac.isSome = true)
    (mapping : HWAddrMap) :
    ∃ mapping', collectObject mapping object = .ok mapping' ∧ ∀ hwAddr, mapping'.find hwAddr
      = if object.entersAs hwAddr then some object.intfOut else mapping.find hwAddr := by
  cases hvlan : isValidVlanName object.intfOut with
  | false =>
      refine ⟨mapping, collectObject_of_not_vlan hvlan mapping, fun hwAddr => ?_⟩
      simp [AdjObject.entersAs, hvlan]
  | true =>
      obtain ⟨key, hkey⟩ := Option.isSome_iff_exists.mp (hmac hvlan)
      refine ⟨mapping.insert key object.intfOut, collectObject_of_vlan hvlan hkey mapping, fun hwAddr => ?_⟩
      rw [HWAddrMap.find_insert]
      simp [AdjObject.entersAs, hvlan, hkey, eq_comm]

/-- After all of them an entry is that of the last adjacency entered under it. -/
theorem foldlM_collectObject_find
    (hmacs : ∀ object ∈ objects, isValidVlanName object.intfOut = true → object.readMac.isSome = true)
    (mapping : HWAddrMap) :
    ∃ mapping', objects.foldlM collectObject mapping = .ok mapping' ∧ ∀ hwAddr, mapping'.find hwAddr
      = ((objects.reverse.find? (AdjObject.entersAs hwAddr)).map AdjObject.intfOut).or
          (mapping.find hwAddr) := by
  induction objects generalizing mapping with
  | nil => exact ⟨mapping, rfl, fun _ => rfl⟩
  | cons object rest ih =>
      obtain ⟨hobject, hrest⟩ := List.forall_mem_cons.mp hmacs
      obtain ⟨first, hfirst, hfindFirst⟩ := collectObject_find hobject mapping
      obtain ⟨last, hlast, hfindLast⟩ := ih hrest first
      refine ⟨last, ?_, fun hwAddr => ?_⟩
      · rw [List.foldlM_cons, hfirst, Outcome.ok_bind, hlast]
      · rw [hfindLast, hfindFirst, List.reverse_cons, List.find?_append]
        cases rest.reverse.find? (AdjObject.entersAs hwAddr) with
        | some found => simp
        | none => cases henters : object.entersAs hwAddr <;> simp [henters]

theorem foldlM_collectObject_filter (objects : List AdjObject) (mapping : HWAddrMap) :
    (objects.filter (isValidVlanName ·.intfOut)).foldlM collectObject mapping
      = objects.foldlM collectObject mapping := by
  induction objects generalizing mapping with
  | nil => rfl
  | cons object rest ih =>
      cases hvlan : isValidVlanName object.intfOut with
      | false =>
          rw [List.filter_cons_of_neg (by simp [hvlan]), List.foldlM_cons,
            collectObject_of_not_vlan hvlan, Outcome.ok_bind, ih]
      | true =>
          rw [List.filter_cons_of_pos (by simp [hvlan]), List.foldlM_cons, List.foldlM_cons]
          exact bind_congr fun next => ih next

end Collect

section Map

variable {object : AdjObject} {hwAddr : HWAddr} {neighborLookup : NeighborLookupResponse}

theorem readMac_of_hasMac (hmac : object.HasMac hwAddr) : object.readMac = some hwAddr := by
  obtain ⟨bytes, rfl, htext, hlength⟩ := hmac
  have hread := (fromRawCiscoString_of_ciscoText bytes object.mac htext hlength).1
  rw [fromRawCiscoString] at hread
  rw [AdjObject.readMac]
  cases hfromText : HWAddr.fromText (insertColons object.mac.toList 0) <;> simp_all

theorem hasMac_iff_of_exists (hexists : ∃ other, object.HasMac other) :
    object.HasMac hwAddr ↔ object.readMac = some hwAddr := by
  obtain ⟨other, hother⟩ := hexists
  refine ⟨readMac_of_hasMac, fun hread => ?_⟩
  rw [readMac_of_hasMac hother] at hread
  exact Option.some.inj hread ▸ hother

theorem entersAs_iff (hmac : IsVlanName object.intfOut → ∃ other, object.HasMac other) :
    object.entersAs hwAddr = true ↔ IsVlanName object.intfOut ∧ object.HasMac hwAddr := by
  rw [AdjObject.entersAs, Bool.and_eq_true, decide_eq_true_eq, isValidVlanName_iff]
  exact and_congr_right fun hvlan => (hasMac_iff_of_exists (hmac hvlan)).symm

theorem mapsNeighbors_of_find {mapping : HWAddrMap}
    (hmacs : ∀ object ∈ neighborLookup.objects, IsVlanName object.intfOut → ∃ hwAddr, object.HasMac hwAddr)
    (hcollect : collectMapping neighborLookup = .ok mapping)
    (hfind : ∀ hwAddr, mapping.find hwAddr
      = (neighborLookup.objects.reverse.find? (AdjObject.entersAs hwAddr)).map AdjObject.intfOut) :
    MapsNeighbors neighborLookup mapping := by
  refine ⟨fun hwAddr => ?_, fun hwAddr before object after hsplit hvlan hmac hlast => ?_,
    fun other hsame => ?_⟩
  · rw [hfind, Option.isSome_map, List.find?_isSome]
    simp only [List.mem_reverse]
    refine exists_congr fun object => and_congr_right fun hmem => ?_
    exact entersAs_iff (hmacs object hmem)
  · have hobject : object.entersAs hwAddr = true :=
      (entersAs_iff fun _ => ⟨hwAddr, hmac⟩).mpr ⟨hvlan, hmac⟩
    have hafter : after.reverse.find? (AdjObject.entersAs hwAddr) = none := by
      rw [List.find?_eq_none]
      intro later hmem henters
      have hlater : later ∈ after := List.mem_reverse.mp hmem
      have hobjects : later ∈ neighborLookup.objects := by simp [hsplit, hlater]
      obtain ⟨hlaterVlan, hlaterMac⟩ := (entersAs_iff (hmacs later hobjects)).mp henters
      exact hlast later hlater hlaterVlan hlaterMac
    rw [hfind, hsplit, List.reverse_append, List.reverse_cons, List.append_assoc, List.find?_append, hafter]
    simp [hobject]
  · rw [collectMapping_eq, ← foldlM_collectObject_filter, hsame, foldlM_collectObject_filter,
      ← collectMapping_eq, hcollect]

/-- **Neighbors.** When every adjacency on a VLAN interface has a MAC written in groups, the closure of the
neighbor lookup calls the callback once, not as failed, with the map of the reply. -/
theorem hwAddrMappingReply_mapsNeighbors (neighborLookup : NeighborLookupResponse)
    (hmacs : ∀ object ∈ neighborLookup.objects, IsVlanName object.intfOut → ∃ hwAddr, object.HasMac hwAddr) :
    ∃ mapping, MapsNeighbors neighborLookup mapping ∧ collectMapping neighborLookup = .ok mapping ∧
      ∀ reply : Reply, reply.responseError = .success → reply.statusCode = 200 →
        readNeighbors reply = .ok neighborLookup →
          hwAddrMappingReply reply = .emit (.hwAddrMapping mapping false) := by
  have hreadable : ∀ object ∈ neighborLookup.objects, isValidVlanName object.intfOut = true →
      object.readMac.isSome = true := by
    intro object hmem hvlan
    obtain ⟨hwAddr, hmac⟩ := hmacs object hmem ((isValidVlanName_iff _).mp hvlan)
    simp [readMac_of_hasMac hmac]
  obtain ⟨mapping, hfold, hfind⟩ := foldlM_collectObject_find hreadable []
  have hcollect : collectMapping neighborLookup = .ok mapping := by rw [collectMapping_eq, hfold]
  refine ⟨mapping, mapsNeighbors_of_find hmacs hcollect fun hwAddr => ?_, hcollect, ?_⟩
  · rw [hfind hwAddr]
    exact Option.or_none
  · intro reply hsuccess hstatus hread
    rw [hwAddrMappingReply_eq hsuccess hstatus, hread]
    simp only [hcollect, Prog.lift_ok_bind]

end Map

/-! One neighbor that moved to another VLAN, and one that is not resolved on a routed port, each in a vrf of its
own: of the tables below, the decoder reads one row. -/

def movedNeighbor (ifName : String) : AdjObject := ⟨ifName, "fe80::5", "f6a5.486e.8AAD"⟩

def unresolvedNeighbor : AdjObject := ⟨"Ethernet1/1", "fe80::6", "incomplete"⟩

def neighborRow (object : AdjObject) : RowVrfNeighborLookup := ⟨"default", [⟨"ipv6", [⟨[object]⟩]⟩]⟩

def movedNeighbors : NeighborLookupResponse :=
  ⟨[neighborRow (movedNeighbor "Vlan10"), neighborRow unresolvedNeighbor, neighborRow (movedNeighbor "vlan20")]⟩

def neighborJson (object : AdjObject) : Json :=
  .object [("ROW_vrf", .object [("vrf-name-out", .string "default"), ("TABLE_afi", .object [("ROW_afi", .object
    [("afi", .string "ipv6"), ("TABLE_adj", .object [("ROW_adj", .object [("ROW_adj", .object
      [("intf-out", .string object.intfOut), ("ipv6-addr", .string object.ipv6Addr),
        ("mac", .string object.mac)])])])])])])]

def movedReply : Reply where
  response := some [⟨.int 1, .object [("body", .object [("TABLE_vrf", .array
    [neighborJson (movedNeighbor "Vlan10"), neighborJson unresolvedNeighbor, neighborJson (movedNeighbor "vlan20")])])]⟩]
  responseError := .success
  statusCode := 200
  jsonRpcException := none

def movedMac : HWAddr := ⟨HWAddr.htypeEther, [0xf6, 0xa5, 0x48, 0x6e, 0x8a, 0xad]⟩

theorem ciscoText_movedNeighbor :
    CiscoText [0xf6, 0xa5, 0x48, 0x6e, 0x8a, 0xad] "f6a5.486e.8AAD".toList :=
  .group ⟨'f', '6', 15, 6, rfl, rfl, rfl, rfl⟩ ⟨'a', '5', 10, 5, rfl, rfl, rfl, rfl⟩
    (.group ⟨'4', '8', 4, 8, rfl, rfl, rfl, rfl⟩ ⟨'6', 'e', 6, 14, rfl, rfl, rfl, rfl⟩
      (.two ⟨'8', 'A', 8, 10, rfl, rfl, rfl, rfl⟩ ⟨'A', 'D', 10, 13, rfl, rfl, rfl, rfl⟩))

theorem hasMac_movedNeighbor (ifName : String) : (movedNeighbor ifName).HasMac movedMac :=
  ⟨_, rfl, ciscoText_movedNeighbor, by decide⟩

/-- The map of the reply knows the one MAC, with the interface of the last row. -/
theorem hwAddrMappingReply_movedNeighbors :
    MapsNeighbors movedNeighbors [(movedMac, "vlan20")] ∧
      hwAddrMappingReply movedReply = .emit (.hwAddrMapping [(movedMac, "vlan20")] false) := by
  have hport : ¬ IsVlanName unresolvedNeighbor.intfOut := by
    rw [← isValidVlanName_iff]
    decide
  have hmacs : ∀ object ∈ movedNeighbors.objects, IsVlanName object.intfOut → ∃ hwAddr, object.HasMac hwAddr := by
    simp only [movedNeighbors, neighborRow, NeighborLookupResponse.objects, List.flatMap_cons, List.flatMap_nil,
      List.append_nil, List.cons_append, List.nil_append, List.forall_mem_cons]
    exact ⟨fun _ => ⟨_, hasMac_movedNeighbor _⟩, fun hvlan => absurd hvlan hport,
      fun _ => ⟨_, hasMac_movedNeighbor _⟩, fun _ hmem => absurd hmem List.not_mem_nil⟩
  obtain ⟨mapping, hmaps, hcollect, hreply⟩ := hwAddrMappingReply_mapsNeighbors movedNeighbors hmacs
  have hmapping : collectMapping movedNeighbors = .ok [(movedMac, "vlan20")] := rfl
  obtain rfl : mapping = [(movedMac, "vlan20")] := Outcome.ok.inj (hcollect.symm.trans hmapping)
  exact ⟨hmaps, hreply movedReply rfl rfl rfl⟩

end NxosExporter
