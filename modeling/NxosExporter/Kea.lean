import NxosExporter.Lib.Prog

/-!
# What the hook library is handed by Kea

Addresses, leases, the lease database and the parts of a query packet that the callouts read. The
lease database answers its two queries in storage order, and both return leases in every state.
-/

namespace NxosExporter

/-- `isc::asiolink::IOAddress`: the exporter compares addresses and prints them, and the text names
the address. -/
class IOAddress (Addr : Type) where
  toText : Addr → String
  toText_injective : Function.Injective toText

/-- An address given by its canonical text, which holds a colon as that of any IPv6 address does. -/
structure TextAddress where
  text : String
  colon : ':' ∈ text.toList
  deriving DecidableEq, Repr

instance : IOAddress TextAddress where
  toText address := address.text
  toText_injective := fun left right h => by
    cases left
    cases right
    simpa using h

structure DUID where
  duid : List UInt8
  deriving DecidableEq, Repr

/-- `isc::dhcp::HWAddr`: its comparison looks at the hardware type and the bytes. -/
structure HWAddr where
  htype : UInt16
  hwaddr : List UInt8
  deriving DecidableEq, Repr

/-! `HWAddr::fromText` splits at colons and reads one or two hexadecimal digits in each part; only a text
without colons may be empty. -/

def hexDigitValue (c : Char) : Option Nat :=
  if '0' ≤ c ∧ c ≤ '9' then some (c.toNat - '0'.toNat)
  else if 'a' ≤ c ∧ c ≤ 'f' then some (c.toNat - 'a'.toNat + 10)
  else if 'A' ≤ c ∧ c ≤ 'F' then some (c.toNat - 'A'.toNat + 10)
  else none

def decodeHexByte (digits : List Char) : Option UInt8 :=
  match digits.mapM hexDigitValue with
  | some [low] => some (UInt8.ofNat low)
  | some [high, low] => some (UInt8.ofNat (16 * high + low))
  | _ => none

def HWAddr.maxHWAddrLen : Nat := 20

def HWAddr.htypeEther : UInt16 := 1

/-- `HWAddr::fromText`; `none` is the exception it raises. -/
def HWAddr.fromText (text : List Char) : Option HWAddr := do
  let bytes ← if text.isEmpty then some [] else (text.splitOn ':').mapM decodeHexByte
  if bytes.length ≤ maxHWAddrLen then some ⟨htypeEther, bytes⟩ else none

inductive LeaseType where
  | typeNA
  | typeTA
  | typePD
  | typeV4
  deriving DecidableEq, Repr

inductive LeaseState where
  | stateDefault
  | stateDeclined
  | stateExpiredReclaimed
  | stateReleased
  deriving DecidableEq, Repr

structure Lease6 (Addr : Type) where
  type : LeaseType
  addr : Addr
  prefixlen : UInt8
  iaid : UInt32
  duid : Option DUID
  hwaddr : Option HWAddr
  subnetId : UInt32
  state : LeaseState
  deriving DecidableEq, Repr

section Lease

variable {Addr : Type}

def Lease6.stateExpiredReclaimed (lease : Lease6 Addr) : Bool :=
  lease.state = .stateExpiredReclaimed

def Lease6.stateDeclined (lease : Lease6 Addr) : Bool :=
  lease.state = .stateDeclined

structure LeaseMgr (Addr : Type) where
  leases : List (Lease6 Addr)
  deriving DecidableEq, Repr

/-- `getLeases6(type, duid, iaid)`: from all subnets and in every state. -/
def LeaseMgr.getLeases6 (leaseMgr : LeaseMgr Addr) (type : LeaseType) (duid : DUID) (iaid : UInt32) :
    List (Lease6 Addr) :=
  leaseMgr.leases.filter fun lease => lease.type = type ∧ lease.duid = some duid ∧ lease.iaid = iaid

def LeaseMgr.getLeases6InSubnet (leaseMgr : LeaseMgr Addr) (subnetId : UInt32) : List (Lease6 Addr) :=
  leaseMgr.leases.filter fun lease => lease.subnetId = subnetId

def Lease6.sameKey [DecidableEq Addr] (key lease : Lease6 Addr) : Bool :=
  lease.type = key.type ∧ lease.addr = key.addr

/-- What Kea does with a lease that was allocated or extended: it is the client's lease of that type. -/
def LeaseMgr.assignLease (leaseMgr : LeaseMgr Addr) (lease : Lease6 Addr) : LeaseMgr Addr :=
  ⟨lease :: leaseMgr.leases.filter fun other =>
    !(other.type = lease.type ∧ other.duid = lease.duid ∧ other.iaid = lease.iaid)⟩

def LeaseMgr.deleteLease [DecidableEq Addr] (leaseMgr : LeaseMgr Addr) (lease : Lease6 Addr) :
    LeaseMgr Addr :=
  ⟨leaseMgr.leases.filter fun other => !lease.sameKey other⟩

def LeaseMgr.declineLease [DecidableEq Addr] (leaseMgr : LeaseMgr Addr) (lease : Lease6 Addr) :
    LeaseMgr Addr :=
  ⟨leaseMgr.leases.map fun other =>
    if lease.sameKey other then { other with state := .stateDeclined } else other⟩

end Lease

/-! The configuration manager hands out the subnets through three pointers, each of which may be
null. -/

/-- `isc::dhcp::CfgSubnets6`; `all` is what `getAll()` returns, as the identifiers of the subnets. -/
structure CfgSubnets6 where
  all : Option (List UInt32)
  deriving DecidableEq, Repr

structure SrvConfig where
  cfgSubnets6 : Option CfgSubnets6
  deriving DecidableEq, Repr

structure CfgMgr where
  currentCfg : Option SrvConfig
  deriving DecidableEq, Repr

structure Option6IAPrefix (Addr : Type) where
  address : Addr
  length : UInt8
  deriving DecidableEq, Repr

/-- `isc::dhcp::Option6IA`, an IA_NA or an IA_PD, with its IAADDR and IAPREFIX suboptions in order. -/
structure Option6IA (Addr : Type) where
  iaid : UInt32
  iaaddr : List Addr
  iaprefix : List (Option6IAPrefix Addr)
  deriving DecidableEq, Repr

/-- `isc::dhcp::Pkt6`: the link addresses of its relays and its IA options, each list in order. -/
structure Pkt6 (Addr : Type) where
  transid : UInt32
  relayInfo : List Addr
  iaNA : List (Option6IA Addr)
  iaPD : List (Option6IA Addr)
  deriving DecidableEq, Repr

section Packet

variable {Addr : Type}

def Pkt6.getOptionIANA (query : Pkt6 Addr) : Option (Option6IA Addr) := query.iaNA.head?

def Pkt6.getOptionIAPD (query : Pkt6 Addr) : Option (Option6IA Addr) := query.iaPD.head?

def Option6IA.getOptionIAADDR (option : Option6IA Addr) : Option Addr := option.iaaddr.head?

def Option6IA.getOptionIAPREFIX (option : Option6IA Addr) : Option (Option6IAPrefix Addr) :=
  option.iaprefix.head?

end Packet

/-! The addresses of the concrete runs, and a client that holds one of them and a delegated prefix. -/

def linkAddress : TextAddress := ⟨"2001:db8::1", by decide⟩

def clientAddress : TextAddress := ⟨"2001:db8::5", by decide⟩

def otherAddress : TextAddress := ⟨"2001:db8::6", by decide⟩

def delegatedPrefix : TextAddress := ⟨"2001:db8:1::", by decide⟩

def addressLease : Lease6 TextAddress :=
  ⟨.typeNA, clientAddress, 128, 1, some ⟨[1]⟩, some ⟨1, [10]⟩, 1, .stateDefault⟩

def prefixLease : Lease6 TextAddress :=
  ⟨.typePD, delegatedPrefix, 64, 1, some ⟨[1]⟩, some ⟨1, [10]⟩, 1, .stateDefault⟩

end NxosExporter
