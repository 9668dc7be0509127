import NxosExporter.HttpClient

/-!
# The commands sent to the switch

Every command text the program builds comes out of one of the functions below, so a command is kept
as what it was built from, and `Command.text` is the text.
-/

namespace NxosExporter

open Nlohmann

inductive Command where
  | applyRouteIpv6 (srcSubnet dstAddr : String)
  | mappingVlanAddrToVlanId (vlanAddr : String)
  | showIPv6Neighbour
  | removeRouteIpv6 (srcSubnet dstAddr : String)
  | removeNDCacheEntryIpv6 (vlanIfName : String)
  | uptime
  deriving DecidableEq, Repr

def Command.text : Command → String
  | applyRouteIpv6 srcSubnet dstAddr => "ipv6 route " ++ srcSubnet ++ " " ++ dstAddr
  | mappingVlanAddrToVlanId vlanAddr => "show ipv6 route " ++ vlanAddr
  | showIPv6Neighbour => "show ipv6 neighbor"
  | removeRouteIpv6 srcSubnet dstAddr => "no ipv6 route " ++ srcSubnet ++ " " ++ dstAddr
  | removeNDCacheEntryIpv6 vlanIfName => "clear ipv6 neighbor " ++ vlanIfName ++ " force-delete"
  | uptime => "show version"

/-- `JsonRpcUtils::createRequestFromCommands`: an array that stays null without commands. -/
def createRequestFromCommands (commands : List (Int × Command)) : Json :=
  if commands.isEmpty then
    .null
  else
    .array (commands.map fun (id, command) =>
      .object [("id", .numberInteger id), ("jsonrpc", .string "2.0"), ("method", .string "cli"),
        ("params", .object [("cmd", .string command.text), ("version", .numberInteger 1)])])

end NxosExporter
