import Mathlib.Data.List.Basic
import NxosExporter.Command

/-!
# The commands as they are read

What a request body says to whoever reads it: the text of a command is a line of words, and a body is an array of
JSON-RPC calls with a line each. The reading is not the program's; it says what the texts that the program builds are
meant to be.
-/

namespace NxosExporter

open Nlohmann

def Command.words : Command → List String
  | applyRouteIpv6 srcSubnet dstAddr => ["ipv6", "route", srcSubnet, dstAddr]
  | mappingVlanAddrToVlanId vlanAddr => ["show", "ipv6", "route", vlanAddr]
  | showIPv6Neighbour => ["show", "ipv6", "neighbor"]
  | removeRouteIpv6 srcSubnet dstAddr => ["no", "ipv6", "route", srcSubnet, dstAddr]
  | removeNDCacheEntryIpv6 vlanIfName => ["clear", "ipv6", "neighbor", vlanIfName, "force-delete"]
  | uptime => ["show", "version"]

def Command.ofWords : List String → Option Command
  | ["ipv6", "route", srcSubnet, dstAddr] => some (.applyRouteIpv6 srcSubnet dstAddr)
  | ["show", "ipv6", "route", vlanAddr] => some (.mappingVlanAddrToVlanId vlanAddr)
  | ["show", "ipv6", "neighbor"] => some .showIPv6Neighbour
  | ["no", "ipv6", "route", srcSubnet, dstAddr] => some (.removeRouteIpv6 srcSubnet dstAddr)
  | ["clear", "ipv6", "neighbor", vlanIfName, "force-delete"] => some (.removeNDCacheEntryIpv6 vlanIfName)
  | ["show", "version"] => some .uptime
  | _ => none

/-- The words of a line are what stands between its blanks. -/
def wordsOf (line : String) : List String := (line.toList.splitOn ' ').map String.ofList

def readCommand (line : String) : Option Command := Command.ofWords (wordsOf line)

/-- One JSON-RPC call, with its id. -/
def readCall (call : Json) : Option (Int × Command) :=
  match call.find? "jsonrpc", call.find? "method", call.find? "id", (call.find? "params").bind (·.find? "cmd") with
  | some (.string "2.0"), some (.string "cli"), some (.numberInteger id), some (.string line) =>
      (readCommand line).map fun command => (id, command)
  | _, _, _, _ => none

/-- The commands of a request body, with their ids. -/
def readRequest : Json → Option (List (Int × Command))
  | .null => some []
  | .array calls => calls.mapM readCall
  | _ => none

/-- A text without a blank. -/
def IsWord (text : String) : Prop := ' ' ∉ text.toList

instance (text : String) : Decidable (IsWord text) := inferInstanceAs (Decidable (' ' ∉ text.toList))

/-- What the command was built from are words. -/
def Command.IsPlain (command : Command) : Prop := ∀ word ∈ command.words, IsWord word

instance (command : Command) : Decidable command.IsPlain :=
  inferInstanceAs (Decidable (∀ word ∈ command.words, IsWord word))

section RoundTrip

variable {command : Command} {commands : List (Int × Command)} {line word : String} {words : List String}

theorem toList_text (command : Command) :
    command.text.toList = [' '].intercalate (command.words.map String.toList) := by
  cases command with
  | applyRouteIpv6 srcSubnet dstAddr =>
      have htext : (Command.applyRouteIpv6 srcSubnet dstAddr).text = "ipv6 route " ++ srcSubnet ++ " " ++ dstAddr := rfl
      simp [htext, Command.words]
  | mappingVlanAddrToVlanId vlanAddr =>
      have htext : (Command.mappingVlanAddrToVlanId vlanAddr).text = "show ipv6 route " ++ vlanAddr := rfl
      simp [htext, Command.words]
  | showIPv6Neighbour => decide
  | removeRouteIpv6 srcSubnet dstAddr =>
      have htext : (Command.removeRouteIpv6 srcSubnet dstAddr).text
        = "no ipv6 route " ++ srcSubnet ++ " " ++ dstAddr := rfl
      simp [htext, Command.words]
  | removeNDCacheEntryIpv6 vlanIfName =>
      have htext : (Command.removeNDCacheEntryIpv6 vlanIfName).text
        = "clear ipv6 neighbor " ++ vlanIfName ++ " force-delete" := rfl
      simp [htext, Command.words]
  | uptime => decide

/-- What stands between the blanks has none. -/
theorem isWord_of_mem_wordsOf (hmem : word ∈ wordsOf line) : IsWord word := by
  obtain ⟨piece, hpiece, rfl⟩ := List.mem_map.mp hmem
  rw [IsWord, String.toList_ofList]
  clear hmem
  generalize line.toList = chars at hpiece
  induction chars generalizing piece with
  | nil =>
      obtain rfl : piece = [] := by simpa using hpiece
      exact List.not_mem_nil
  | cons c rest ih =>
      rw [List.splitOn_cons_eq_if_modifyHead] at hpiece
      split at hpiece
      · obtain rfl | hrest := List.mem_cons.mp hpiece
        · exact List.not_mem_nil
        · exact ih piece hrest
      · rename_i hne
        obtain ⟨head, tail, hsplit⟩ := List.exists_cons_of_ne_nil (List.splitOn_ne_nil ' ' rest)
        rw [hsplit, List.modifyHead_cons] at hpiece
        obtain rfl | htail := List.mem_cons.mp hpiece
        · have hhead : ' ' ∉ head := ih head (hsplit ▸ List.mem_cons_self)
          intro hblank
          obtain rfl | hblank := List.mem_cons.mp hblank
          · exact hne (beq_self_eq_true ' ')
          · exact hhead hblank
        · exact ih piece (hsplit ▸ List.mem_cons_of_mem head htail)

theorem wordsOf_text (hplain : command.IsPlain) : wordsOf command.text = command.words := by
  have hwords : ∀ piece ∈ command.words.map String.toList, ' ' ∉ piece := by
    intro piece hpiece
    obtain ⟨word, hword, rfl⟩ := List.mem_map.mp hpiece
    exact hplain word hword
  have hnonempty : command.words.map String.toList ≠ [] := by cases command <;> simp [Command.words]
  rw [wordsOf, toList_text, List.splitOn_intercalate ' ' hwords hnonempty, List.map_map]
  simp [Function.comp_def]

theorem ofWords_words (command : Command) : Command.ofWords command.words = some command := by
  cases command <;> rfl

theorem words_of_ofWords (hread : Command.ofWords words = some command) : words = command.words := by
  unfold Command.ofWords at hread
  split at hread <;> cases hread <;> rfl

/-- A text is read as the command that it was built for exactly when it was built from words. -/
theorem readCommand_text_iff : readCommand command.text = some command ↔ command.IsPlain := by
  constructor
  · intro hread word hword
    rw [← words_of_ofWords hread] at hword
    exact isWord_of_mem_wordsOf hword
  · intro hplain
    rw [readCommand, wordsOf_text hplain]
    exact ofWords_words command

theorem mapM_eq_some_iff {α β : Type} {encode : α → β} {decode : β → Option α} {items : List α} :
    (items.map encode).mapM decode = some items ↔ ∀ item ∈ items, decode (encode item) = some item := by
  induction items with
  | nil => simp
  | cons item rest ih =>
      rw [List.forall_mem_cons, ← ih, List.map_cons, List.mapM_cons]
      cases hitem : decode (encode item) <;> cases hrest : (rest.map encode).mapM decode <;> simp

/-- **Round trip.** A request body is read as the commands that it was made of exactly when each of them was built
from words. -/
theorem readRequest_iff :
    readRequest (createRequestFromCommands commands) = some commands ↔ ∀ entry ∈ commands, entry.2.IsPlain := by
  cases commands with
  | nil => simp [createRequestFromCommands, readRequest]
  | cons first rest =>
      have hcall : ∀ entry : Int × Command,
          readCall (.object [("id", .numberInteger entry.1), ("jsonrpc", .string "2.0"), ("method", .string "cli"),
            ("params", .object [("cmd", .string entry.2.text), ("version", .numberInteger 1)])]) = some entry ↔
              entry.2.IsPlain := by
        intro entry
        have hread : readCall (.object [("id", .numberInteger entry.1), ("jsonrpc", .string "2.0"),
            ("method", .string "cli"), ("params", .object [("cmd", .string entry.2.text), ("version", .numberInteger 1)])])
              = (readCommand entry.2.text).map fun command => (entry.1, command) := by
          simp [readCall, Json.find?, List.lookup_cons]
        rw [hread, ← readCommand_text_iff]
        cases readCommand entry.2.text <;> simp [Prod.ext_iff]
      simp only [createRequestFromCommands, List.isEmpty_cons, Bool.false_eq_true, if_false, readRequest]
      rw [mapM_eq_some_iff]
      exact forall₂_congr fun entry _ => hcall entry

end RoundTrip

end NxosExporter
