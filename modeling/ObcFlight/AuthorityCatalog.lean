import ObcFlight.AuthorityTypes
import ObcFlight.SortedSearch
import Mathlib.Data.List.Chain

/-!
# The command authority catalog

COMMAND_AUTHORITY_CATALOG is a table of opcodes sorted for a hand-written binary
search. The names of the commands are documentation only and are left out; the
class and the resource label travel with the decision.
-/

namespace ObcFlight

structure CommandAuthorityCatalogEntry where
  opcode : UInt32
  commandClass : AuthorityCommandClass
  resource : AuthorityResourceLabel
  uhfBackupAllowed : Bool
  deriving DecidableEq

instance : Inhabited CommandAuthorityCatalogEntry := ⟨⟨0, .unknown, .none, false⟩⟩

def commandAuthorityCatalog : List CommandAuthorityCatalogEntry :=
  [⟨16777216, .devInternal, .commandDispatch, false⟩,
   ⟨16777217, .devInternal, .commandDispatch, false⟩,
   ⟨16777218, .devInternal, .commandDispatch, false⟩,
   ⟨16777219, .configUpdate, .commandDispatch, false⟩,
   ⟨16781312, .configUpdate, .eventFilter, false⟩, ⟨16781314, .configUpdate, .eventFilter, false⟩,
   ⟨16781315, .configUpdate, .eventFilter, false⟩, ⟨16785408, .configUpdate, .health, false⟩,
   ⟨16785409, .configUpdate, .health, false⟩, ⟨16785410, .configUpdate, .health, false⟩,
   ⟨16789504, .readStatus, .commandDispatch, false⟩,
   ⟨16789505, .readStatus, .commandDispatch, false⟩,
   ⟨83890176, .fileTransfer, .fileTransferSession, false⟩,
   ⟨83890177, .fileTransfer, .fileTransferSession, false⟩,
   ⟨83890178, .fileTransfer, .fileTransferSession, false⟩,
   ⟨83894272, .fileTransfer, .fileTransferSession, false⟩,
   ⟨83894273, .fileTransfer, .fileTransferSession, false⟩,
   ⟨83894274, .fileTransfer, .fileTransferSession, false⟩,
   ⟨83894275, .fileTransfer, .fileTransferSession, false⟩,
   ⟨83894276, .fileTransfer, .fileTransferSession, false⟩,
   ⟨83894277, .fileTransfer, .fileTransferSession, false⟩,
   ⟨83894278, .fileTransfer, .fileTransferSession, false⟩,
   ⟨83894279, .fileTransfer, .fileTransferSession, false⟩,
   ⟨83898368, .configUpdate, .configStore, false⟩, ⟨83898369, .configUpdate, .configStore, false⟩,
   ⟨83898370, .configUpdate, .configStore, false⟩, ⟨268632064, .modeChange, .modeState, false⟩,
   ⟨268632065, .readStatus, .modeState, true⟩, ⟨268633344, .configUpdate, .modeState, false⟩,
   ⟨268633345, .configUpdate, .modeState, false⟩, ⟨268633346, .configUpdate, .modeState, false⟩,
   ⟨268633347, .readStatus, .modeState, true⟩, ⟨268636160, .configUpdate, .health, false⟩,
   ⟨268636161, .configUpdate, .health, false⟩, ⟨268636162, .readStatus, .health, true⟩,
   ⟨268636163, .configUpdate, .health, false⟩, ⟨268636164, .configUpdate, .health, false⟩,
   ⟨268637440, .readStatus, .health, true⟩, ⟨268640256, .cspTraffic, .csp, false⟩,
   ⟨268640257, .cspTraffic, .csp, false⟩, ⟨268640258, .cspTraffic, .csp, false⟩,
   ⟨268644352, .readStatus, .eps, true⟩, ⟨268644353, .powerControl, .eps, false⟩,
   ⟨268644354, .powerControl, .eps, false⟩, ⟨268644355, .reset, .eps, false⟩,
   ⟨268648448, .adcsControl, .adcs, false⟩, ⟨268648449, .adcsControl, .adcs, false⟩,
   ⟨268648450, .readStatus, .adcs, true⟩, ⟨268648451, .adcsControl, .adcs, false⟩,
   ⟨268652544, .commControl, .commLink, false⟩, ⟨268652545, .commControl, .commLink, false⟩,
   ⟨268652546, .commControl, .commLink, false⟩, ⟨268652547, .readStatus, .commLink, true⟩,
   ⟨268656640, .commControl, .radio, false⟩, ⟨268656641, .commControl, .radio, false⟩,
   ⟨268656642, .commControl, .radio, false⟩, ⟨268656643, .readStatus, .radio, true⟩,
   ⟨268664832, .readStatus, .boot, true⟩, ⟨268664833, .configUpdate, .boot, false⟩,
   ⟨268664834, .configUpdate, .boot, false⟩, ⟨268664835, .configUpdate, .boot, false⟩,
   ⟨268664836, .configUpdate, .boot, false⟩, ⟨268664837, .configUpdate, .boot, false⟩,
   ⟨268664838, .readStatus, .boot, true⟩, ⟨268664839, .readStatus, .boot, true⟩,
   ⟨268666112, .readStatus, .health, true⟩, ⟨268673024, .payloadControl, .payload, false⟩,
   ⟨268673025, .payloadControl, .payload, false⟩, ⟨268673027, .payloadControl, .payload, false⟩,
   ⟨268673028, .payloadControl, .payload, false⟩, ⟨268673029, .readStatus, .payload, true⟩,
   ⟨268673030, .payloadControl, .payload, false⟩, ⟨268673031, .payloadControl, .payload, false⟩,
   ⟨268673032, .payloadControl, .payload, false⟩, ⟨268673033, .payloadControl, .payload, false⟩,
   ⟨268673034, .payloadControl, .payload, false⟩, ⟨268673035, .readStatus, .payload, true⟩,
   ⟨268673036, .readStatus, .payload, true⟩, ⟨268673037, .readStatus, .payload, true⟩,
   ⟨268673038, .payloadControl, .payload, false⟩, ⟨268673039, .payloadControl, .payload, false⟩,
   ⟨268673040, .payloadControl, .payload, false⟩, ⟨268677120, .readStatus, .gps, true⟩,
   ⟨268677121, .configUpdate, .gps, false⟩, ⟨268681216, .readStatus, .storage, true⟩,
   ⟨268693504, .dataProduct, .dataProducts, false⟩, ⟨268693505, .readStatus, .dataProducts, true⟩,
   ⟨268693506, .configUpdate, .dataProducts, false⟩,
   ⟨268693507, .configUpdate, .dataProducts, false⟩,
   ⟨268697600, .dataProduct, .dataProducts, false⟩,
   ⟨268697601, .dataProduct, .dataProducts, false⟩,
   ⟨268697602, .dataProduct, .dataProducts, false⟩,
   ⟨268697603, .dataProduct, .dataProducts, false⟩,
   ⟨268701696, .configUpdate, .dataProducts, false⟩,
   ⟨268705792, .configUpdate, .dataProducts, false⟩, ⟨268730368, .readStatus, .health, true⟩,
   ⟨268738560, .fileTransfer, .fileTransferSession, true⟩,
   ⟨268738561, .fileTransfer, .fileTransferSession, true⟩,
   ⟨268738562, .fileTransfer, .fileTransferSession, true⟩,
   ⟨268738563, .fileTransfer, .fileTransferSession, true⟩,
   ⟨268738564, .fileTransfer, .fileTransferSession, true⟩,
   ⟨268738565, .fileTransfer, .fileTransferSession, true⟩,
   ⟨268738566, .readStatus, .fileTransferSession, true⟩,
   ⟨268742656, .fileTransfer, .fileTransferSession, false⟩,
   ⟨268742657, .fileTransfer, .fileTransferSession, false⟩,
   ⟨268742658, .fileTransfer, .fileTransferSession, false⟩,
   ⟨268742659, .fileTransfer, .fileTransferSession, false⟩,
   ⟨268742660, .fileTransfer, .fileTransferSession, false⟩,
   ⟨268742661, .fileTransfer, .fileTransferSession, false⟩,
   ⟨268742662, .fileTransfer, .fileTransferSession, false⟩,
   ⟨268742663, .fileTransfer, .fileTransferSession, false⟩,
   ⟨268746752, .fileTransfer, .fileTransferSession, false⟩,
   ⟨268746753, .fileTransfer, .fileTransferSession, false⟩,
   ⟨268746754, .fileTransfer, .fileTransferSession, false⟩,
   ⟨268746755, .fileTransfer, .fileTransferSession, false⟩,
   ⟨268746756, .fileTransfer, .fileTransferSession, false⟩,
   ⟨268746757, .fileTransfer, .fileTransferSession, false⟩,
   ⟨268746758, .fileTransfer, .fileTransferSession, false⟩,
   ⟨268746759, .fileTransfer, .fileTransferSession, false⟩,
   ⟨268750848, .fileTransfer, .fileTransferSession, false⟩,
   ⟨268750849, .readStatus, .fileTransferSession, true⟩,
   ⟨268763136, .configUpdate, .health, false⟩]

def findCommandAuthorityCatalogEntry (opcode : UInt32) : Option CommandAuthorityCatalogEntry :=
  searchTable (fun entry => entry.opcode.toNat) commandAuthorityCatalog opcode.toNat

def evaluateCommandAuthority (config : AuthorityConfig) (opcode : UInt32) : AuthorityDecision :=
  if !config.valid then { reason := .invalidConfig, response := .executionError }
  else
    match findCommandAuthorityCatalogEntry opcode with
    | none =>
      if isCommManagedAuthority config then
        { reason := .unknownOpcodeRestricted, response := .invalidOpcode }
      else { allow := true, reason := .none, response := .ok }
    | some entry =>
      if !isRestrictedAuthority config || entry.uhfBackupAllowed then
        { allow := true, reason := .none, response := .ok, commandClass := entry.commandClass,
          resource := entry.resource }
      else
        { reason := .policyDenied, response := .validationError,
          commandClass := entry.commandClass, resource := entry.resource }

theorem commandAuthorityCatalog_sorted :
    commandAuthorityCatalog.Pairwise fun a b => a.opcode.toNat < b.opcode.toNat := by
  have hc : (commandAuthorityCatalog.map fun e => e.opcode.toNat).IsChain (· < ·) := by
    decide +kernel
  exact List.pairwise_map.mp (List.isChain_iff_pairwise.mp hc)

theorem findCommandAuthorityCatalogEntry_eq_some_iff (opcode : UInt32)
    (e : CommandAuthorityCatalogEntry) :
    findCommandAuthorityCatalogEntry opcode = some e ↔
      e ∈ commandAuthorityCatalog ∧ e.opcode = opcode := by
  rw [findCommandAuthorityCatalogEntry,
    searchTable_eq_some_iff _ _ _ _ commandAuthorityCatalog_sorted, UInt32.toNat_inj]

/-- On a COMM-managed link the verdict is positive exactly for listed commands
that the role may issue. -/
theorem evaluateCommandAuthority_allow_iff (c : AuthorityConfig) (o : UInt32)
    (hvl : c.valid = true) (hc : isCommManagedAuthority c = true) :
    (evaluateCommandAuthority c o).allow = true ↔
      ∃ e ∈ commandAuthorityCatalog, e.opcode = o ∧
        (c.role = .backup → e.uhfBackupAllowed = true) := by
  cases hf : findCommandAuthorityCatalogEntry o with
  | none =>
    simp only [evaluateCommandAuthority, hvl, hf, hc]
    constructor
    · intro h
      cases h
    · rintro ⟨e, hmem, hop, -⟩
      rw [(findCommandAuthorityCatalogEntry_eq_some_iff o e).mpr ⟨hmem, hop⟩] at hf
      cases hf
  | some e =>
    obtain ⟨hmem, hop⟩ := (findCommandAuthorityCatalogEntry_eq_some_iff o e).mp hf
    have hal : (evaluateCommandAuthority c o).allow = true ↔
        (c.role = .backup → e.uhfBackupAllowed = true) := by
      simp only [evaluateCommandAuthority, isRestrictedAuthority, hvl, hf, hc]
      by_cases hr : c.role = .backup <;> cases hb : e.uhfBackupAllowed <;> simp [hr]
    rw [hal]
    constructor
    · intro h
      exact ⟨e, hmem, hop, h⟩
    · rintro ⟨l, hm', hop', h⟩
      rw [(findCommandAuthorityCatalogEntry_eq_some_iff o l).mpr ⟨hm', hop'⟩] at hf
      cases hf
      exact h

end ObcFlight
