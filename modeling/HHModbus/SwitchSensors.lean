import HHModbus.Switch

/-!
The entries of `get_switch_sensors` for hybrid inverters whose registers the results are
about, with the keys `switch.async_setup_entry` copies from the group to each entity.
-/
namespace HHModbus

/-- Register 43110, the storage mode bits. -/
def storageModeSwitches : List SwitchDefinition := [
  { name := "Self-Use Mode", register := 43110, bitPosition := some 0, conflictsWith := [2, 6, 11] },
  { name := "Time of Use", register := 43110, bitPosition := some 1, requiresAny := [0, 6],
    touV1 := true },
  { name := "Off-Grid Mode", register := 43110, bitPosition := some 2,
    conflictsWith := [0, 1, 4, 6, 11] },
  { name := "Battery Wakeup Switch", register := 43110, bitPosition := some 3 },
  { name := "Reserve Battery Mode", register := 43110, bitPosition := some 4,
    conflictsWith := [2, 11], requires := [0] },
  { name := "Allow Grid to Charge the Battery", register := 43110, bitPosition := some 5 },
  { name := "Feed-In Priority Mode", register := 43110, bitPosition := some 6,
    conflictsWith := [0, 11] },
  { name := "Batt OVC", register := 43110, bitPosition := some 7 },
  { name := "Battery Forcecharge Peakshaving", register := 43110, bitPosition := some 8 },
  { name := "Battery Current Correction", register := 43110, bitPosition := some 9 },
  { name := "Battery Healing Mode", register := 43110, bitPosition := some 10 },
  { name := "Peak Shaving Mode", register := 43110, bitPosition := some 11,
    conflictsWith := [0, 1, 2, 4, 6] }]

/-- Register 43135, the two remote-control force switches. -/
def rcForceSwitch (name : String) (onValue : Nat) : SwitchDefinition :=
  { name, register := 43135, onValue := some onValue,
    companionWrites := [43136, 43129, 43282], keepAlive := true }

def rcForceBatteryCharge : SwitchDefinition := rcForceSwitch "RC Force Battery Charge" 1

def rcForceBatteryDischarge : SwitchDefinition := rcForceSwitch "RC Force Battery Discharge" 2

end HHModbus
