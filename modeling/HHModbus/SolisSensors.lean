import HHModbus.Watchdog

/-!
# The sensors of the Solis inverters

`hybrid_sensors` and `string_sensors` with their derived sensors: of each group the poll profiles
it belongs to and the features it needs, of each entity its key and the registers it shows.
-/
namespace HHModbus

inductive InverterFeature where
  | pv
  | bms
  | smartPort
  | battery
  | grid
  | generator
  | v2
  | tcp
  | hvBattery
  | lvBattery
  | zonneplan
  | acCoupling
  | parallel
  | aux
  | dualMeter
  | epm
  deriving DecidableEq, Repr

structure SolisEntity where
  /-- `unique`; an entity of type "reserve" has none, and no name either. -/
  unique : Option String
  register : List Nat
  editable : Bool := false

structure SensorGroupDefinition where
  registerStart : Nat
  extreme : Bool := false
  extremeBattery : Bool := false
  extremeSmartPort : Bool := false
  essential : Bool := false
  featureRequirement : List InverterFeature := []
  entities : List SolisEntity

namespace SolisEntity

def sensor (unique : String) (register : List Nat) : SolisEntity :=
  { unique := some unique, register }

def editableSensor (unique : String) (register : List Nat) : SolisEntity :=
  { unique := some unique, register, editable := true }

def reserved (register : List Nat) : SolisEntity := { unique := none, register }

end SolisEntity

open SolisEntity

def hybridSensors : List SensorGroupDefinition := [
  { registerStart := 33000, extreme := true, essential := true
    entities := [
      sensor "solis_modbus_inverter_model_no" [33000],
      sensor "solis_modbus_inverter_dsp_version" [33001],
      sensor "solis_modbus_inverter_hmi_version" [33002],
      sensor "solis_modbus_inverter_protocol_version" [33003],
      sensor "solis_modbus_inverter_serial_number" [33004, 33005, 33006, 33007, 33008, 33009,
        33010, 33011, 33012, 33013, 33014, 33015, 33016, 33017, 33018, 33019]] },
  { registerStart := 35000, extreme := true, essential := true
    entities := [
      sensor "solis_modbus_inverter_type_definition" [35000]] },
  { registerStart := 33022, essential := true
    entities := [
      sensor "solis_modbus_inverter_clock_year" [33022],
      sensor "solis_modbus_inverter_clock_month" [33023],
      sensor "solis_modbus_inverter_clock_day" [33024],
      sensor "solis_modbus_inverter_clock_hours" [33025],
      sensor "solis_modbus_inverter_clock_minutes" [33026],
      sensor "solis_modbus_inverter_clock_seconds" [33027]] },
  { registerStart := 33029, essential := true, featureRequirement := [.pv]
    entities := [
      sensor "solis_modbus_inverter_pv_total_generation" [33029, 33030],
      sensor "solis_modbus_inverter_pv_current_month_generation" [33031, 33032],
      sensor "solis_modbus_inverter_pv_last_month_generation" [33033, 33034],
      sensor "solis_modbus_inverter_pv_today_generation" [33035],
      sensor "solis_modbus_inverter_pv_yesterday_generation" [33036],
      sensor "solis_modbus_inverter_pv_this_year_generation" [33037, 33038],
      sensor "solis_modbus_inverter_pv_last_year_generation" [33039, 33040]] },
  { registerStart := 33041, featureRequirement := [.bms]
    entities := [
      sensor "solis_modbus_inverter_max_current" [33041],
      reserved [33042],
      sensor "solis_modbus_inverter_battery_temperature_bms" [33043]] },
  { registerStart := 33049, extreme := true, essential := true, featureRequirement := [.pv]
    entities := [
      sensor "solis_modbus_inverter_dc_voltage_1" [33049],
      sensor "solis_modbus_inverter_dc_current_1" [33050],
      sensor "solis_modbus_inverter_dc_voltage_2" [33051],
      sensor "solis_modbus_inverter_dc_current_2" [33052],
      sensor "solis_modbus_inverter_dc_voltage_3" [33053],
      sensor "solis_modbus_inverter_dc_current_3" [33054],
      sensor "solis_modbus_inverter_dc_voltage_4" [33055],
      sensor "solis_modbus_inverter_dc_current_4" [33056],
      sensor "solis_modbus_inverter_total_dc_output" [33057, 33058]] },
  { registerStart := 33070, essential := true
    entities := [
      sensor "solis_modbus_inverter_alarm_code_data" [33070],
      sensor "solis_modbus_inverter_dc_bus_voltage" [33071],
      sensor "solis_modbus_inverter_dc_bus_half_voltage" [33072],
      sensor "solis_modbus_inverter_a_phase_voltage" [33073],
      sensor "solis_modbus_inverter_b_phase_voltage" [33074],
      sensor "solis_modbus_inverter_c_phase_voltage" [33075],
      sensor "solis_modbus_inverter_a_phase_current" [33076],
      sensor "solis_modbus_inverter_b_phase_current" [33077],
      sensor "solis_modbus_inverter_c_phase_current" [33078],
      sensor "solis_modbus_inverter_active_power" [33079, 33080],
      sensor "solis_modbus_inverter_reactive_power" [33081, 33082],
      sensor "solis_modbus_inverter_apparent_power" [33083, 33084],
      reserved [33085, 33086, 33087, 33088, 33089, 33090, 33091, 33092],
      sensor "solis_modbus_inverter_temperature" [33093],
      sensor "solis_modbus_inverter_grid_frequency" [33094],
      sensor "solis_modbus_inverter_current_status" [33095],
      sensor "solis_modbus_inverter_lead_acid_temp" [33096]] },
  { registerStart := 33116
    entities := [
      sensor "solis_modbus_inverter_grid_fault_status_bits" [33116],
      sensor "solis_modbus_inverter_backup_fault_status_bits" [33117],
      sensor "solis_modbus_inverter_battery_fault_status_bits_word" [33118],
      sensor "solis_modbus_inverter_inverter_fault_status_bits_1" [33119],
      sensor "solis_modbus_inverter_inverter_fault_status_bits_2" [33120],
      sensor "solis_modbus_inverter_operating_status_bits" [33121],
      sensor "solis_modbus_inverter_operating_mode" [33122],
      sensor "solis_modbus_inverter_grid_standard_mode_bits" [33123]] },
  { registerStart := 33126, extreme := true
    entities := [
      sensor "solis_modbus_inverter_meter_total_active_energy" [33126, 33127],
      sensor "solis_modbus_inverter_meter_voltage" [33128],
      sensor "solis_modbus_inverter_meter_current" [33129],
      sensor "solis_modbus_inverter_meter_active_power" [33130, 33131]] },
  { registerStart := 33132, extremeBattery := true, essential := true
    entities := [
      sensor "solis_modbus_inverter_storage_control_switching_value" [33132],
      sensor "solis_modbus_inverter_battery_voltage" [33133],
      sensor "solis_modbus_inverter_battery_current" [33134],
      sensor "solis_modbus_inverter_battery_current_direction" [33135],
      sensor "solis_modbus_inverter_llc_bus_voltage" [33136],
      sensor "solis_modbus_inverter_backup_ac_voltage_phase_a" [33137],
      sensor "solis_modbus_inverter_backup_ac_current_phase_a" [33138],
      sensor "solis_modbus_inverter_battery_soc" [33139],
      sensor "solis_modbus_inverter_battery_soh" [33140],
      sensor "solis_modbus_inverter_battery_voltage_bms" [33141],
      sensor "solis_modbus_inverter_battery_current_bms" [33142],
      sensor "solis_modbus_inverter_battery_charge_current_limitation_bms" [33143],
      sensor "solis_modbus_inverter_battery_discharge_current_limitation_bms" [33144],
      sensor "solis_modbus_inverter_battery_fault_status_1_bms" [33145],
      sensor "solis_modbus_inverter_battery_fault_status_2_bms" [33146],
      sensor "solis_modbus_inverter_household_load_power" [33147],
      sensor "solis_modbus_inverter_backup_load_power" [33148],
      sensor "solis_modbus_inverter_battery_power" [33149, 33150],
      sensor "solis_modbus_inverter_ac_grid_port_power" [33151, 33152],
      sensor "solis_modbus_inverter_backup_ac_voltage_phase_b" [33153],
      sensor "solis_modbus_inverter_backup_ac_current_phase_b" [33154],
      sensor "solis_modbus_inverter_backup_ac_voltage_phase_c" [33155],
      sensor "solis_modbus_inverter_backup_ac_current_phase_c" [33156],
      sensor "solis_modbus_inverter_inverting_rectifying_power" [33157]] },
  { registerStart := 33161, essential := true
    entities := [
      sensor "solis_modbus_inverter_total_battery_charge_energy" [33161, 33162],
      sensor "solis_modbus_inverter_today_battery_charge_energy" [33163],
      sensor "solis_modbus_inverter_yesterday_battery_charge_energy" [33164],
      sensor "solis_modbus_inverter_total_battery_discharge_energy" [33165, 33166],
      sensor "solis_modbus_inverter_today_battery_discharge_energy" [33167],
      sensor "solis_modbus_inverter_yesterday_battery_discharge_energy" [33168],
      sensor "solis_modbus_inverter_total_energy_imported_from_grid" [33169, 33170],
      sensor "solis_modbus_inverter_today_energy_imported_from_grid" [33171],
      sensor "solis_modbus_inverter_yesterday_energy_imported_from_grid" [33172],
      sensor "solis_modbus_inverter_total_energy_fed_into_grid" [33173, 33174],
      sensor "solis_modbus_inverter_today_energy_fed_into_grid" [33175],
      sensor "solis_modbus_inverter_yesterday_energy_fed_into_grid" [33176],
      sensor "solis_modbus_inverter_total_energy_consumption" [33177, 33178],
      sensor "solis_modbus_inverter_today_energy_consumption" [33179],
      sensor "solis_modbus_inverter_yesterday_energy_consumption" [33180],
      reserved [33181, 33182, 33183, 33184, 33185],
      sensor "solis_modbus_inverter_ac_grid_port_total_energy_fed_in" [33186, 33187],
      sensor "solis_modbus_inverter_ac_grid_port_total_energy_consumption" [33188, 33189]] },
  { registerStart := 33243
    entities := [
      sensor "solis_modbus_inverter_parallel_inverter_ac_current" [33243],
      sensor "solis_modbus_inverter_parallel_inverter_ac_voltage" [33244],
      sensor "solis_modbus_inverter_parallel_inverter_power" [33245],
      sensor "solis_modbus_inverter_parallel_ct_detection" [33246],
      sensor "solis_modbus_inverter_epm_setpoint_power" [33247],
      sensor "solis_modbus_inverter_epm_status_bits" [33248],
      sensor "solis_modbus_inverter_epm_backflow_power_realtime" [33249],
      sensor "solis_modbus_inverter_meter_placement_status_bits" [33250]] },
  { registerStart := 34243, featureRequirement := [.parallel]
    entities := [
      sensor "solis_modbus_inverter_parallel_synchronization_setting_parameter_result" [34243]] },
  { registerStart := 34328, featureRequirement := [.smartPort]
    entities := [
      sensor "solis_modbus_inverter_smartport_a_phase_voltage" [34328],
      sensor "solis_modbus_inverter_smartport_b_phase_voltage" [34329],
      sensor "solis_modbus_inverter_smartport_c_phase_voltage" [34330],
      sensor "solis_modbus_inverter_smartport_a_phase_current" [34331],
      sensor "solis_modbus_inverter_smartport_b_phase_current" [34332],
      sensor "solis_modbus_inverter_smartport_c_phase_current" [34333]] },
  { registerStart := 34391, extremeSmartPort := true, featureRequirement := [.smartPort]
    entities := [
      sensor "solis_modbus_inverter_smartport_a_active_power" [34391],
      sensor "solis_modbus_inverter_smartport_b_active_power" [34392],
      sensor "solis_modbus_inverter_smartport_c_active_power" [34393]] },
  { registerStart := 33251
    entities := [
      sensor "solis_modbus_inverter_meter_ac_voltage_a" [33251],
      sensor "solis_modbus_inverter_meter_ac_current_a" [33252],
      sensor "solis_modbus_inverter_meter_ac_voltage_b" [33253],
      sensor "solis_modbus_inverter_meter_ac_current_b" [33254],
      sensor "solis_modbus_inverter_meter_ac_voltage_c" [33255],
      sensor "solis_modbus_inverter_meter_ac_current_c" [33256],
      sensor "solis_modbus_inverter_meter_active_power_a" [33257, 33258],
      sensor "solis_modbus_inverter_meter_active_power_b" [33259, 33260],
      sensor "solis_modbus_inverter_meter_active_power_c" [33261, 33262],
      sensor "solis_modbus_inverter_meter_total_active_power" [33263, 33264],
      sensor "solis_modbus_inverter_meter_reactive_power_a" [33265, 33266],
      sensor "solis_modbus_inverter_meter_reactive_power_b" [33267, 33268],
      sensor "solis_modbus_inverter_meter_reactive_power_c" [33269, 33270],
      sensor "solis_modbus_inverter_meter_total_reactive_power" [33271, 33272],
      sensor "solis_modbus_inverter_meter_apparent_power_a" [33273, 33274],
      sensor "solis_modbus_inverter_meter_apparent_power_b" [33275, 33276],
      sensor "solis_modbus_inverter_meter_apparent_power_c" [33277, 33278],
      sensor "solis_modbus_inverter_meter_total_apparent_power" [33279, 33280],
      sensor "solis_modbus_inverter_meter_power_factor" [33281],
      sensor "solis_modbus_inverter_meter_grid_frequency" [33282],
      sensor "solis_modbus_inverter_meter_total_active_energy_from_grid" [33283, 33284],
      sensor "solis_modbus_inverter_meter_total_active_energy_to_grid" [33285, 33286]] },
  { registerStart := 33289
    entities := [
      sensor "solis_modbus_inverter_tou_function_version" [33289]] },
  { registerStart := 33300, featureRequirement := [.dualMeter]
    entities := [
      sensor "solis_modbus_inverter_meter1_type_location" [33300],
      sensor "solis_modbus_inverter_meter2_type_location" [33301],
      sensor "solis_modbus_inverter_meter2_ac_voltage_a" [33302],
      sensor "solis_modbus_inverter_meter2_ac_current_a" [33303],
      sensor "solis_modbus_inverter_meter2_ac_voltage_b" [33304],
      sensor "solis_modbus_inverter_meter2_ac_current_b" [33305],
      sensor "solis_modbus_inverter_meter2_ac_voltage_c" [33306],
      sensor "solis_modbus_inverter_meter2_ac_current_c" [33307],
      sensor "solis_modbus_inverter_meter2_active_power_a" [33308, 33309],
      sensor "solis_modbus_inverter_meter2_active_power_b" [33310, 33311],
      sensor "solis_modbus_inverter_meter2_active_power_c" [33312, 33313],
      sensor "solis_modbus_inverter_meter2_total_active_power" [33314, 33315]] },
  { registerStart := 33316, featureRequirement := [.dualMeter]
    entities := [
      sensor "solis_modbus_inverter_meter2_reactive_power_a" [33316, 33317],
      sensor "solis_modbus_inverter_meter2_reactive_power_b" [33318, 33319],
      sensor "solis_modbus_inverter_meter2_reactive_power_c" [33320, 33321],
      sensor "solis_modbus_inverter_meter2_total_reactive_power" [33322, 33323],
      sensor "solis_modbus_inverter_meter2_apparent_power_a" [33324, 33325],
      sensor "solis_modbus_inverter_meter2_apparent_power_b" [33326, 33327],
      sensor "solis_modbus_inverter_meter2_apparent_power_c" [33328, 33329],
      sensor "solis_modbus_inverter_meter2_total_apparent_power" [33330, 33331],
      sensor "solis_modbus_inverter_meter2_power_factor" [33332],
      sensor "solis_modbus_inverter_meter2_grid_frequency" [33333],
      sensor "solis_modbus_inverter_meter2_total_active_energy_from_grid" [33334, 33335],
      sensor "solis_modbus_inverter_meter2_total_active_energy_to_grid" [33336, 33337]] },
  { registerStart := 33512
    entities := [
      sensor "solis_modbus_inverter_ac_grid_port_active_power_phase_a" [33512],
      reserved [33513, 33514],
      sensor "solis_modbus_inverter_ac_grid_port_active_power_phase_b" [33515],
      reserved [33516, 33517],
      sensor "solis_modbus_inverter_ac_grid_port_active_power_phase_c" [33518]] },
  { registerStart := 33530, featureRequirement := [.generator]
    entities := [
      sensor "solis_modbus_inverter_generator_phase_a_active_power" [33530],
      sensor "solis_modbus_inverter_generator_today_energy" [33531],
      sensor "solis_modbus_inverter_generator_total_energy" [33532, 33533],
      sensor "solis_modbus_inverter_generator_phase_b_active_power" [33534],
      sensor "solis_modbus_inverter_generator_phase_c_active_power" [33535]] },
  { registerStart := 33580
    entities := [
      sensor "solis_modbus_inverter_household_total_energy" [33580, 33581],
      sensor "solis_modbus_inverter_household_year_energy" [33582, 33583],
      sensor "solis_modbus_inverter_household_month_energy" [33584, 33585],
      sensor "solis_modbus_inverter_household_today_energy" [33586],
      reserved [33587, 33588, 33589],
      sensor "solis_modbus_inverter_backup_total_energy" [33590, 33591],
      sensor "solis_modbus_inverter_backup_year_energy" [33592, 33593],
      sensor "solis_modbus_inverter_backup_month_energy" [33594, 33595],
      sensor "solis_modbus_inverter_backup_today_energy" [33596]] },
  { registerStart := 34445, featureRequirement := [.acCoupling]
    entities := [
      sensor "solis_modbus_inverter_ac_coupling_total_power_generation" [34445, 34446],
      sensor "solis_modbus_inverter_ac_coupling_year_power_generation" [34447, 34448],
      sensor "solis_modbus_inverter_ac_coupling_month_power_generation" [34449, 34450],
      sensor "solis_modbus_inverter_ac_coupling_today_power_generation" [34451],
      sensor "solis_modbus_inverter_ac_coupling_yesterday_power_generation" [34452]] },
  { registerStart := 34496, featureRequirement := [.acCoupling]
    entities := [
      sensor "solis_modbus_inverter_ac_coupling_total_active_power" [34496, 34497]] },
  { registerStart := 43007
    entities := [
      sensor "solis_modbus_inverter_power_state" [43007],
      reserved [43008],
      sensor "solis_modbus_inverter_battery_model" [43009],
      editableSensor "solis_modbus_inverter_overcharge_soc" [43010],
      editableSensor "solis_modbus_inverter_overdischarge_soc" [43011],
      editableSensor "solis_modbus_inverter_max_charge_current" [43012],
      editableSensor "solis_modbus_inverter_max_discharge_current" [43013],
      reserved [43014, 43015],
      editableSensor "solis_modbus_inverter_floating_charge_voltage" [43016],
      editableSensor "solis_modbus_inverter_equalizing_charge_voltage" [43017],
      editableSensor "solis_modbus_inverter_force_charge_soc" [43018],
      editableSensor "solis_modbus_inverter_battery_rated_capacity" [43019],
      editableSensor "solis_modbus_inverter_overdischarge_voltage" [43020],
      editableSensor "solis_modbus_inverter_forcecharge_voltage" [43021],
      reserved [43022, 43023],
      editableSensor "solis_modbus_inverter_backup_soc" [43024],
      reserved [43025, 43026],
      editableSensor "solis_modbus_inverter_battery_force_charge_limit" [43027],
      sensor "solis_modbus_inverter_battery_force_charge_source" [43028]] },
  { registerStart := 43073
    entities := [
      sensor "solis_modbus_inverter_grid_feed_in_switch_value" [43073],
      editableSensor "solis_modbus_inverter_backflow_power" [43074]] },
  { registerStart := 43195
    entities := [
      editableSensor "solis_modbus_inverter_export_calibration" [43195]] },
  { registerStart := 43128
    entities := [
      editableSensor "solis_modbus_inverter_rc_inverter_ac_grid_active_power" [43128],
      editableSensor "solis_modbus_inverter_rc_force_discharge_power" [43129],
      editableSensor "solis_modbus_inverter_battery_charge_limit_power" [43130],
      editableSensor "solis_modbus_inverter_battery_discharge_limit_power" [43131],
      sensor "solis_modbus_inverter_rc_grid_adjustment" [43132],
      editableSensor "solis_modbus_inverter_rc_grid_active_power" [43133],
      editableSensor "solis_modbus_inverter_rc_grid_reactive_power" [43134],
      sensor "solis_modbus_inverter_rc_force_charge_discharge" [43135],
      editableSensor "solis_modbus_inverter_rc_force_charge_power" [43136],
      editableSensor "solis_modbus_inverter_overdischarge_offgrid_soc" [43137]] },
  { registerStart := 43141
    entities := [
      editableSensor "solis_modbus_inverter_time_charging_charge_current" [43141],
      editableSensor "solis_modbus_inverter_time_charging_discharge_current" [43142],
      sensor "solis_modbus_inverter_time_charging_start_hour_slot1" [43143],
      sensor "solis_modbus_inverter_time_charging_start_minute_slot1" [43144],
      sensor "solis_modbus_inverter_time_charging_end_hour_slot1" [43145],
      sensor "solis_modbus_inverter_time_charging_end_minute_slot1" [43146],
      sensor "solis_modbus_inverter_time_discharge_start_hour_slot1" [43147],
      sensor "solis_modbus_inverter_time_discharge_start_minute_slot1" [43148],
      sensor "solis_modbus_inverter_time_discharge_end_hour_slot1" [43149],
      sensor "solis_modbus_inverter_time_discharge_end_minute_slot1" [43150],
      reserved [43151, 43152],
      sensor "solis_modbus_inverter_time_charging_start_hour_slot2" [43153],
      sensor "solis_modbus_inverter_time_charging_start_minute_slot2" [43154],
      sensor "solis_modbus_inverter_time_charging_end_hour_slot2" [43155],
      sensor "solis_modbus_inverter_time_charging_end_minute_slot2" [43156],
      sensor "solis_modbus_inverter_time_discharge_start_hour_slot2" [43157],
      sensor "solis_modbus_inverter_time_discharge_start_minute_slot2" [43158],
      sensor "solis_modbus_inverter_time_discharge_end_hour_slot2" [43159],
      sensor "solis_modbus_inverter_time_discharge_end_minute_slot2" [43160],
      reserved [43161, 43162],
      sensor "solis_modbus_inverter_time_charging_start_hour_slot3" [43163],
      sensor "solis_modbus_inverter_time_charging_start_minute_slot3" [43164],
      sensor "solis_modbus_inverter_time_charging_end_hour_slot3" [43165],
      sensor "solis_modbus_inverter_time_charging_end_minute_slot3" [43166],
      sensor "solis_modbus_inverter_time_discharge_start_hour_slot3" [43167],
      sensor "solis_modbus_inverter_time_discharge_start_minute_slot3" [43168],
      sensor "solis_modbus_inverter_time_discharge_end_hour_slot3" [43169],
      sensor "solis_modbus_inverter_time_discharge_end_minute_slot3" [43170]] },
  { registerStart := 43173
    entities := [
      sensor "solis_modbus_inverter_time_charging_start_hour_slot4" [43173],
      sensor "solis_modbus_inverter_time_charging_start_minute_slot4" [43174],
      sensor "solis_modbus_inverter_time_charging_end_hour_slot4" [43175],
      sensor "solis_modbus_inverter_time_charging_end_minute_slot4" [43176],
      sensor "solis_modbus_inverter_time_discharge_start_hour_slot4" [43177],
      sensor "solis_modbus_inverter_time_discharge_start_minute_slot4" [43178],
      sensor "solis_modbus_inverter_time_discharge_end_hour_slot4" [43179],
      sensor "solis_modbus_inverter_time_discharge_end_minute_slot4" [43180],
      reserved [43181, 43182],
      sensor "solis_modbus_inverter_time_charging_start_hour_slot5" [43183],
      sensor "solis_modbus_inverter_time_charging_start_minute_slot5" [43184],
      sensor "solis_modbus_inverter_time_charging_end_hour_slot5" [43185],
      sensor "solis_modbus_inverter_time_charging_end_minute_slot5" [43186],
      sensor "solis_modbus_inverter_time_discharge_start_hour_slot5" [43187],
      sensor "solis_modbus_inverter_time_discharge_start_minute_slot5" [43188],
      sensor "solis_modbus_inverter_time_discharge_end_hour_slot5" [43189],
      sensor "solis_modbus_inverter_time_discharge_end_minute_slot5" [43190]] },
  { registerStart := 43361
    entities := [
      editableSensor "solis_modbus_inverter_mppt_scanning_interval" [43361],
      reserved [43362],
      sensor "solis_modbus_inverter_generator_forced_start" [43363],
      editableSensor "solis_modbus_inverter_generator_rated_input_power" [43364],
      sensor "solis_modbus_inverter_generator_setting_switch" [43365],
      sensor "solis_modbus_inverter_generator_forced_stop" [43366],
      editableSensor "solis_modbus_inverter_generator_allowed_percentage" [43367],
      editableSensor "solis_modbus_inverter_generator_target_power" [43368],
      editableSensor "solis_modbus_inverter_generator_charging_power" [43369]] },
  { registerStart := 43707
    entities := [
      sensor "solis_modbus_inverter_tou_v2_switch" [43707],
      editableSensor "solis_modbus_inverter_tou_charge_cutoff_charge_1" [43708],
      editableSensor "solis_modbus_inverter_tou_charge_v2_battery_current_1" [43709],
      editableSensor "solis_modbus_inverter_tou_charge_v2_cutoff_voltage_1" [43710],
      sensor "solis_modbus_inverter_tou_charge_start_hour_1" [43711],
      sensor "solis_modbus_inverter_tou_charge_start_minute_1" [43712],
      sensor "solis_modbus_inverter_tou_charge_end_hour_1" [43713],
      sensor "solis_modbus_inverter_tou_charge_end_minute_1" [43714],
      editableSensor "solis_modbus_inverter_tou_charge_cutoff_charge_2" [43715],
      editableSensor "solis_modbus_inverter_tou_charge_v2_battery_current_2" [43716],
      editableSensor "solis_modbus_inverter_tou_charge_v2_cutoff_voltage_2" [43717],
      sensor "solis_modbus_inverter_tou_charge_start_hour_2" [43718],
      sensor "solis_modbus_inverter_tou_charge_start_minute_2" [43719],
      sensor "solis_modbus_inverter_tou_charge_end_hour_2" [43720],
      sensor "solis_modbus_inverter_tou_charge_end_minute_2" [43721],
      editableSensor "solis_modbus_inverter_tou_charge_cutoff_charge_3" [43722],
      editableSensor "solis_modbus_inverter_tou_charge_v2_battery_current_3" [43723],
      editableSensor "solis_modbus_inverter_tou_charge_v2_cutoff_voltage_3" [43724],
      sensor "solis_modbus_inverter_tou_charge_start_hour_3" [43725],
      sensor "solis_modbus_inverter_tou_charge_start_minute_3" [43726],
      sensor "solis_modbus_inverter_tou_charge_end_hour_3" [43727],
      sensor "solis_modbus_inverter_tou_charge_end_minute_3" [43728],
      editableSensor "solis_modbus_inverter_tou_charge_cutoff_charge_4" [43729],
      editableSensor "solis_modbus_inverter_tou_charge_v2_battery_current_4" [43730],
      editableSensor "solis_modbus_inverter_tou_charge_v2_cutoff_voltage_4" [43731],
      sensor "solis_modbus_inverter_tou_charge_start_hour_4" [43732],
      sensor "solis_modbus_inverter_tou_charge_start_minute_4" [43733],
      sensor "solis_modbus_inverter_tou_charge_end_hour_4" [43734],
      sensor "solis_modbus_inverter_tou_charge_end_minute_4" [43735],
      editableSensor "solis_modbus_inverter_tou_charge_cutoff_charge_5" [43736],
      editableSensor "solis_modbus_inverter_tou_charge_v2_battery_current_5" [43737],
      editableSensor "solis_modbus_inverter_tou_charge_v2_cutoff_voltage_5" [43738],
      sensor "solis_modbus_inverter_tou_charge_start_hour_5" [43739],
      sensor "solis_modbus_inverter_tou_charge_start_minute_5" [43740],
      sensor "solis_modbus_inverter_tou_charge_end_hour_5" [43741],
      sensor "solis_modbus_inverter_tou_charge_end_minute_5" [43742],
      editableSensor "solis_modbus_inverter_tou_charge_cutoff_charge_6" [43743],
      editableSensor "solis_modbus_inverter_tou_charge_v2_battery_current_6" [43744],
      editableSensor "solis_modbus_inverter_tou_charge_v2_cutoff_voltage_6" [43745],
      sensor "solis_modbus_inverter_tou_charge_start_hour_6" [43746],
      sensor "solis_modbus_inverter_tou_charge_start_minute_6" [43747],
      sensor "solis_modbus_inverter_tou_charge_end_hour_6" [43748],
      sensor "solis_modbus_inverter_tou_charge_end_minute_6" [43749]] },
  { registerStart := 43750
    entities := [
      editableSensor "solis_modbus_inverter_tou_charge_cutoff_discharge_1" [43750],
      editableSensor "solis_modbus_inverter_tou_discharge_v2_battery_current_1" [43751],
      editableSensor "solis_modbus_inverter_tou_discharge_v2_cutoff_voltage_1" [43752],
      sensor "solis_modbus_inverter_tou_discharge_start_hour_1" [43753],
      sensor "solis_modbus_inverter_tou_discharge_start_minute_1" [43754],
      sensor "solis_modbus_inverter_tou_discharge_end_hour_1" [43755],
      sensor "solis_modbus_inverter_tou_discharge_end_minute_1" [43756],
      editableSensor "solis_modbus_inverter_tou_charge_cutoff_discharge_2" [43757],
      editableSensor "solis_modbus_inverter_tou_discharge_v2_battery_current_2" [43758],
      editableSensor "solis_modbus_inverter_tou_discharge_v2_cutoff_voltage_2" [43759],
      sensor "solis_modbus_inverter_tou_discharge_start_hour_2" [43760],
      sensor "solis_modbus_inverter_tou_discharge_start_minute_2" [43761],
      sensor "solis_modbus_inverter_tou_discharge_end_hour_2" [43762],
      sensor "solis_modbus_inverter_tou_discharge_end_minute_2" [43763],
      editableSensor "solis_modbus_inverter_tou_charge_cutoff_discharge_3" [43764],
      editableSensor "solis_modbus_inverter_tou_discharge_v2_battery_current_3" [43765],
      editableSensor "solis_modbus_inverter_tou_discharge_v2_cutoff_voltage_3" [43766],
      sensor "solis_modbus_inverter_tou_discharge_start_hour_3" [43767],
      sensor "solis_modbus_inverter_tou_discharge_start_minute_3" [43768],
      sensor "solis_modbus_inverter_tou_discharge_end_hour_3" [43769],
      sensor "solis_modbus_inverter_tou_discharge_end_minute_3" [43770],
      editableSensor "solis_modbus_inverter_tou_charge_cutoff_discharge_4" [43771],
      editableSensor "solis_modbus_inverter_tou_discharge_v2_battery_current_4" [43772],
      editableSensor "solis_modbus_inverter_tou_discharge_v2_cutoff_voltage_4" [43773],
      sensor "solis_modbus_inverter_tou_discharge_start_hour_4" [43774],
      sensor "solis_modbus_inverter_tou_discharge_start_minute_4" [43775],
      sensor "solis_modbus_inverter_tou_discharge_end_hour_4" [43776],
      sensor "solis_modbus_inverter_tou_discharge_end_minute_4" [43777],
      editableSensor "solis_modbus_inverter_tou_charge_cutoff_discharge_5" [43778],
      editableSensor "solis_modbus_inverter_tou_discharge_v2_battery_current_5" [43779],
      editableSensor "solis_modbus_inverter_tou_discharge_v2_cutoff_voltage_5" [43780],
      sensor "solis_modbus_inverter_tou_discharge_start_hour_5" [43781],
      sensor "solis_modbus_inverter_tou_discharge_start_minute_5" [43782],
      sensor "solis_modbus_inverter_tou_discharge_end_hour_5" [43783],
      sensor "solis_modbus_inverter_tou_discharge_end_minute_5" [43784],
      editableSensor "solis_modbus_inverter_tou_charge_cutoff_discharge_6" [43785],
      editableSensor "solis_modbus_inverter_tou_discharge_v2_battery_current_6" [43786],
      editableSensor "solis_modbus_inverter_tou_discharge_v2_cutoff_voltage_6" [43787],
      sensor "solis_modbus_inverter_tou_discharge_start_hour_6" [43788],
      sensor "solis_modbus_inverter_tou_discharge_start_minute_6" [43789],
      sensor "solis_modbus_inverter_tou_discharge_end_hour_6" [43790],
      sensor "solis_modbus_inverter_tou_discharge_end_minute_6" [43791]] },
  { registerStart := 43815
    entities := [
      sensor "solis_modbus_inverter_generator_chargin_switch" [43815]] },
  { registerStart := 43340
    entities := [
      sensor "solis_modbus_inverter_generator_enablement_switch" [43340]] },
  { registerStart := 43483
    entities := [
      sensor "solis_modbus_inverter_hybrid_function_control" [43483]] },
  { registerStart := 43487
    entities := [
      editableSensor "solis_modbus_inverter_peak_baseline_soc" [43487],
      editableSensor "solis_modbus_inverter_peak_max_usuable_grid_power" [43488]] },
  { registerStart := 43249
    entities := [
      sensor "solis_modbus_inverter_special_settings" [43249]] },
  { registerStart := 43291
    entities := [
      editableSensor "solis_modbus_inverter_flexible_export_backflow_power" [43291],
      sensor "solis_modbus_inverter_flexible_export_enabling_switch" [43292]] },
  { registerStart := 43302
    entities := [
      sensor "solis_modbus_inverter_hybrid_auxiliary_control_flags" [43302]] },
  { registerStart := 43110
    entities := [
      sensor "solis_modbus_inverter_storage_control_switch_value" [43110],
      sensor "solis_modbus_inverter_backup_supply_value" [43111]] },
  { registerStart := 43117
    entities := [
      editableSensor "solis_modbus_inverter_battery_max_charge_current" [43117],
      editableSensor "solis_modbus_inverter_battery_max_discharge_current" [43118]] },
  { registerStart := 43282
    entities := [
      editableSensor "solis_modbus_inverter_rc_timeout" [43282]] },
  { registerStart := 33200
    entities := [
      sensor "solis_modbus_inverter_backup_output_enabled_mirror" [33200],
      sensor "solis_modbus_inverter_backup_voltage_reference" [33201],
      sensor "solis_modbus_inverter_backup_frequency_reference" [33202],
      sensor "solis_modbus_inverter_battery_charge_discharge_enabled_mirror" [33203],
      sensor "solis_modbus_inverter_battery_direction_mirror" [33204],
      reserved [33205],
      sensor "solis_modbus_inverter_battery_max_charge_current_mirror" [33206],
      sensor "solis_modbus_inverter_battery_max_discharge_current_mirror" [33207],
      reserved [33208, 33209, 33210, 33211, 33212],
      sensor "solis_modbus_inverter_overdischarge_soc_mirror" [33213],
      sensor "solis_modbus_inverter_force_charge_soc_mirror" [33214],
      sensor "solis_modbus_inverter_afci_status" [33215],
      sensor "solis_modbus_inverter_leakage_current" [33216],
      sensor "solis_modbus_inverter_battery_current_fast" [33217]] },
  { registerStart := 34502
    entities := [
      sensor "solis_modbus_inverter_remote_dispatch_capability" [34502],
      sensor "solis_modbus_inverter_remote_dispatch_function_map" [34503]] },
  { registerStart := 34504
    entities := [
      sensor "solis_modbus_inverter_remote_dispatch_running_status" [34504]] },
  { registerStart := 44100
    entities := [
      sensor "solis_modbus_inverter_dispatch_active" [44100],
      sensor "solis_modbus_inverter_dispatch_failsafe_interval" [44101],
      sensor "solis_modbus_inverter_dispatch_limit_switches" [44102],
      sensor "solis_modbus_inverter_dispatch_import_limit" [44103],
      sensor "solis_modbus_inverter_dispatch_export_limit" [44104],
      sensor "solis_modbus_inverter_dispatch_control_mode" [44105],
      sensor "solis_modbus_inverter_dispatch_power_target" [44106, 44107],
      sensor "solis_modbus_inverter_dispatch_function_bits" [44108],
      sensor "solis_modbus_inverter_dispatch_soc_lower_limit" [44109],
      sensor "solis_modbus_inverter_dispatch_soc_upper_limit" [44110],
      sensor "solis_modbus_inverter_dispatch_battery_reserve_soc" [44111],
      sensor "solis_modbus_inverter_dispatch_pv_limit_percentage" [44112]] },
  { registerStart := 43070
    entities := [
      sensor "solis_modbus_inverter_output_limit_gate" [43070]] },
  { registerStart := 43081
    entities := [
      editableSensor "solis_modbus_inverter_output_power_clamp" [43081]] },
  { registerStart := 44280
    entities := [
      sensor "solis_modbus_inverter_remote_active_power_control_command" [44280]] }]

def hybridSensorsDerived : List SolisEntity := [
  sensor "solis_modbus_inverter_last_polled" [90006],
  sensor "solis_modbus_inverter_clock_rectification" [90007, 33022, 33023, 33024, 33025, 33026,
    33027],
  sensor "solis_modbus_inverter_current_status_string" [33095],
  sensor "solis_modbus_inverter_flexible_export_status" [43292, 43291],
  sensor "solis_modbus_inverter_dc_power_1" [33049, 33050],
  sensor "solis_modbus_inverter_dc_power_2" [33051, 33052],
  sensor "solis_modbus_inverter_dc_power_3" [33053, 33054],
  sensor "solis_modbus_inverter_dc_power_4" [33055, 33056],
  sensor "solis_modbus_inverter_power_factor" [33079, 33080, 33081, 33082],
  sensor "solis_modbus_inverter_battery_charge_power" [33149, 33150, 33135, 0],
  sensor "solis_modbus_inverter_battery_discharge_power" [33149, 33150, 33135, 1],
  sensor "solis_modbus_inverter_battery_power_combined" [33149, 33150, 33135],
  sensor "solis_modbus_inverter_grid_power_net" [33263, 33264],
  sensor "solis_modbus_inverter_grid_export_power" [33263, 33264, 0],
  sensor "solis_modbus_inverter_grid_import_power" [33263, 33264, 1],
  sensor "solis_modbus_inverter_today_net_grid_energy" [33175, 33171],
  sensor "solis_modbus_inverter_model_definition" [35000]]

def stringSensors : List SensorGroupDefinition := [
  { registerStart := 2999, essential := true
    entities := [
      sensor "solis_modbus_product_model" [2999],
      sensor "solis_modbus_dsp_software_version" [3000],
      sensor "solis_modbus_hmi_major_version" [3001],
      sensor "solis_modbus_ac_output_type" [3002],
      sensor "solis_modbus_dc_input_type" [3003],
      sensor "solis_modbus_active_power" [3004, 3005],
      sensor "solis_modbus_total_dc_output_power" [3006, 3007],
      sensor "solis_modbus_total_energy" [3008, 3009],
      sensor "solis_modbus_energy_this_month" [3010, 3011],
      sensor "solis_modbus_energy_last_month" [3012, 3013],
      sensor "solis_modbus_energy_today" [3014],
      sensor "solis_modbus_energy_yesterday" [3015],
      sensor "solis_modbus_energy_this_year" [3016, 3017],
      sensor "solis_modbus_energy_last_year" [3018, 3019],
      reserved [3020],
      sensor "solis_modbus_dc_voltage_1" [3021],
      sensor "solis_modbus_dc_current_1" [3022],
      sensor "solis_modbus_dc_voltage_2" [3023],
      sensor "solis_modbus_dc_current_2" [3024],
      sensor "solis_modbus_dc_voltage_3" [3025],
      sensor "solis_modbus_dc_current_3" [3026],
      sensor "solis_modbus_dc_voltage_4" [3027],
      sensor "solis_modbus_dc_current_4" [3028]] },
  { registerStart := 3033, essential := true
    entities := [
      sensor "solis_modbus_inverter_a_phase_voltage" [3033],
      sensor "solis_modbus_inverter_b_phase_voltage" [3034],
      sensor "solis_modbus_inverter_c_phase_voltage" [3035],
      sensor "solis_modbus_inverter_a_phase_current" [3036],
      sensor "solis_modbus_inverter_b_phase_current" [3037],
      sensor "solis_modbus_inverter_c_phase_current" [3038],
      reserved [3039],
      sensor "solis_modbus_inverter_working_mode" [3040],
      sensor "solis_modbus_inverter_temperature" [3041],
      sensor "solis_modbus_grid_frequency" [3042],
      sensor "solis_modbus_inverter_status" [3043],
      sensor "solis_modbus_inverter_limited_active_power_output_value" [3044, 3045],
      sensor "solis_modbus_inverter_reactive_power_regulation_rated_power_output_value" [3046,
        3047],
      reserved [3048],
      editableSensor "solis_modbus_inverter_actual_limited_active_power" [3049],
      sensor "solis_modbus_inverter_actual_adjusted_power_factor" [3050],
      sensor "solis_modbus_inverter_actual_power_factor_adjustment" [3051]] },
  { registerStart := 3089
    entities := [
      sensor "solis_modbus_power_limitation_switch" [3089]] },
  { registerStart := 3179
    entities := [
      sensor "solis_modbus_shading_mppt_scan_enable" [3179],
      editableSensor "solis_modbus_shading_mppt_scan_interval" [3180]] },
  { registerStart := 3250
    entities := [
      sensor "solis_modbus_meter_ac_voltage_a" [3250],
      sensor "solis_modbus_meter_ac_current_a" [3251],
      sensor "solis_modbus_meter_ac_voltage_b" [3252],
      sensor "solis_modbus_meter_ac_current_b" [3253],
      sensor "solis_modbus_meter_ac_voltage_c" [3254],
      sensor "solis_modbus_meter_ac_current_c" [3255],
      sensor "solis_modbus_meter_ac_active_power_a" [3256, 3257],
      sensor "solis_modbus_meter_ac_active_power_b" [3258, 3259],
      sensor "solis_modbus_meter_ac_active_power_c" [3260, 3261],
      sensor "solis_modbus_meter_ac_active_power_total" [3262, 3263]] },
  { registerStart := 3280
    entities := [
      sensor "solis_modbus_meter_power_factor" [3280],
      sensor "solis_modbus_meter_grid_frequency" [3281],
      sensor "solis_modbus_meter_grid_import_total_energy" [3282, 3283],
      sensor "solis_modbus_meter_grid_export_total_energy" [3284, 3285]] },
  { registerStart := 36013, essential := true, featureRequirement := [.epm]
    entities := [
      sensor "solis_modbus_inverter_epm_model_no" [36013],
      sensor "solis_modbus_inverter_epm_firmware_version" [36014]] },
  { registerStart := 36022, featureRequirement := [.epm]
    entities := [
      sensor "solis_modbus_inverter_clock_hours" [36022],
      sensor "solis_modbus_inverter_clock_minutes" [36023],
      sensor "solis_modbus_inverter_clock_seconds" [36024]] },
  { registerStart := 36028, essential := true, featureRequirement := [.epm]
    entities := [
      sensor "solis_modbus_inverter_total_load_power" [36028, 36029]] },
  { registerStart := 36050, essential := true, featureRequirement := [.epm]
    entities := [
      sensor "solis_modbus_inverter_total_generation_energy" [36050, 36051],
      sensor "solis_modbus_inverter_load_total_consumption_energy" [36052, 36053],
      sensor "solis_modbus_inverter_grid_import_total_active_energy" [36054, 36055],
      sensor "solis_modbus_inverter_grid_export_total_active_energy" [36056, 36057]] }]

def stringSensorsDerived : List SolisEntity := [
  sensor "solis_modbus_dc_power_1" [3021, 3022],
  sensor "solis_modbus_dc_power_2" [3023, 3024],
  sensor "solis_modbus_dc_power_3" [3025, 3026],
  sensor "solis_modbus_dc_power_4" [3027, 3028]]

end HHModbus
