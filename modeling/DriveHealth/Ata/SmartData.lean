import DriveHealth.Ata.Taskfile
set_option autoImplicit false

namespace DriveHealth.Ata

structure Attribute where
  id : Nat
  flags : Nat
  value : Nat
  worst : Nat
  vendor : List UInt8
  deriving DecidableEq, Repr

namespace Attribute

def raw (a : Attribute) : Nat := littleEndian a.vendor

def prefailure (a : Attribute) : Bool := a.flags.testBit 0

def online (a : Attribute) : Bool := a.flags.testBit 1

def ofBlock (b : Block 12) : Attribute where
  id := b.byte 0
  flags := b.little 1 2
  value := b.byte 3
  worst := b.byte 4
  vendor := (b.slice 5 6).octets

def flagLetters (flags : Nat) : String :=
  String.ofList ("POSRCK".toList.mapIdx fun k c => if flags.testBit k then c else '-')

def name (id : Nat) : String :=
  match id with
  | 1 => "Raw_Read_Error_Rate"
  | 2 => "Throughput_Performance"
  | 3 => "Spin_Up_Time"
  | 4 => "Start_Stop_Count"
  | 5 => "Reallocated_Sector_Ct"
  | 7 => "Seek_Error_Rate"
  | 8 => "Seek_Time_Performance"
  | 9 => "Power_On_Hours"
  | 10 => "Spin_Retry_Count"
  | 11 => "Calibration_Retry_Count"
  | 12 => "Power_Cycle_Count"
  | 177 => "Wear_Leveling_Count"
  | 183 => "Runtime_Bad_Block"
  | 184 => "End-to-End_Error"
  | 187 => "Reported_Uncorrect"
  | 188 => "Command_Timeout"
  | 190 => "Airflow_Temperature_Cel"
  | 191 => "G-Sense_Error_Rate"
  | 192 => "Power-Off_Retract_Count"
  | 193 => "Load_Cycle_Count"
  | 194 => "Temperature_Celsius"
  | 195 => "Hardware_ECC_Recovered"
  | 196 => "Reallocated_Event_Count"
  | 197 => "Current_Pending_Sector"
  | 198 => "Offline_Uncorrectable"
  | 199 => "UDMA_CRC_Error_Count"
  | 200 => "Multi_Zone_Error_Rate"
  | 231 => "Temperature_Celsius"
  | 233 => "Media_Wearout_Indicator"
  | 241 => "Total_LBAs_Written"
  | 242 => "Total_LBAs_Read"
  | _ => "Unknown_Attribute"

end Attribute

def usedSlots (b : Block 512) : List (Block 12) :=
  (b.records 2 12 30).filter fun slot => slot.byte 0 != 0

structure SmartData where
  revision : Nat
  attributes : List Attribute
  offlineStatus : Nat
  selfTestStatus : Nat
  offlineSeconds : Nat
  offlineCapability : Nat
  smartCapability : Nat
  errorLogCapability : Nat
  shortMinutes : Nat
  extendedMinutes : Nat
  conveyanceMinutes : Nat
  deriving DecidableEq, Repr

namespace SmartData

/-- A short extended test time of 255 stands for the long one elsewhere. -/
def ofBlock (b : Block 512) : SmartData where
  revision := b.little 0 2
  attributes := (usedSlots b).map Attribute.ofBlock
  offlineStatus := b.byte 362
  selfTestStatus := b.byte 363
  offlineSeconds := b.little 364 2
  offlineCapability := b.byte 367
  smartCapability := b.little 368 2
  errorLogCapability := b.byte 370
  shortMinutes := b.byte 372
  extendedMinutes := if b.byte 373 = 0xff then b.little 375 2 else b.byte 373
  conveyanceMinutes := b.byte 374

def decode (bs : List UInt8) : Except Fault SmartData :=
  return ofBlock (← Block.require 512 "SMART READ DATA" bs)

def conveyanceSupported (d : SmartData) : Bool := d.offlineCapability.testBit 5

def errorLogging (d : SmartData) : Bool := d.errorLogCapability.testBit 0

end SmartData

structure Threshold where
  id : Nat
  limit : Nat
  deriving DecidableEq, Repr

namespace Threshold

def ofBlock (b : Block 12) : Threshold := ⟨b.byte 0, b.byte 1⟩

def decodeAll (bs : List UInt8) : Except Fault (List Threshold) :=
  return (usedSlots (← Block.require 512 "SMART READ THRESHOLDS" bs)).map ofBlock

def limit? (ts : List Threshold) (id : Nat) : Option Nat := (ts.find? (·.id = id)).map limit

end Threshold

inductive Failing where
  | never
  | past
  | now
  deriving DecidableEq, Repr

/-- A limit of 0 is never reached. -/
def Attribute.failing (a : Attribute) (limit : Option Nat) : Failing :=
  match limit with
  | none => .never
  | some t =>
    if t ≠ 0 ∧ a.value ≤ t then .now else if t ≠ 0 ∧ a.worst ≤ t then .past else .never

end DriveHealth.Ata
