import DriveHealth.Proofs.Composition
set_option autoImplicit false

namespace DriveHealth

namespace Ata.Exam

@[simp] theorem writing_driveInfo (id : Identity) (s : Sections) :
    (driveInfo id s).always Act.Writing fun _ => True := by
  rcases hrate : id.rotationRate? with _ | (_ | _) <;> simp [driveInfo, hrate]

@[simp] theorem writing_dump (id : Identity) (wordLevel bitLevel : Int) :
    (dump id wordLevel bitLevel).always Act.Writing fun _ => True := by
  simp [dump]

@[simp] theorem writing_levelSetting (label key : String) (supported on : Bool) (level : Nat) (text : String) :
    (levelSetting label key supported on level text).always Act.Writing fun _ => True := by
  simp [levelSetting]

@[simp] theorem writing_switchSetting (label key : String) (supported on : Bool) :
    (switchSetting label key supported on).always Act.Writing fun _ => True := by
  simp [switchSetting]

@[simp] theorem writing_security (w : Nat) : (security w).always Act.Writing fun _ => True := by
  simp [security]

@[simp] theorem writing_toldSettings (id : Identity) (s : Sections) :
    (toldSettings id s).always Act.Writing fun _ => True := by
  simp [aam, apm]

@[simp] theorem writing_generalValues (d : SmartData) : (generalValues d).always Act.Writing fun _ => True := by
  simp [generalValues]

@[simp] theorem writing_attributes (d : SmartData) (ts : List Threshold) (f : TableFormat) :
    (attributes d ts f).always Act.Writing fun _ => True := by
  simp [attributes]

@[simp] theorem writing_directory (name short key : String) (d : LogDirectory) :
    (directory name short key d).always Act.Writing fun _ => True := by
  simp [directory]

@[simp] theorem writing_selfTestTable (log : SelfTestLog) (limit : Option Nat) (field : String) :
    (selfTestTable log limit field).always Act.Writing fun _ => True := by
  simp [selfTestTable]

end Ata.Exam

namespace Nvme.Exam

@[simp] theorem writing_driveInfo (c : Controller) : (driveInfo c).always Act.Writing fun _ => True := by
  simp [driveInfo]

@[simp] theorem writing_capabilities (c : Controller) : (capabilities c).always Act.Writing fun _ => True := by
  simp [capabilities]

@[simp] theorem writing_verdict (h : Health) : (verdict h).always Act.Writing fun _ => True := by
  simp [verdict]

@[simp] theorem writing_healthLog (h : Health) : (healthLog h).always Act.Writing fun _ => True := by
  simp [healthLog]

@[simp] theorem writing_showErrors (count available : Nat) (entries : List ErrorEntry) :
    (showErrors count available entries).always Act.Writing fun _ => True := by
  simp [showErrors]

end Nvme.Exam

end DriveHealth
