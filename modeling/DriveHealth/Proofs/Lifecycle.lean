import DriveHealth.Proofs.Request
set_option autoImplicit false

namespace DriveHealth

namespace Backend

variable {σ δ : Type} (b : Backend σ δ)

end Backend

namespace Plan

end Plan

namespace Service

open Backend (Call)

variable {σ δ : Type}

/-- A backend with one drive, which speaks ATA and SCSI and says nothing. -/
def oneDrive : Backend Unit DeviceFacts where
  start s := (.ok (), s)
  loadDatabase _ s := (true, s)
  lookup name _ s := (if name = "/dev/sda" then
    some { name, type := "sat", infoName := name, protocols := ⟨true, true, false⟩, isOpen := false }
    else none, s)
  scan _ _ r s := (.ok [], r, s)
  connect d s := ({ d with isOpen := true }, s)
  examine _ d r s := (d, r, s)
  close d s := ({ d with isOpen := false }, s)
  facts d := d

def debugBuild : Edition.Build := { version := "0.1.0", arch := "x86_64", os := "linux", debug := true }

end Service

end DriveHealth
