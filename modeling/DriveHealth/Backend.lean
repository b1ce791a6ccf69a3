import DriveHealth.Examination
set_option autoImplicit false

namespace DriveHealth

structure DeviceFacts where
  name : String
  /-- The type, as a caller may also ask for it. -/
  type : String
  infoName : String
  protocols : ProtocolSet
  isOpen : Bool
  lastError : Option String := none
  deriving DecidableEq, Repr

def DeviceFacts.failure (f : DeviceFacts) : String := f.lastError.getD "unknown error"

/-- A way to devices of type `δ`, with a state `σ`. -/
structure Backend (σ δ : Type) where
  start : σ → Except Fault Unit × σ
  /-- Loads the drive database, the default one or not; tells whether there is one. -/
  loadDatabase : Bool → σ → Bool × σ
  /-- The device with a name, of a type if one is asked for. -/
  lookup : String → Option String → σ → Option δ × σ
  /-- The devices of some types whose names match a pattern. -/
  scan : List String → Option String → Recorder → σ → Except Fault (List δ) × Recorder × σ
  /-- Tries to open a device and to find out what it is. -/
  connect : δ → σ → δ × σ
  examine : Task → δ → Recorder → σ → δ × Recorder × σ
  close : δ → σ → δ × σ
  facts : δ → DeviceFacts

structure Target where
  name : String
  typeHint : Option String := none
  deriving DecidableEq, Repr

namespace Backend

variable {σ δ : Type} (b : Backend σ δ)

def find (t : Target) (s : σ) : Except Fault δ × σ :=
  if t.name.isEmpty then (.error (.noSuchDevice ""), s)
  else
    let (found, s) := b.lookup t.name t.typeHint s
    match found with
    | some d => (.ok d, s)
    | none => (.error (.noSuchDevice t.name), s)

/-- Opens a device. One that does not open is closed at once. -/
def openDevice (d : δ) (s : σ) : Except Fault δ × σ :=
  let (d, s) := b.connect d s
  let f := b.facts d
  if f.isOpen then (.ok d, s)
  else
    let (_, s) := b.close d s
    (.error (.cannotOpen f.name f.failure), s)

def closeIfOpen (d : δ) (s : σ) : δ × σ := if (b.facts d).isOpen then b.close d s else (d, s)

def examineAll : List Task → δ → Recorder → σ → δ × Recorder × σ
  | [], d, r, s => (d, r, s)
  | t :: ts, d, r, s =>
    let (d, r, s) := b.examine t d r s
    examineAll ts d r s

def carryOut (p : Plan) (d : δ) (r : Recorder) (s : σ) : Recorder × σ :=
  let (d, r, s) := b.examineAll (p.tasks (b.facts d).protocols) d r s
  let (_, s) := b.closeIfOpen d s
  (r, s)

end Backend

end DriveHealth
