import DriveHealth.Datum
set_option autoImplicit false

namespace DriveHealth

structure Report where
  fields : Fields := []
  deriving Repr

def Datum.fields : Datum → Fields
  | .record fs => fs
  | _ => []

def Datum.items : Datum → List Datum
  | .list ds => ds
  | _ => []

namespace Report

def isEmpty (r : Report) : Bool := r.fields.isEmpty

def get? (r : Report) (key : String) : Option Datum := r.fields.get? key

def set (r : Report) (key : String) (value : Datum) : Report := ⟨r.fields.insert key value⟩

/-- The fields of a section. A value that is no record counts as an empty one. -/
def sectionFields (r : Report) (key : String) : Fields := ((r.get? key).getD .null).fields

def openSection (r : Report) (key : String) : Report := r.set key (.record (r.sectionFields key))

def setIn (r : Report) (key field : String) (value : Datum) : Report :=
  r.set key (.record ((r.sectionFields key).insert field value))

def devices (r : Report) : List Datum := ((r.get? "devices").getD .null).items

def deviceFields (r : Report) (index : Nat) : Fields := ((r.devices)[index]?.getD .null).fields

/-- Writes one field of the device record at `index`; records missing before it are added empty. -/
def setDevice (r : Report) (index : Nat) (field : String) (value : Datum) : Report :=
  let ds := r.devices.rightpad (index + 1) (.record [])
  r.set "devices" (.list (ds.set index (.record ((r.deviceFields index).insert field value))))

inductive Write where
  | set (key : String) (value : Datum)
  | setIn (key field : String) (value : Datum)

def apply (r : Report) : Write → Report
  | .set key value => r.set key value
  | .setIn key field value => r.setIn key field value

def Write.key : Write → String
  | .set key _ => key
  | .setIn key _ _ => key

@[simp] theorem get?_set_self (r : Report) (key : String) (value : Datum) :
    (r.set key value).get? key = some value := Fields.get?_insert_self key value r.fields

theorem get?_set_of_ne (r : Report) {key other : String} (h : other ≠ key) (value : Datum) :
    (r.set key value).get? other = r.get? other := Fields.get?_insert_of_ne h value r.fields

theorem get?_apply_of_ne (r : Report) (w : Write) {other : String} (h : other ≠ w.key) :
    (r.apply w).get? other = r.get? other := by
  cases w with
  | set key value => exact r.get?_set_of_ne h value
  | setIn key field value => exact r.get?_set_of_ne h _

end Report

end DriveHealth
