import DriveHealth.Config
import DriveHealth.Text.Utf8
import DriveHealth.Toml.Document
set_option autoImplicit false

namespace DriveHealth.Config

def ofDocument (s : String) : Except Fault Config :=
  match (Toml.read? s).bind fun entries => codec.read (.table .header entries) with
  | some c => .ok c
  | none => .error (.invalidConfig .unreadable)

def ofOctets (bs : List UInt8) : Config :=
  match (Text.Utf8.decode? bs).map fun cs => ofDocument (String.ofList cs) with
  | some (.ok c) => c
  | _ => {}

def load (file : Option (List UInt8)) (env : Environment) : Config :=
  ((file.map ofOctets).getD {}).override env

end DriveHealth.Config
