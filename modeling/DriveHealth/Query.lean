import DriveHealth.Fault
set_option autoImplicit false

namespace DriveHealth

def pick {α : Type} (variants : List α) (choice : Int) : Except Fault α :=
  match if choice < 0 then none else variants[choice.toNat]? with
  | some a => .ok a
  | none => .error (.choiceOutOfRange choice ((variants.length : Int) - 1))

inductive IdentifyMode where
  | allWords
  | noBits
  | reportingBits
  | allBits
  deriving DecidableEq, Repr

namespace IdentifyMode

def all : List IdentifyMode := [.allWords, .noBits, .reportingBits, .allBits]

def ofChoice (choice : Int) : Except Fault IdentifyMode := pick all choice

def levels : IdentifyMode → Int × Int
  | .allWords => (1, 0)
  | .noBits => (0, -1)
  | .reportingBits => (0, 1)
  | .allBits => (0, 2)

end IdentifyMode

inductive SettingsGroup where
  | every
  | aam
  | apm
  | dsn
  | lookahead
  | security
  | writeCache
  | readCache
  | reorder
  | sctWriteCache
  deriving DecidableEq, Repr

namespace SettingsGroup

def all : List SettingsGroup :=
  [.every, .aam, .apm, .dsn, .lookahead, .security, .writeCache, .readCache, .reorder, .sctWriteCache]

def ofChoice (choice : Int) : Except Fault SettingsGroup := pick all choice

def name : SettingsGroup → String
  | .every => "all"
  | .aam => "aam"
  | .apm => "apm"
  | .dsn => "dsn"
  | .lookahead => "lookahead"
  | .security => "security"
  | .writeCache => "wcache"
  | .readCache => "rcache"
  | .reorder => "wcreorder"
  | .sctWriteCache => "wcache-sct"

end SettingsGroup

inductive Query where
  | identity
  | identify (mode : IdentifyMode)
  | settings (group : SettingsGroup)
  | smartInfo
  | info
  | health
  deriving DecidableEq, Repr

def Query.name : Query → String
  | .identity => "identity"
  | .identify _ => "identify"
  | .settings _ => "settings"
  | .smartInfo => "smart-info"
  | .info => "info"
  | .health => "health"

end DriveHealth
