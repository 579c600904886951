/-!
# Log records
-/

namespace Bindery

/-- How much a record matters. -/
inductive Level where
  | error
  | warn
  | info
  | debug
  deriving DecidableEq, Repr

namespace Level

def label : Level → String
  | .error => "ERROR"
  | .warn => "WARN"
  | .info => "INFO"
  | .debug => "DEBUG"

/-- Levels from what matters most to what matters least. -/
def rank : Level → Nat
  | .error => 0
  | .warn => 1
  | .info => 2
  | .debug => 3

end Level

/-- The least important level that is shown; none if nothing is. -/
structure Threshold where
  level : Option Level
  deriving DecidableEq, Repr

/-- The threshold that a setting names; without a setting, records about progress are shown. -/
def Threshold.ofSetting (setting : Option String) : Threshold :=
  match setting with
  | some "debug" => ⟨some .debug⟩
  | some "warn" => ⟨some .warn⟩
  | some "error" => ⟨some .error⟩
  | some "off" => ⟨none⟩
  | _ => ⟨some .info⟩

/-- Something the program reports about its work. -/
structure Record where
  level : Level
  /-- The part of the program that reports. -/
  source : String
  message : String
  fields : List (String × String) := []
  deriving DecidableEq, Repr

def Threshold.shows (threshold : Threshold) (record : Record) : Bool :=
  match threshold.level with
  | some level => record.level.rank ≤ level.rank
  | none => false

/-- A character of a message in the log. Controls that a terminal would act on are written by
their number. -/
def Record.visible (c : Char) : String :=
  let digits := String.ofList (Nat.toDigits 16 c.toNat)
  if c = '\x07' || c = '\x08' || c = '\x0c' then "\\x0" ++ digits
  else if c = '\x1b' || c = '\x7f' then "\\x" ++ digits
  else if 0x80 ≤ c.toNat && c.toNat ≤ 0x9f then "\\u\x7b" ++ digits ++ "\x7d"
  else c.toString

def Record.text (record : Record) : String :=
  record.level.label ++ " " ++ record.source ++ ": " ++
    String.join (record.message.toList.map visible) ++
    String.join (record.fields.map fun (name, value) => " " ++ name ++ "=" ++ value)

end Bindery
