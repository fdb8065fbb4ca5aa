import ParamSql.Checked
import ParamSql.Text.Tidy

/-!
# Connection settings

How to reach a database, and how many connections to it may be open at once. Settings are read from
values of any kind, and all that is wrong with them is reported together.
-/

namespace ParamSql

structure Config where
  driver : String
  host : Option String
  portNumber : Option Int
  user : Option String
  password : Option String
  database : String
  poolSize : Nat
  poolSize_pos : 1 ≤ poolSize
  extra : Row

/-! ## Reading one setting -/

namespace Setting

def text (name : String) : Value → Checked String
  | .text s => .valid s
  | _ => .refuse .notText [name]

def mapping (name : String) : Value → Checked Row
  | .dict entries => .valid (Fields.ofList entries)
  | _ => .refuse .notMapping [name]

/-- The magnitude at which a fraction is too large for a setting. -/
def fractionLimit : Nat := 0x8000000000000000

/-- An integer may be of any size, a fraction without decimals may not. -/
def integerOfFraction (name : String) (negative : Bool) (digits places : Nat) : Checked Int :=
  if digits % Nat.pow 10 places ≠ 0 then .refuse .fractionalInteger [name]
  else if fractionLimit ≤ digits / Nat.pow 10 places then .refuse .oversizedInteger [name]
  else .valid (Value.signed negative (digits / Nat.pow 10 places))

def integer (name : String) : Value → Checked Int
  | .bool b => .valid (if b then 1 else 0)
  | .int n => .valid n
  | .decimal negative digits places => integerOfFraction name negative digits places
  | .text s => match Text.readInteger s.toList with
    | .number n => .valid n
    | .tooLong => .refuse .oversizedInteger [name]
    | .unreadable => .refuse .unreadableInteger [name]
  | _ => .refuse .notInteger [name]

/-- An integer from one up. -/
def size (name : String) (value : Value) : Checked { n : Nat // 1 ≤ n } :=
  match integer name value with
  | .valid n => if h : 1 ≤ n.toNat then .valid ⟨n.toNat, h⟩ else .refuse .belowMinimum [name]
  | .invalid problems => .invalid problems

/-- Null stands for a setting that is left out. -/
def optional {α : Type} (read : String → Value → Checked α) (name : String) :
    Value → Checked (Option α)
  | .null => .valid none
  | value => some <$> read name value

end Setting

/-! ## Reading all settings -/

namespace Config

variable {α : Type}

def required (settings : Row) (read : String → Value → Checked α) (name : String) : Checked α :=
  match settings.get? name with
  | some value => read name value
  | none => .refuse .missing [name]

def withDefault (settings : Row) (default : α) (read : String → Value → Checked α)
    (name : String) : Checked α :=
  match settings.get? name with
  | some value => read name value
  | none => .valid default

/-- Settings of other names are left aside. -/
def check (settings : Row) : Checked Config :=
  (fun driver host portNumber user password database (poolSize : { n : Nat // 1 ≤ n }) extra =>
      ⟨driver, host, portNumber, user, password, database, poolSize.1, poolSize.2, extra⟩)
    <$> required settings Setting.text "driver"
    <*> withDefault settings none (Setting.optional Setting.text) "host"
    <*> withDefault settings none (Setting.optional Setting.integer) "port"
    <*> withDefault settings none (Setting.optional Setting.text) "user"
    <*> withDefault settings none (Setting.optional Setting.text) "password"
    <*> required settings Setting.text "database"
    <*> withDefault settings ⟨5, by decide⟩ Setting.size "pool_size"
    <*> withDefault settings Fields.empty Setting.mapping "extra"

def ofSettings (settings : Row) : Except Error Config := (check settings).orError .invalidConfig

/-! ## Writing -/

def optionalValue (wrap : α → Value) : Option α → Value
  | some value => wrap value
  | none => .null

def settings (config : Config) : List (String × Value) :=
  [("driver", .text config.driver), ("host", optionalValue .text config.host),
   ("port", optionalValue .int config.portNumber), ("user", optionalValue .text config.user),
   ("password", optionalValue .text config.password), ("database", .text config.database),
   ("pool_size", .int config.poolSize), ("extra", .dict config.extra.entries)]

/-- The arguments of a server connection: settings that are left out are not passed, and the further
arguments have the last word. -/
def serverArguments (config : Config) : Row :=
  let given := [("host", optionalValue .text config.host),
    ("port", optionalValue .int config.portNumber), ("user", optionalValue .text config.user),
    ("password", optionalValue .text config.password), ("dbname", .text config.database)]
  (Fields.ofList (given.filter fun entry => !entry.2.isNull)).update config.extra

def fileArguments (config : Config) : Row :=
  (Fields.ofList [("database", .text config.database)]).update config.extra

end Config

end ParamSql
