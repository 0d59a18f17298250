import ByteBench.Config.Value
import ByteBench.Machine.PowerOn
import ByteBench.Program.Assembly
import ByteBench.Session.Basic

/-!
# Reading settings

Settings are read from configuration values. A record is written as a table, of which entries that
are not known are passed over, or as a row of its fields in order; fields that are missing keep
their defaults. A choice is written as its name, or as a table of one entry, from its name to its
content. What is wrong is reported at the first place, going through a table by increasing key.
-/

namespace ByteBench.Config

inductive ReadError
  | invalidType (found expected : String)
  | invalidValue (found expected : String)
  | invalidLength (length : Nat) (expected : String)
  | unknownVariant (name : String) (known : List String)
  | missingField (name : String)
  deriving DecidableEq

namespace ReadError

def ticked (name : String) : String := "\x60" ++ name ++ "\x60"

def oneOf : List String → String
  | [] => "nothing"
  | [a] => ticked a
  | [a, b] => ticked a ++ " or " ++ ticked b
  | names => "one of " ++ ", ".intercalate (names.map ticked)

def message : ReadError → String
  | invalidType found expected => "invalid type: " ++ found ++ ", expected " ++ expected
  | invalidValue found expected => "invalid value: " ++ found ++ ", expected " ++ expected
  | invalidLength length expected =>
    "invalid length " ++ toString length ++ ", expected " ++ expected
  | unknownVariant name known =>
    "unknown variant " ++ ticked name ++ ", expected " ++ oneOf known
  | missingField name => "missing field " ++ ticked name

end ReadError

abbrev Reader (α : Type) : Type := Value → Except ReadError α

/-- Reads an integer from `0` up to but not including `bound`. -/
def readNat (kind : String) (bound : Nat) : Reader Nat := fun v =>
  match v with
  | .int n =>
    if 0 ≤ n ∧ n < bound then .ok n.toNat else .error (.invalidValue v.describe kind)
  | v => .error (.invalidType v.describe kind)

def readU8 : Reader UInt8 := fun v => (readNat "u8" UInt8.size v).map UInt8.ofNat

def readU16 : Reader UInt16 := fun v => (readNat "u16" UInt16.size v).map UInt16.ofNat

def readU32 : Reader UInt32 := fun v => (readNat "u32" UInt32.size v).map UInt32.ofNat

def readU64 : Reader UInt64 := fun v => (readNat "u64" UInt64.size v).map UInt64.ofNat

structure FieldReader (α : Type) where
  key : String
  read : Value → α → Except ReadError α

/-- Reads one entry of a table into a record, if it is one of its fields. -/
def readEntry {α : Type} (fields : List (FieldReader α)) (a : α) (entry : String × Value) :
    Except ReadError α :=
  match fields.find? (·.key = entry.1) with
  | some field => field.read entry.2 a
  | none => .ok a

/-- Reads a record, starting from its defaults. -/
def readRecord {α : Type} (name : String) (fields : List (FieldReader α)) (default : α) :
    Reader α
  | .table entries => entries.foldlM (readEntry fields) default
  | .row values => do
    -- a row that is too long is refused only after its elements have been read
    let a ← (fields.zip values).foldlM (fun a fv => fv.1.read fv.2 a) default
    if fields.length < values.length then
      throw (.invalidLength values.length "fewer elements in array")
    pure a
  | v => .error (.invalidType v.describe ("struct " ++ name))

/-- Reads a choice: its name, and its content if there is one. -/
def readChoice (known : List String) : Reader (String × Option Value)
  | .text name => check name none
  | .table [(name, content)] => check name (some content)
  | .table _ => .error (.invalidValue "map" "map with a single key")
  | v => .error (.invalidType v.describe "string or map")
where
  check (name : String) (content : Option Value) : Except ReadError (String × Option Value) :=
    if known.contains name then .ok (name, content) else .error (.unknownVariant name known)

/-- Reads the content of a choice that has none. -/
def readUnit : Option Value → Except ReadError Unit
  | none => .ok ()
  | some .null => .ok ()
  | some v => .error (.invalidType v.describe "unit")

/-- Reads the content of a choice that has one field, which has to be there. -/
def readOnly {α : Type} (key : String) (read : Reader α) : Option Value → Except ReadError α
  | some (.table entries) =>
    match entries.find? (·.1 = key) with
    | some entry => read entry.2
    | none => .error (.missingField key)
  | some v => .error (.invalidType v.describe "struct variant")
  | none => .error (.invalidType "unit variant" "struct variant")

def readOnError : Reader OnError := fun v => do
  let (name, content) ← readChoice (OnError.all.map OnError.name) v
  readUnit content
  pure ((OnError.ofName? name).getD .skip)

def readAssemblerFlags : Reader AssemblerFlags :=
  readRecord "AsmFlags"
    [⟨"on_error", fun v flags => return { flags with onError := ← readOnError v }⟩] {}

/-- Reads settings of a session; those that are missing stay as they are. -/
def readSessionFlagsFrom (flags : SessionFlags) : Reader SessionFlags :=
  readRecord "SimFlags"
    [⟨"run_cycles", fun v flags => return { flags with runCycles := ← readU32 v }⟩,
      ⟨"readback_cycles", fun v flags => return { flags with readbackCycles := ← readU16 v }⟩,
      ⟨"finish_limit", fun v flags => return { flags with finishLimit := ← readU64 v }⟩] flags

def readSessionFlags : Reader SessionFlags := readSessionFlagsFrom {}

def readPowerOn : Reader PowerOn := fun v => do
  match ← readChoice ["Unseeded", "Seeded", "Known"] v with
  | ("Seeded", content) => return .seeded (← readOnly "seed" readU64 content)
  | ("Known", content) => return .known (← readOnly "value" readU8 content)
  | (_, content) =>
    readUnit content
    return .unseeded

end ByteBench.Config
