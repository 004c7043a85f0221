import EmbeddedSql.Text.Blank
import EmbeddedSql.Text.Casing

/-! What a user may choose, and where it is read from: variables of the environment.

A variable that is not set leaves the default, and so does an empty one that has to hold a
number or a yes or no. The variables are read in the order of the fields; the first one that
cannot be read decides. -/
namespace EmbeddedSql

open Text

structure Settings where
  dialect : String := "generic"
  /-- The columns that a tab takes up in the indentation of a text block. -/
  tabSize : Nat := 4
  /-- Whether indentation is written with tabs. -/
  useTabs : Bool := false
  /-- What a formatted query is indented by. -/
  indent : String := "  "
deriving DecidableEq, Repr

/-- Why a text is no number below 2^64. -/
inductive NumberFault
  | empty | badDigit | tooLarge
deriving DecidableEq, Repr

def NumberFault.message : NumberFault → String
  | empty => "cannot parse integer from empty string"
  | badDigit => "invalid digit found in string"
  | tooLarge => "number too large to fit in target type"

inductive ValueFault
  | badFlag (value : String)
  | badNumber (value : String) (fault : NumberFault)
deriving DecidableEq, Repr

def ValueFault.message : ValueFault → String
  | badFlag value => "invalid value for bool: '" ++ value ++ "'"
  | badNumber value fault =>
    "invalid value '" ++ value ++ "' for type u64: " ++ fault.message

/-- A variable that cannot be read. -/
structure SettingsError where
  field : String
  variableName : String
  fault : ValueFault
deriving DecidableEq, Repr

def SettingsError.message (e : SettingsError) : String :=
  "failed to deserialize value \x60Config::" ++ e.field ++ "\x60 from environment variable \x60"
    ++ e.variableName ++ "\x60: " ++ e.fault.message

/-! ### Values -/

/-- Digits behind a number that has been read. The first character that is no digit, or that
makes the number too large, decides. -/
def digitsFrom (read : Nat) : List Char → Except NumberFault Nat
  | [] => .ok read
  | c :: cs =>
    if c.isDigit then
      let read := 10 * read + (c.toNat - '0'.toNat)
      if read < UInt64.size then digitsFrom read cs else .error .tooLarge
    else .error .badDigit

/-- A number below 2^64, which may have a plus in front. -/
def numberOf (cs : List Char) : Except NumberFault Nat :=
  match cs with
  | [] => .error .empty
  | ['+'] => .error .badDigit
  | '+' :: cs => digitsFrom 0 cs
  | cs => digitsFrom 0 cs

def readNumber (value : String) : Except ValueFault Nat :=
  let value := trim value
  match numberOf value.toList with
  | .ok n => .ok n
  | .error e => .error (.badNumber value e)

def readFlag (value : String) : Except ValueFault Bool :=
  let value := trim value
  let spelled := value.toLower
  if ["1", "true", "yes"].contains spelled then .ok true
  else if ["0", "false", "no"].contains spelled then .ok false
  else .error (.badFlag value)

/-! ### Variables -/

/-- The value of a variable, if it is set. -/
def readVariable {α : Type} (environment : String → Option String) (field name : String)
    (read : String → Except ValueFault α) (default : α) : Except SettingsError α :=
  match environment name with
  | none => .ok default
  | some value =>
    match read value with
    | .ok a => .ok a
    | .error fault => if value = "" then .ok default else .error ⟨field, name, fault⟩

def Settings.read (environment : String → Option String) : Except SettingsError Settings := do
  let d : Settings := {}
  let dialect ← readVariable environment "dialect" "SQLSIFT_DIALECT" .ok d.dialect
  let tabSize ← readVariable environment "tab_size" "SQLSIFT_TAB_SIZE" readNumber d.tabSize
  let useTabs ← readVariable environment "use_tabs" "SQLSIFT_USE_TABS" readFlag d.useTabs
  let indent ← readVariable environment "indent" "SQLSIFT_INDENT" .ok d.indent
  return ⟨dialect, tabSize, useTabs, indent⟩

end EmbeddedSql
