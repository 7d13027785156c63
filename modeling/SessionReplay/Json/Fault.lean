import SessionReplay.Decimal.FloatText
import SessionReplay.Text.Quoted

/-! Why a JSON text cannot be read. The text may end too early, it may be no JSON at
all, or it may hold something else than what was expected at that place. -/
namespace SessionReplay.Json

/-- What stands where something else was expected. -/
inductive Found where
  | null
  | boolean (value : Bool)
  | integer (value : Int)
  | float (value : Float)
  | text (value : String)
  | sequence
  | object

inductive Expected where
  | unsigned64
  | unsigned32
  | signed32
  | text
  | sequence
  /-- A record with this title. -/
  | record (title : String)
  deriving DecidableEq

/-- Valid JSON that is not what was expected. -/
inductive Mismatch where
  | wrongType (found : Found) (expected : Expected)
  | outOfRange (value : Int) (expected : Expected)
  | duplicateField (name : String)
  | missingField (name : String)
  /-- A record was given as a list that ended after `length` of its fields. -/
  | wrongLength (length : Nat) (expected : Expected) (fields : Nat)

inductive ReadFault where
  | truncated
  | malformed
  | unfit (mismatch : Mismatch)

def ticked (text : String) : String := "\x60" ++ text ++ "\x60"

def Found.describe : Found → String
  | null => "null"
  | boolean value => "boolean " ++ ticked (toString value)
  | integer value => "integer " ++ ticked (toString value)
  | float value => "floating point " ++ ticked (Decimal.floatText value)
  | text value => "string " ++ Text.quoted value
  | sequence => "sequence"
  | object => "map"

def Expected.describe : Expected → String
  | unsigned64 => "u64"
  | unsigned32 => "u32"
  | signed32 => "i32"
  | text => "a string"
  | sequence => "a sequence"
  | record title => "struct " ++ title

def Mismatch.message : Mismatch → String
  | wrongType found expected =>
    s!"invalid type: {found.describe}, expected {expected.describe}"
  | outOfRange value expected =>
    "invalid value: integer " ++ ticked (toString value) ++ ", expected " ++ expected.describe
  | duplicateField name => "duplicate field " ++ ticked name
  | missingField name => "missing field " ++ ticked name
  | wrongLength length expected fields =>
    s!"invalid length {length}, expected {expected.describe} with {fields} elements"

end SessionReplay.Json
