import SessionReplay.Json.Number
import SessionReplay.Json.Text

/-! The tokens of a JSON text. A token that stands for a value says what becomes of it
when it is wanted and what when it is passed over; where that is a fault, the text is
not looked at any further. A fault counts only when the reader comes to it, so the
first problem in the text wins. -/
namespace SessionReplay.Json

inductive Token where
  | openList
  | closeList
  | openObject
  | closeObject
  | comma
  | colon
  | null
  | boolean (value : Bool)
  /-- The beginning of a word that is not one of the three. -/
  | badWord (fault : ReadFault)
  | number (value : Except ReadFault Number) (passed : Except ReadFault Unit)
  | text (value : Except ReadFault String) (passed : Except ReadFault Unit)
  /-- A character that begins no token. -/
  | junk

/-- Blanks may stand between any two tokens. -/
def isBlank (c : Char) : Bool := c = ' ' || c = '\n' || c = '\t' || c = '\x0d'

/-- What follows a word in a text that begins with it. -/
def afterWord : List Char → List Char → Except ReadFault (List Char)
  | [], text => .ok text
  | _ :: _, [] => .error .truncated
  | w :: word, c :: text => if w = c then afterWord word text else .error .malformed

namespace Token

/-- A word that was begun, and what follows it. -/
def ofWord (token : Token) (word text : List Char) : Token × List Char :=
  match afterWord word text with
  | .ok rest => (token, rest)
  | .error fault => (.badWord fault, [])

/-- A number, and what follows it. One that is ill-formed is no JSON when it is passed
over, even if it only lacks its end. -/
def ofNumber (text : List Char) : Token × List Char :=
  match NumberLiteral.scan text with
  | .ok (literal, rest) => (.number literal.value (.ok ()), rest)
  | .error fault => (.number (.error fault) (.error .malformed), [])

/-- A string after its opening quote, and what follows it. -/
def ofText (text : List Char) : Token × List Char :=
  let value := (takeText text).map fun (decoded, _) => String.ofList decoded
  match passText text with
  | .ok rest => (.text value (.ok ()), rest)
  | .error fault => (.text value (.error fault), [])

/-- The token that begins with `c`, and what follows it. -/
def first (c : Char) (rest : List Char) : Token × List Char :=
  match c with
  | '[' => (.openList, rest)
  | ']' => (.closeList, rest)
  | '\x7b' => (.openObject, rest)
  | '\x7d' => (.closeObject, rest)
  | ',' => (.comma, rest)
  | ':' => (.colon, rest)
  | '"' => ofText rest
  | 'n' => ofWord .null ['u', 'l', 'l'] rest
  | 't' => ofWord (.boolean true) ['r', 'u', 'e'] rest
  | 'f' => ofWord (.boolean false) ['a', 'l', 's', 'e'] rest
  | c => if c = '-' ∨ c.isDigit then ofNumber (c :: rest) else (.junk, [])

def found : Token → Except ReadFault Found
  | openList => .ok .sequence
  | openObject => .ok .object
  | null => .ok .null
  | boolean value => .ok (.boolean value)
  | badWord fault => .error fault
  | number (.ok (.integer value)) _ => .ok (.integer value)
  | number (.ok (.float value)) _ => .ok (.float value)
  | number (.error fault) _ => .error fault
  | text (.ok value) _ => .ok (.text value)
  | text (.error fault) _ => .error fault
  | closeList | closeObject | comma | colon | junk => .error .malformed

def mismatch (token : Token) (expected : Expected) : ReadFault :=
  match token.found with
  | .ok found => .unfit (.wrongType found expected)
  | .error fault => fault

def integer (expected : Expected) (low high : Int) : Token → Except ReadFault Int
  | number (.ok (.integer value)) _ =>
    if low ≤ value ∧ value ≤ high then .ok value
    else .error (.unfit (.outOfRange value expected))
  | token => .error (token.mismatch expected)

def unsigned64 (token : Token) : Except ReadFault UInt64 :=
  (token.integer .unsigned64 0 18446744073709551615).map fun value => UInt64.ofNat value.toNat

def unsigned32 (token : Token) : Except ReadFault UInt32 :=
  (token.integer .unsigned32 0 4294967295).map fun value => UInt32.ofNat value.toNat

def signed32 (token : Token) : Except ReadFault Int32 :=
  (token.integer .signed32 (-2147483648) 2147483647).map Int32.ofInt

def string : Token → Except ReadFault String
  | text (.ok value) _ => .ok value
  | token => .error (token.mismatch .text)

end Token

theorem afterWord_length {word text rest : List Char} (passed : afterWord word text = .ok rest) :
    rest.length ≤ text.length := by
  fun_induction afterWord word text with
  | case1 => exact Nat.le_of_eq (congrArg _ (Except.ok.inj passed).symm)
  | case2 => contradiction
  | case3 w word text ih => exact Nat.le_succ_of_le (ih passed)
  | case4 => contradiction

theorem Token.ofWord_length (token : Token) (word text : List Char) :
    (Token.ofWord token word text).2.length ≤ text.length := by
  unfold Token.ofWord
  split
  · next passed => exact afterWord_length passed
  · exact Nat.zero_le _

theorem Token.ofNumber_length (c : Char) (text : List Char) :
    (Token.ofNumber (c :: text)).2.length ≤ text.length := by
  unfold Token.ofNumber
  split
  · next scanned => exact Nat.le_of_lt_succ (NumberLiteral.scan_length scanned)
  · exact Nat.zero_le _

theorem Token.ofText_length (text : List Char) : (Token.ofText text).2.length ≤ text.length := by
  unfold Token.ofText
  dsimp only
  split
  · next passed => exact Nat.le_of_lt (passText_length passed)
  · exact Nat.zero_le _

/-- A token takes at least its first character. -/
theorem Token.first_length (c : Char) (rest : List Char) :
    (Token.first c rest).2.length ≤ rest.length := by
  unfold Token.first
  split
  all_goals first
    | exact Nat.le_refl _
    | exact Token.ofText_length _
    | exact Token.ofWord_length ..
    | skip
  split
  · exact Token.ofNumber_length ..
  · exact Nat.zero_le _

def tokens (text : List Char) : List Token :=
  match text with
  | [] => []
  | c :: rest =>
    if isBlank c then tokens rest
    else (Token.first c rest).1 :: tokens (Token.first c rest).2
termination_by text.length
decreasing_by
  · simp
  · exact Nat.lt_succ_of_le (Token.first_length c rest)

end SessionReplay.Json
