import SessionReplay.Json.Token

/-! Passing over a value that nobody wants. It must be well-formed, however deeply its
lists and objects are nested, and nothing else is asked of it. -/
namespace SessionReplay.Json

/-- A list or an object that is not closed yet. -/
inductive Enclosure where
  | list
  | object
  deriving DecidableEq

/-- What may come next. The flag says whether the enclosure may be closed instead. -/
inductive Awaiting where
  | value (mayClose : Bool)
  | key (mayClose : Bool)
  | colon
  /-- A comma or the end of the innermost enclosure. -/
  | next
  deriving DecidableEq

/-- Passes over tokens until the value is complete and no enclosure is open. -/
def passFrom : Awaiting → List Enclosure → List Token → Except ReadFault (List Token)
  | .next, [], tokens => .ok tokens
  | _, _, [] => .error .truncated
  | .value mayClose, enclosures, token :: rest =>
    match token with
    | .openList => passFrom (.value true) (.list :: enclosures) rest
    | .openObject => passFrom (.key true) (.object :: enclosures) rest
    | .null | .boolean _ => passFrom .next enclosures rest
    | .number _ passed | .text _ passed =>
      match passed with
      | .ok _ => passFrom .next enclosures rest
      | .error fault => .error fault
    | .badWord fault => .error fault
    | .closeList => if mayClose then passFrom .next enclosures.tail rest else .error .malformed
    | .closeObject | .comma | .colon | .junk => .error .malformed
  | .key mayClose, enclosures, token :: rest =>
    match token with
    | .text _ passed =>
      match passed with
      | .ok _ => passFrom .colon enclosures rest
      | .error fault => .error fault
    | .closeObject =>
      if mayClose then passFrom .next enclosures.tail rest else .error .malformed
    | _ => .error .malformed
  | .colon, enclosures, token :: rest =>
    match token with
    | .colon => passFrom (.value false) enclosures rest
    | _ => .error .malformed
  | .next, enclosure :: enclosures, token :: rest =>
    match enclosure, token with
    | .list, .comma => passFrom (.value false) (.list :: enclosures) rest
    | .object, .comma => passFrom (.key false) (.object :: enclosures) rest
    | .list, .closeList | .object, .closeObject => passFrom .next enclosures rest
    | _, _ => .error .malformed

/-- What follows the value that the tokens begin with. -/
def passValue (tokens : List Token) : Except ReadFault (List Token) :=
  passFrom (.value false) [] tokens

end SessionReplay.Json
