import SessionReplay.Json.Skip

/-! Records read from JSON. A record is an object with a member per field, in any order
and with any other members in between, or a list of its fields in their order. Values
are taken as they come, so the first problem in the text is the one reported. -/
namespace SessionReplay.Json

/-- What of a record has been read is kept in `σ`. -/
structure RecordField (σ : Type) where
  name : String
  isRead : σ → Bool
  /-- Takes the value that the tokens begin with. -/
  read : σ → List Token → Except ReadFault (σ × List Token)

/-- How a record of type `α` is read. -/
structure RecordShape (σ α : Type) where
  title : String
  /-- The fields in their order. -/
  fields : List (RecordField σ)
  blank : σ
  /-- The record, when an object has ended. -/
  complete : σ → Except Mismatch α
  /-- The record, when a list has ended after so many fields. -/
  completeEarly : Nat → σ → Except Mismatch α

def RecordField.ofToken {σ β : Type} (name : String) (isRead : σ → Bool)
    (value : Token → Except ReadFault β) (store : σ → β → σ) :
    RecordField σ where
  name := name
  isRead := isRead
  read state
    | [] => .error .truncated
    | token :: rest => (value token).map fun value => (store state value, rest)

namespace RecordShape
variable {σ α : Type}

/-- Takes the value of the member with this key, or passes over it. -/
def readMember (shape : RecordShape σ α) (key : String) (state : σ) (tokens : List Token) :
    Except ReadFault (σ × List Token) :=
  let field? := shape.fields.find? (·.name = key)
  if field?.any (·.isRead state) then .error (.unfit (.duplicateField key))
  else
    match tokens with
    | [] => .error .truncated
    | .colon :: rest =>
      match field? with
      | some field => field.read state rest
      | none => (passValue rest).map (state, ·)
    | _ => .error .malformed

/-- Takes members until the object ends. There are no more of them than tokens. -/
def readMembers (shape : RecordShape σ α) : Nat → σ → List Token → Except ReadFault (σ × List Token)
  | 0, _, _ => .error .truncated
  | limit + 1, state, tokens =>
    match tokens with
    | [] => .error .truncated
    | .text (.ok key) _ :: rest => do
      let (state, rest) ← shape.readMember key state rest
      match rest with
      | [] => .error .truncated
      | .closeObject :: rest => .ok (state, rest)
      | .comma :: rest => shape.readMembers limit state rest
      | _ => .error .malformed
    | .text (.error fault) _ :: _ => .error fault
    | _ => .error .malformed

/-- Takes an object after its opening brace. -/
def readObject (shape : RecordShape σ α) (tokens : List Token) :
    Except ReadFault (α × List Token) := do
  let (state, rest) ← match tokens with
    | .closeObject :: rest => .ok (shape.blank, rest)
    | _ => shape.readMembers tokens.length shape.blank tokens
  let value ← (shape.complete state).mapError .unfit
  .ok (value, rest)

/-- Takes the fields of a list in their order; `taken` of them came before. -/
def readFields (shape : RecordShape σ α) (taken : Nat) (state : σ) :
    List (RecordField σ) → List Token → Except ReadFault (α × List Token)
  | [], tokens => do
    let value ← (shape.complete state).mapError .unfit
    match tokens with
    | [] => .error .truncated
    | .closeList :: rest => .ok (value, rest)
    | _ => .error .malformed
  | field :: fields, tokens =>
    match tokens with
    | [] => .error .truncated
    | .closeList :: rest => do
      let value ← (shape.completeEarly taken state).mapError .unfit
      .ok (value, rest)
    | _ => do
      let tokens ← if taken = 0 then .ok tokens else
        match tokens with
        | [.comma] => .error .truncated
        | .comma :: .closeList :: _ => .error .malformed
        | .comma :: rest => .ok rest
        | _ => .error .malformed
      let (state, rest) ← field.read state tokens
      shape.readFields (taken + 1) state fields rest

def read (shape : RecordShape σ α) (text : String) : Except ReadFault α := do
  let (value, rest) ← match tokens text.toList with
    | [] => .error .truncated
    | .openObject :: rest => shape.readObject rest
    | .openList :: rest => shape.readFields 0 shape.blank shape.fields rest
    | token :: _ => .error (token.mismatch (.record shape.title))
  if rest.isEmpty then .ok value else .error .malformed

end RecordShape

def writtenMember (member : String × List Char) : List Char :=
  writtenText member.1.toList ++ ':' :: member.2

def withCommas : List (List Char) → List Char
  | [] => []
  | [item] => item
  | item :: rest => item ++ ',' :: withCommas rest

/-- An object as it is written, with its members in this order and no blanks. -/
def writtenObject (members : List (String × List Char)) : List Char :=
  '\x7b' :: withCommas (members.map writtenMember) ++ ['\x7d']

def writtenList (items : List (List Char)) : List Char :=
  '[' :: withCommas items ++ [']']

end SessionReplay.Json
