import SessionReplay.Json.Record
import SessionReplay.Owner.Info

/-! Owner registrations as JSON. All four fields must be there; connections that are
listed more than once count once. -/
namespace SessionReplay.OwnerInfo
open Json

structure Stated where
  owner : Option OwnerId := none
  name : Option String := none
  session : Option Int32 := none
  connections : Option ConnectionSet := none
  deriving DecidableEq

/-- The connections of a list, up to its end; the list has begun. -/
def moreConnections : List Token → Except ReadFault (List ConnectionId × List Token)
  | [] => .error .truncated
  | .closeList :: rest => .ok ([], rest)
  | [.comma] => .error .truncated
  | .comma :: .closeList :: _ => .error .malformed
  | .comma :: token :: rest => do
    let connection ← token.unsigned64
    let (connections, rest) ← moreConnections rest
    .ok (connection :: connections, rest)
  | _ => .error .malformed

def takeConnections : List Token → Except ReadFault (List ConnectionId × List Token)
  | [] => .error .truncated
  | .openList :: rest =>
    match rest with
    | [] => .error .truncated
    | .closeList :: rest => .ok ([], rest)
    | token :: rest => do
      let connection ← token.unsigned64
      let (connections, rest) ← moreConnections rest
      .ok (connection :: connections, rest)
  | token :: _ => .error (token.mismatch .sequence)

def ownerField : RecordField Stated :=
  .ofToken "owner_id" (·.owner.isSome) Token.unsigned32
    fun stated value => { stated with owner := some value }

def nameField : RecordField Stated :=
  .ofToken "name" (·.name.isSome) Token.string
    fun stated value => { stated with name := some value }

def sessionField : RecordField Stated :=
  .ofToken "session_id" (·.session.isSome) Token.signed32
    fun stated value => { stated with session := some value }

def connectionsField : RecordField Stated where
  name := "connections"
  isRead := (·.connections.isSome)
  read stated tokens := do
    let (connections, rest) ← takeConnections tokens
    .ok ({ stated with connections := some (.ofList connections) }, rest)

def required {α : Type} (name : String) : Option α → Except Mismatch α
  | some value => .ok value
  | none => .error (.missingField name)

def ofStated (stated : Stated) : Except Mismatch OwnerInfo := do
  let owner ← required ownerField.name stated.owner
  let name ← required nameField.name stated.name
  let session ← required sessionField.name stated.session
  let connections ← required connectionsField.name stated.connections
  .ok { owner, name, session, connections }

def title : String := "LiveOwnerInfo"

def shape : RecordShape Stated OwnerInfo where
  title := title
  fields := [ownerField, nameField, sessionField, connectionsField]
  blank := {}
  complete := ofStated
  completeEarly taken _ := .error (.wrongLength taken (.record title) 4)

def read (text : String) : Except ReadFault OwnerInfo := shape.read text

/-- A registration as JSON, with its connections listed in this order. -/
def renderWith (info : OwnerInfo) (connections : List ConnectionId) : String :=
  String.ofList (writtenObject
    [("owner_id", (toString info.owner).toList),
      ("name", writtenText info.name.toList),
      ("session_id", (toString info.session).toList),
      ("connections", writtenList (connections.map fun connection =>
        (toString connection).toList))])

/-- A registration as JSON, with its connections ascending. -/
def render (info : OwnerInfo) : String := info.renderWith info.connections.toList

end SessionReplay.OwnerInfo
