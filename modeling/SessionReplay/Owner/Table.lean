import SessionReplay.Owner.Info
import Std.Data.TreeMap

/-! The table of live owners and of the connections that they hold. It can be read
in both directions: from an owner to its registration, and from a connection to the
owner that holds it. -/
namespace SessionReplay

structure OwnerTable where
  owners : Std.TreeMap OwnerId OwnerInfo := ∅
  holders : Std.TreeMap ConnectionId OwnerId := ∅

namespace OwnerTable

def empty : OwnerTable := {}

def contains (table : OwnerTable) (owner : OwnerId) : Bool := table.owners.contains owner

def ownerIds (table : OwnerTable) : List OwnerId := table.owners.keys

def get? (table : OwnerTable) (owner : OwnerId) : Option OwnerInfo := table.owners[owner]?

def holder? (table : OwnerTable) (connection : ConnectionId) : Option OwnerId :=
  table.holders[connection]?

def size (table : OwnerTable) : Nat := table.owners.size

def isEmpty (table : OwnerTable) : Bool := table.owners.isEmpty

/-- The registrations, in the order of their owners. -/
def toList (table : OwnerTable) : List OwnerInfo := table.owners.values

/-- Adds an owner together with the connections that it lists. An owner that is
live already is refused. -/
def register (table : OwnerTable) (info : OwnerInfo) : OwnerTable × Bool :=
  if table.contains info.owner then (table, false)
  else
    ({ owners := table.owners.insert info.owner info
       holders := info.connections.foldl
        (fun holders connection => holders.insert connection info.owner) table.holders }, true)

/-- Removes an owner and releases the connections that it lists. -/
def unregister (table : OwnerTable) (owner : OwnerId) : OwnerTable × Option OwnerInfo :=
  match table.get? owner with
  | none => (table, none)
  | some info =>
    ({ owners := table.owners.erase owner
       holders := info.connections.foldl (fun holders connection => holders.erase connection)
        table.holders }, some info)

/-- Takes a connection off the list of an owner, if the owner is live. -/
def drop (table : OwnerTable) (owner : OwnerId) (connection : ConnectionId) : OwnerTable :=
  { table with
    owners := table.owners.modify owner fun info =>
      { info with connections := info.connections.erase connection } }

/-- Puts a connection on the list of an owner, if the owner is live. -/
def hold (table : OwnerTable) (owner : OwnerId) (connection : ConnectionId) : OwnerTable :=
  { table with
    owners := table.owners.modify owner fun info =>
      { info with connections := info.connections.insert connection } }

/-- Gives a connection to a live owner, taking it from the owner that held it. -/
def assign (table : OwnerTable) (owner : OwnerId) (connection : ConnectionId) :
    OwnerTable × Bool :=
  if table.contains owner then
    let moved := { table with holders := table.holders.insert connection owner }
    let freed := match table.holder? connection with
      | some previous => if previous = owner then moved else moved.drop previous connection
      | none => moved
    (freed.hold owner connection, true)
  else (table, false)

/-- Takes a connection from the owner that holds it and names that owner. -/
def release (table : OwnerTable) (connection : ConnectionId) : OwnerTable × Option OwnerId :=
  match table.holder? connection with
  | none => (table, none)
  | some owner =>
    (({ table with holders := table.holders.erase connection }).drop owner connection, some owner)

end OwnerTable
end SessionReplay
