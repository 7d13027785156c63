import SessionReplay.Owner.Table

/-! Everything that can be done to a table of owners, as data. -/
namespace SessionReplay

inductive OwnerChange where
  | register (info : OwnerInfo)
  | unregister (owner : OwnerId)
  | assign (owner : OwnerId) (connection : ConnectionId)
  | release (connection : ConnectionId)
  /-- A look at a registration. -/
  | get (owner : OwnerId)
  /-- A look at the holder of a connection. -/
  | holder (connection : ConnectionId)
  | contains (owner : OwnerId)

inductive OwnerAnswer where
  | flag (value : Bool)
  | info (info : Option OwnerInfo)
  | owner (owner : Option OwnerId)
  deriving DecidableEq

namespace OwnerTable

def perform (table : OwnerTable) : OwnerChange → OwnerTable × OwnerAnswer
  | .register info =>
    let (table, done) := table.register info
    (table, .flag done)
  | .unregister owner =>
    let (table, gone) := table.unregister owner
    (table, .info gone)
  | .assign owner connection =>
    let (table, done) := table.assign owner connection
    (table, .flag done)
  | .release connection =>
    let (table, owner) := table.release connection
    (table, .owner owner)
  | .get owner => (table, .info (table.get? owner))
  | .holder connection => (table, .owner (table.holder? connection))
  | .contains owner => (table, .flag (table.contains owner))

def after (changes : List OwnerChange) : OwnerTable :=
  changes.foldl (fun table change => (table.perform change).1) .empty

end OwnerTable
end SessionReplay
