import SessionReplay.Owner.Table
import SessionReplay.Violation
import Std.Data.HashSet

/-! Who counts as a live owner. A registry is only ever asked whether it contains
an owner and which owners it contains, and it answers as it stands at that moment:
a shared table is read anew for every question. -/
namespace SessionReplay

/-- A plain set of owner ids, without registrations. -/
abbrev OwnerDirectory := Std.HashSet OwnerId

namespace OwnerDirectory

/-- The members of a directory, ascending. -/
def ownerIds (directory : OwnerDirectory) : List OwnerId :=
  directory.toList.mergeSort (· ≤ ·)

end OwnerDirectory

inductive Registry where
  /-- A table that nobody else can change. -/
  | table (owners : OwnerTable)
  | directory (owners : OwnerDirectory)
  /-- The table that the engine goes on changing. -/
  | shared

/-- The registry that is installed, and the latest table made to be shared. -/
structure Owners where
  installed : Option Registry := none
  engine : Option OwnerTable := none

namespace Owners

def containedIn (owners : Owners) : Registry → OwnerId → Bool
  | .table table, owner => table.contains owner
  | .directory directory, owner => directory.contains owner
  | .shared, owner => owners.engine.any (·.contains owner)

def idsIn (owners : Owners) : Registry → List OwnerId
  | .table table => table.ownerIds
  | .directory directory => directory.ownerIds
  | .shared => (owners.engine.map OwnerTable.ownerIds).getD []

/-- What there is to say against an owner to whom an event is attributed. The
engine itself is always known. -/
def objection? (owners : Owners) (owner : OwnerId) : Option Violation :=
  if owner = engineOwner then none
  else match owners.installed with
    | none => some (.registryMissing owner)
    | some registry =>
      if owners.containedIn registry owner then none
      else some (.unknownOwner owner (owners.idsIn registry))

/-- Installs a registry that nobody changes from outside, in place of any other. -/
def install (owners : Owners) (registry : Registry) : Owners :=
  { owners with installed := some registry }

def installShared (_ : Owners) (table : OwnerTable) : Owners :=
  { installed := some .shared, engine := some table }

/-- Registers an owner in the shared table, whether or not it is installed. -/
def registerShared (owners : Owners) (info : OwnerInfo) : Owners × Bool :=
  match owners.engine with
  | none => (owners, false)
  | some table =>
    let (table, done) := table.register info
    ({ owners with engine := some table }, done)

/-- Removes an owner from the shared table, whether or not it is installed. -/
def unregisterShared (owners : Owners) (owner : OwnerId) : Owners × Bool :=
  match owners.engine with
  | none => (owners, false)
  | some table =>
    let (table, gone) := table.unregister owner
    ({ owners with engine := some table }, gone.isSome)

end Owners
end SessionReplay
