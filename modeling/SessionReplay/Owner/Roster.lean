import SessionReplay.Owner.Registry

/-! A roster names the owners that are live and says in which kind of registry they
are kept. -/
namespace SessionReplay

inductive RosterKind where
  | table
  | directory
  | shared
  deriving DecidableEq

structure Roster where
  kind : RosterKind
  owners : List OwnerId
  deriving DecidableEq

namespace OwnerInfo

def bare (owner : OwnerId) : OwnerInfo := { owner, name := "", session := 0 }

end OwnerInfo

namespace OwnerTable

/-- A table in which these owners are registered, each once. -/
def ofOwners (owners : List OwnerId) : OwnerTable :=
  owners.foldl (fun table owner => (table.register (.bare owner)).1) .empty

end OwnerTable

namespace Owners

def installRoster (owners : Owners) (roster : Roster) : Owners :=
  match roster.kind with
  | .table => owners.install (.table (.ofOwners roster.owners))
  | .directory => owners.install (.directory (.ofList roster.owners))
  | .shared => owners.installShared (.ofOwners roster.owners)

def liveIds (owners : Owners) : List OwnerId :=
  (owners.installed.map owners.idsIn).getD []

end Owners
end SessionReplay
