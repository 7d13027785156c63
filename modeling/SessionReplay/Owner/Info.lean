import SessionReplay.Event
import Std.Data.ExtTreeSet

/-! The registration of a live owner. -/
namespace SessionReplay

/-- A finite set of connections; two with the same members are equal. -/
abbrev ConnectionSet := Std.ExtTreeSet ConnectionId

/-- An owner that is alive: its name, the transport session through which it is
attached, and the connections that it holds. -/
structure OwnerInfo where
  owner : OwnerId
  name : String
  session : Int32
  connections : ConnectionSet := ∅
  deriving DecidableEq

end SessionReplay
