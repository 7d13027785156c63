import SessionReplay.Word

/-! What a replay is configured with. -/
namespace SessionReplay

/-- The time at which the clock starts, and how many events a scheduling turn may
dispatch before the rate probe reports. -/
structure Config where
  initialTime : Word := 0
  fragmentLimit : UInt32 := 10
  deriving DecidableEq

namespace Config

def withInitialTime (config : Config) (initialTime : Word) : Config :=
  { config with initialTime }

def withFragmentLimit (config : Config) (fragmentLimit : UInt32) : Config :=
  { config with fragmentLimit }

end Config
end SessionReplay
