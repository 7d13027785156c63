import SessionReplay.Config
import SessionReplay.Json.Record

/-! The configuration as JSON. A configuration that is read is the default one,
overridden by what the text states. -/
namespace SessionReplay.Config
open Json

structure Stated where
  initialTime : Option Word := none
  fragmentLimit : Option UInt32 := none
  deriving DecidableEq

def ofStated (stated : Stated) : Config where
  initialTime := stated.initialTime.getD ({} : Config).initialTime
  fragmentLimit := stated.fragmentLimit.getD ({} : Config).fragmentLimit

def initialTimeField : RecordField Stated :=
  .ofToken "initial_time_ns" (·.initialTime.isSome) Token.unsigned64
    fun stated value => { stated with initialTime := some value }

def fragmentLimitField : RecordField Stated :=
  .ofToken "fragment_limit" (·.fragmentLimit.isSome) Token.unsigned32
    fun stated value => { stated with fragmentLimit := some value }

def shape : RecordShape Stated Config where
  title := "ReplayConfig"
  fields := [initialTimeField, fragmentLimitField]
  blank := {}
  complete stated := .ok (ofStated stated)
  completeEarly _ stated := .ok (ofStated stated)

def read (text : String) : Except ReadFault Config := shape.read text

def render (config : Config) : String :=
  String.ofList (writtenObject
    [("initial_time_ns", (toString config.initialTime).toList),
      ("fragment_limit", (toString config.fragmentLimit).toList)])

end SessionReplay.Config
