import Debuggee.Json.Text

/-! The configuration of the debuggee, and what stands in for each setting that is left out. -/

namespace Debuggee

structure LoggingConfig where
  level : String := "info"
  json : Bool := false
  stderr : Bool := false
  file : Option String := none
  deriving DecidableEq

def LoggingConfig.layout : Layout LoggingConfig :=
  .record "LoggingConfig" true
    (.cons (.defaulted "level" .text "info") <|
      .cons (.defaulted "json" .boolean false) <|
      .cons (.defaulted "stderr" .boolean false) <|
      .cons (.nullable "file" .path true) <|
      .nil)
    (fun (level, json, stderr, file, _) => ⟨level, json, stderr, file⟩)
    (fun value => (value.level, value.json, value.stderr, value.file, ()))
    (fun _ => rfl)

instance : HasLayout LoggingConfig := ⟨LoggingConfig.layout⟩

/-- Times are in milliseconds. -/
structure SessionConfig where
  /-- How long to wait for an address at the start; none is for ever. -/
  startTimeout : Option UInt64 := none
  drainTimeout : UInt64 := 5000
  waitForClientTimeout : UInt64 := 10000
  discoveryDirectory : Option String := none
  deriving DecidableEq

def SessionConfig.layout : Layout SessionConfig :=
  .record "SessionConfig" true
    (.cons (.nullable "start_timeout_ms" .word64 true) <|
      .cons (.defaulted "drain_timeout_ms" .word64 5000) <|
      .cons (.defaulted "wait_for_client_timeout_ms" .word64 10000) <|
      .cons (.nullable "discovery_dir" .path true) <|
      .nil)
    (fun (startTimeout, drainTimeout, waitForClientTimeout, discoveryDirectory, _) =>
      ⟨startTimeout, drainTimeout, waitForClientTimeout, discoveryDirectory⟩)
    (fun value =>
      (value.startTimeout, value.drainTimeout, value.waitForClientTimeout,
        value.discoveryDirectory, ()))
    (fun _ => rfl)

instance : HasLayout SessionConfig := ⟨SessionConfig.layout⟩

structure Config where
  logging : LoggingConfig := {}
  session : SessionConfig := {}
  deriving DecidableEq

def Config.layout : Layout Config :=
  .record "DebuggeeConfig" true
    (.cons (.defaulted "logging" LoggingConfig.layout {}) <|
      .cons (.defaulted "session" SessionConfig.layout {}) <|
      .nil)
    (fun (logging, session, _) => ⟨logging, session⟩)
    (fun value => (value.logging, value.session, ()))
    (fun _ => rfl)

instance : HasLayout Config := ⟨Config.layout⟩

end Debuggee
