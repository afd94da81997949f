import TlsScan.Config
import TlsScan.Json.Codec

/-!
# Scan configurations in JSON

Fields that are absent have their defaults.
-/

namespace TlsScan

open Json

instance : Codec Config where
  encode c :=
    .object
      [("threads", Codec.encode c.threads), ("scan_detail", Codec.encode c.thoroughness),
       ("watchdog_interval_ms", Codec.encode c.watchdogMillis),
       ("force_join_timeout_ms", Codec.encode c.forceJoinMillis),
       ("connect_timeout_ms", Codec.encode c.connectMillis),
       ("check_reachability", Codec.encode c.checkReachability)]
  decode? d := do
    match ← d.record? ["threads", "scan_detail", "watchdog_interval_ms",
        "force_join_timeout_ms", "connect_timeout_ms", "check_reachability"] 0 with
    | [threads, thoroughness, watchdog, forceJoin, connect, checkReachability] =>
      return {
        threads := ← withDefault? Config.default.threads threads
        thoroughness := ← withDefault? Config.default.thoroughness thoroughness
        watchdogMillis := ← withDefault? Config.default.watchdogMillis watchdog
        forceJoinMillis := ← withDefault? Config.default.forceJoinMillis forceJoin
        connectMillis := ← withDefault? Config.default.connectMillis connect
        checkReachability :=
          ← withDefault? Config.default.checkReachability checkReachability }
    | _ => none

end TlsScan
