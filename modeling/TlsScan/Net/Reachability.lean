import TlsScan.Duration
import TlsScan.Net.Target

/-!
# Reachability

Whether a target accepts connections.  How connections are made is a parameter.

## Main Definitions

* `Net.Target.checkReachable` — the first address of a target that accepts a connection.
-/

namespace TlsScan.Net

/-- How a connection to an address is tried, for at most the given time. -/
abbrev Connect := Duration → SocketAddress → Except Fault Unit

namespace Target

/-- The first address of a list that accepts a connection; otherwise the fault of the last
one, or the fault given. -/
def firstReachable (connect : Connect) (timeout : Duration) :
    List SocketAddress → Option Fault → Except (Option Fault) SocketAddress
  | [], last => .error last
  | a :: l, _ =>
    match connect timeout a with
    | .ok () => .ok a
    | .error f => firstReachable connect timeout l (some f)

/-- **The first address of the target that accepts a connection.** -/
def checkReachable (connect : Connect) (timeout : Duration) (t : Target) :
    Except Fault SocketAddress :=
  match firstReachable connect timeout t.socketAddresses none with
  | .ok a => .ok a
  | .error (some f) => .error (f.context (t.label ++ " is not reachable"))
  | .error none => .error ⟨t.label ++ " has no addresses", []⟩

end Target

end TlsScan.Net
