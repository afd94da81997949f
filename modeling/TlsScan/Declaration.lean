import TlsScan.Requirement

/-!
# Declarations

What a probe says about itself before a scan: what it needs, and what it will write.
-/

namespace TlsScan

/-- **What a probe says about itself.** -/
structure Declaration where
  probe : ProbeId
  /-- What has to be known before it may run. -/
  requirement : Requirement
  /-- The properties that its result writes. -/
  properties : List Property
  /-- The sets that its result adds to. -/
  contributions : Selection FactSet

namespace Declaration

/-- A probe that needs nothing and writes no facts. -/
def bare (p : ProbeId) : Declaration := ⟨p, .none, [], .empty⟩

/-- The properties that its result writes, as a set. -/
def propertySet (d : Declaration) : Selection Property := .ofList d.properties

/-- The probes that have to be executed before it in any case. -/
def dependencies (d : Declaration) : List ProbeId := d.requirement.requiredProbes

end Declaration

end TlsScan
