import OpcUaAdapter.ServerSettings

/-! The registrations at the discovery server that `workerThread` makes while it serves. -/

namespace OpcUaAdapter

/-- `UA_DATETIME_SEC`, the ticks of a second. -/
def dateTimeSec : BitVec 64 := 10000000

namespace ServerSettings

/-- `REREGISTER_INTERVAL_SEC`, from a period in minutes. -/
def reregisterIntervalSec (settings : ServerSettings) : BitVec 64 := BitVec.ofNat 64 settings.ldsRegisterPeriod * 60

/-- The time of the next registration after one at `now`. The sum is made without a sign. -/
def reregisterAt (settings : ServerSettings) (now : BitVec 64) : BitVec 64 :=
  now + settings.reregisterIntervalSec * dateTimeSec

/-- The times of the registrations, for the time that each iteration of the loop reads. -/
def registrations (settings : ServerSettings) : BitVec 64 → List (BitVec 64) → List (BitVec 64)
  | _, [] => []
  | nextReregister, now :: later =>
    if settings.registerLDS && nextReregister.sle now then
      now :: settings.registrations (settings.reregisterAt now) later
    else settings.registrations nextReregister later

end ServerSettings

end OpcUaAdapter
