import Fms.Devices.DeviceReport

/-! `DeviceDashboard`: the report about the devices, which is kept for two minutes. -/

namespace Fms

/-- What the dashboard keeps between two calls. -/
structure DeviceDashboard where
  /-- `ValidDashboard_`. -/
  valid : Bool := false
  /-- `DB_`. -/
  db : DeviceReport := {}
  /-- `LastRun_`. -/
  lastRun : UInt64 := 0

namespace DeviceDashboard

/-- The test of `Get`: whether the report is made anew. -/
def stale (now : UInt64) (d : DeviceDashboard) : Bool := !d.valid || d.lastRun = 0 || 120 < now - d.lastRun

/-- `Generate`, by one caller, who takes the time when the report is there. -/
def generate (type : DBType) (c : Catalogue) (devices : DevicesTable) (stamped : UInt64) : DeviceDashboard :=
  let NewData := { DevicesDB.generateDeviceReport type c devices {} with snapshot := stamped }
  { valid := true, db := NewData, lastRun := stamped }

/-- `Get`, by one caller: whether it succeeds, and the report. -/
def get (type : DBType) (c : Catalogue) (devices : DevicesTable) (now stamped : UInt64) (d : DeviceDashboard) :
    Bool × DeviceReport × DeviceDashboard :=
  let d := if stale now d then generate type c devices stamped else d
  (d.valid, d.db, d)

end DeviceDashboard

end Fms
