import PacketMeter.Engine.Rig
import PacketMeter.Program.Event
import PacketMeter.Program.Request
import PacketMeter.Session.Controller

/-!
# Listing devices

A listing prints one line for every device of an engine.
-/

namespace PacketMeter.Program.Listing

variable {σ : Type} [Engine.SystemHost σ]

/-- Prints the devices of an engine. -/
def run (request : DevicesRequest) (system : σ) : Except Problem Unit × List Event × σ :=
  let rig : Engine.Rig σ := ⟨request.engine, Marker.named "" request.cfg.capture.signal, system⟩
  match Session.Controller.devices request.cfg.enumeration rig with
  | (.error f, rig) => (.error (.failure f), [], rig.system)
  | (.ok devices, rig) => (.ok (), devices.map fun d => .printed d.text, rig.system)

end PacketMeter.Program.Listing
