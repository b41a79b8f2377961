import PacketMeter.Engine.Rig

/-!
# Bare systems

A bare system has files but cannot run processes, and nobody listens on it.  Every
use of an engine fails there, with the fault of a function that the system does not
have.
-/

namespace PacketMeter.Program

/-- A system without processes. -/
structure Bare where
  files : FileSystem
  deriving Inhabited

namespace Bare

/-- The fault of a function that the system does not have. -/
def notImplemented : Fault := .system 38

instance : Engine.SystemHost Bare where
  ask _ b := (.error notImplemented, b)
  files b := b.files
  setFiles files _ := ⟨files⟩
  attempt _ _ _ := .error notImplemented

end Bare

end PacketMeter.Program
