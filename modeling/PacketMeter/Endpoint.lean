import PacketMeter.Net.Address
import PacketMeter.Path

/-!
# Endpoints

An endpoint is where the engine publishes its frames: a socket in the file
system, or a TCP address.  A text that starts with `tcp://` must go on with a
socket address.  Every other text is the path of a socket, in front of which
`unix://` may stand any number of times.
-/

namespace PacketMeter

/-- Where the engine publishes its frames. -/
inductive Endpoint where
  | unix (path : String)
  | tcp (address : Net.SocketAddress)
  deriving Repr, DecidableEq, Inhabited

namespace Endpoint

/-- The message about a text after `tcp://` that is no socket address. -/
def invalidAddress (s : String) : String :=
  "invalid address '" ++ s ++ "': invalid socket address syntax"

/-- The endpoint that a text describes. -/
def parse (s : String) : Except String Endpoint :=
  match Text.stripFront? "tcp://".toList s.toList with
  | some rest =>
    let address := String.ofList rest
    match Net.SocketAddress.parse? address with
    | some a => .ok (.tcp a)
    | none => .error (invalidAddress address)
  | none => .ok (.unix (String.ofList (Text.stripAllFront "unix://".toList s.toList)))

def text : Endpoint → String
  | unix path => "unix://" ++ path
  | tcp address => "tcp://" ++ address.text

/-- Whether two endpoints are the same place.  Paths are compared by their
components. -/
def same : Endpoint → Endpoint → Bool
  | unix a, unix b => Path.same a b
  | tcp a, tcp b => a == b
  | _, _ => false

/-- Whether the text of an endpoint describes the same place. -/
def reparses (e : Endpoint) : Bool :=
  match parse e.text with
  | .ok e' => e.same e'
  | .error _ => false

theorem same_self (e : Endpoint) : e.same e = true := by
  cases e <;> simp [same, Path.same_self]

end Endpoint

end PacketMeter
