import PacketMeter.FileSystem
import PacketMeter.Frame.File
import PacketMeter.Program.Event
import PacketMeter.Program.Request
import PacketMeter.Stats.Aggregator

/-!
# Replay

A replay counts the records of a frame file that a filter selects, says how many
there are, and shows one snapshot of them.
-/

namespace PacketMeter.Program

open PacketMeter.Stats

/-- Without feeds every question to one fails. -/
instance : FeedHost Unit where
  answer _ _ s := (.error Aggregator.noFeed, s)

namespace Replay

/-- The records of a frame file, given what was found at its path. -/
def records : Except Fault Node → Except Problem (List PacketRecord)
  | .error f => .error (.fault f)
  | .ok .directory => .error (.failure (.io FileSystem.isADirectory))
  | .ok (.file bytes) =>
    match FrameFile.load [.data bytes] with
    | .error f => .error (.failure f)
    | .ok records => .ok records

/-- The statistics of records. -/
def count (records : List PacketRecord) : Aggregator :=
  (Aggregator.make StatsConfig.default).recordAll records

/-- The line about the number of records. -/
def summary (path : String) (matched total : Nat) : String :=
  path ++ ": " ++ toString matched ++ " of " ++ toString total ++ " records matched"

/-- Replays the file at the path of a request, given what was found there. -/
def run (request : ReplayRequest) (found : Except Fault Node) (now : Moment) :
    Except Problem Unit × List Event :=
  match records found with
  | .error p => (.error p, [])
  | .ok all =>
    let matched := request.filter.select all
    let line := .logged .info (summary request.path matched.length all.length)
    match (count matched).tick now () with
    | (.error f, _, _) => (.error (.failure f), [line])
    | (.ok snapshot, _, _) => (.ok (), [line, .shown request.output snapshot])

end Replay

end PacketMeter.Program
