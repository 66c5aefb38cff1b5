import FleetFeed.Tail.Input

/-! The console as a program. Its settings come from the environment and a file, and what happens at its sockets from
standard input; its lines go to standard output, and the frames to be sent to standard error. -/

open FleetFeed Config Tail

namespace FleetFeed.Program

def variableNames : List String :=
  ["FLEETWATCH_ENDPOINT", "FLEETWATCH_PAGE_LOCATION", "FLEETWATCH_DEV_PORT", "FLEETWATCH_BACKEND_PORT", "FLEET_TAIL_CONTAINER",
   "FLEET_TAIL_WINDOW", "FLEET_TAIL_CONFIG"]

def environment : IO Environment := do
  let values ← variableNames.mapM fun name => return (name, ← IO.getEnv name)
  return fun name => (values.lookup name).join

def settings : IO TailConfig := do
  let env ← environment
  let file ← (IO.FS.readBinFile (TailConfig.fileName env)).toBaseIO
  return TailConfig.load env file.toOption

def report (effect : Effect) : IO Unit := do
  for line in effect.lines do IO.println line
  for a in effect.actions do
    match a.action with
    | .send f => IO.eprintln (Feed.boardName a.topic ++ " " ++ f.text)
    | .close => IO.eprintln (Feed.boardName a.topic ++ " close")
    | .deliver _ => pure ()

partial def follow (input : IO.FS.Stream) (p : Progress) : IO UInt32 := do
  match p with
  | .finished success => return if success then 0 else 1
  | p =>
    let line ← input.getLine
    if line.isEmpty then return 0
    match Input.ofLine? (String.ofList (line.toList.takeWhile (· != '\n'))) with
    | some i =>
      let (p, effect) := p.step i
      Program.report effect
      follow input p
    | none => follow input p

end FleetFeed.Program

def main : IO UInt32 := do
  let c ← Program.settings
  Program.follow (← IO.getStdin) (.asking c)
