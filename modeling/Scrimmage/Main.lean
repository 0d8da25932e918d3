import Scrimmage.Console

namespace Scrimmage

def settingNames : List String :=
  ["GS_BIND_ADDRESS", "GS_HEALTH_BIND_ADDRESS", "GS_SERVER_ID", "GS_MAX_PLAYERS_PER_TEAM",
    "GS_HANDSHAKE_TIMEOUT_SECONDS", "GS_SHUTDOWN_TIMEOUT_SECONDS"]

def readEnvironment : IO Settings.Environment := do
  let mut env := []
  for name in settingNames do
    if let some raw ← IO.getEnv name then env := env ++ [(name, raw)]
  return env

/-- Eight random digits in base sixteen. -/
def randomSuffix : IO String := do
  let digits ← (List.range 8).mapM fun _ => IO.rand 0 15
  return String.ofList (digits.flatMap Text.hexDigits)

partial def serve (input : IO.FS.Stream) (s : Server) : IO Server := do
  let line ← input.getLine
  if line.isEmpty then return s
  match Console.Input.ofLine? line with
  | none => serve input s
  | some doing =>
    let (lines, s) := Console.act s doing
    for line in lines do IO.println line
    serve input s

end Scrimmage

open Scrimmage in
def main : IO UInt32 := do
  let env ← readEnvironment
  match Deployment.launch ⟨[]⟩ env (← IO.getEnv "HOSTNAME") (← randomSuffix) with
  | .error fault =>
    IO.eprintln fault.report
    return 1
  | .ok d =>
    let server ← serve (← IO.getStdin) d.server
    match { d with server }.shutdown 0 0 0 (d.settings.shutdownTimeoutSeconds * Clock.second) with
    | none =>
      IO.eprintln Clock.overflow
      return 101
    | some (_, d) =>
      for line in (Console.collect d.server).1 do IO.println line
      return 0
