import CompletionRing.Demo.CommandLine

namespace CompletionRing

open CommandLine

def Event.line (json : Bool) (e : Event) : String :=
  let shown := e.fields.map fun field =>
    let text := match field.2 with
      | .number n => Decimal.text n
      | .truth b => Text.truth b
      | .text s => if json then Text.quoted s else s
    if json then ",\"" ++ field.1 ++ "\":" ++ text else " " ++ field.1 ++ "=" ++ text
  if json then
    "\x7b\"level\":\"" ++ e.level.name ++ "\",\"message\":\"" ++ e.message ++ "\"" ++ String.join shown ++ "\x7d"
  else e.level.name ++ " " ++ e.message ++ String.join shown

def variableNames : List String :=
  [logVariable, formatVariable, Config.entriesVariable, Config.batchLimitVariable, Config.pollIntervalVariable]

end CompletionRing

open CompletionRing CommandLine in
def main : IO UInt32 := do
  let mut found : List (String × String) := []
  for name in variableNames do
    if let some value ← IO.getEnv name then
      found := (name, value) :: found
  let report := CommandLine.run fun name => (found.lookup name).map String.toUTF8
  for event in report.events do
    IO.println (event.line report.json)
  if let some failure := report.failure then
    IO.eprintln failure.text
  while !report.ends do
    IO.sleep 1000
  return report.exitCode.toUInt32
