import CommandGateway.Api.Description

/- The command line: writes the description of the interface to the named file, or else to the
   standard output. -/
namespace CommandGateway.Api

def descriptionText : String := (describe defaultCommandsPath).toJson.pretty

def writeDescription (path : String) : IO UInt32 := do
  try
    IO.FS.writeFile path descriptionText
    return 0
  catch e =>
    IO.eprintln ("Error: Failed to write OpenAPI document to " ++ path ++ "\n\nCaused by:\n    " ++
      toString e)
    return 1

end CommandGateway.Api

def main (args : List String) : IO UInt32 := do
  match args with
  | path :: _ => CommandGateway.Api.writeDescription path
  | [] =>
    IO.println CommandGateway.Api.descriptionText
    return 0
