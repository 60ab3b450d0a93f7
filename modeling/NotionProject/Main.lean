import NotionProject.Program

/-!
# The executable

There is no connection to a network here: every request finds the server out of reach.
-/

/-- Runs the program with the arguments and the environment it was started with. -/
def main (arguments : List String) : IO UInt32 := do
  let key ← IO.getEnv NotionProject.Config.keyVariable
  let report := NotionProject.Program.run ⟨arguments, key, none⟩ .offline
  IO.print report.stdout
  IO.eprint report.stderr
  pure (UInt32.ofNat report.exit)
