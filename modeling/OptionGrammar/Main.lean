import OptionGrammar.Cli.Run

/-
  The grammar tool as a program: it reads its command line, the
  files the command names, and prints what the run gives.
-/

open OptionGrammar Cli

/- Read a file, telling a failure to open it from a failure to read it. -/
def readFileText (path : String) : IO FileText := do
  let handle ← try
      let h ← IO.FS.Handle.mk path .read
      pure (Except.ok h)
    catch e => pure (Except.error e)
  match handle with
  | .error (.noFileOrDirectory ..) => return .unopenable noSuchFile
  | .error e => return .unopenable (toString e)
  | .ok h =>
      try
        let text ← h.readToEnd
        return .contents text
      catch e =>
        match e with
        | .inappropriateType .. => return .unreadable isADirectory
        | e => return .unreadable (toString e)

def main (args : List String) : IO UInt32 := do
  let outcome ← match readCommandLine args with
    | .error stop => pure stop.outcome
    | .ok inv =>
        let (g, c) := inv.files
        let grammar ← readFileText g
        let config ← match c with
          | some p => some <$> readFileText p
          | none => pure none
        pure (inv.run grammar config)
  IO.print outcome.stdout
  IO.eprint outcome.stderr
  return outcome.status.toUInt32
