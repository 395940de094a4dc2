import CompactQuery.Command.Program

/-!
# Needs — what a run may ask of its surroundings

Surroundings can be gathered before a run: the files that it may ask for (`Invocation.paths`), and
the input if the run gets so far as to read it (`Invocation.readsInput`).
-/

namespace CompactQuery.Command

/-- The file of a source, if it is one. -/
def Source.paths : Source → List Path
  | .input => []
  | .file path => [path]

/-- The settings files that may be asked for. -/
def settingsPaths (environment : Environment) : Option Path → List Path
  | some path => [path]
  | none => usualSettings environment

namespace Invocation

/-- The files that an invocation may ask for. -/
def paths (environment : Environment) (invocation : Invocation) : List Path :=
  match invocation.request with
  | .build file _ _ =>
    settingsPaths environment invocation.settings ++ (Source.ofOperand file).paths
  | .explain file => (Source.ofOperand file).paths
  | .decode _ => []
  | .symbols => []

/-- Whether an invocation gets so far as to read the input, with these files around it. -/
def readsInput (here : Surroundings) (invocation : Invocation) : Bool :=
  match invocation.request with
  | .build file _ _ =>
    Source.ofOperand file = .input && (loadSettings here invocation.settings).result.toBool
  | .explain file => Source.ofOperand file = .input
  | .decode _ => false
  | .symbols => false

end Invocation

/-- Surroundings with these files and no others. -/
def Surroundings.ofFiles (environment : Environment) (terminal : Bool)
    (input : Except ReadFailure ByteArray)
    (files : List (Path × Except ReadFailure ByteArray)) : Surroundings :=
  { environment, terminal, input
    files := fun path => (files.lookup path).getD (.error .missing) }

end CompactQuery.Command
