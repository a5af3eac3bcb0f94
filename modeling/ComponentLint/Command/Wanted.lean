import ComponentLint.Command.Run

/-!
The files a command line looks at. A run sees a finite file tree; this tells which paths the tree
should hold, given what is in it so far, so that a caller can fill it step by step.
-/

namespace ComponentLint.Command

/-- The path behind a link that was not found. -/
def missingPath? : Warning → Option String
  | .importNotFound href document => some (Path.resolve document href)
  | .scriptNotFound src document => some (Path.resolve document src)
  | _ => none

/-- The paths that configuration is looked for at. -/
def configurationPaths (w : Workspace) (env : Environment) (a : Arguments) : List String :=
  a.config.toList ++ (env.nonEmpty? Warning.configVariable).toList ++
    Settings.candidates w

/-- The path of the policy, once the settings are known. -/
def policyPaths (s : Settings) (a : Arguments) : List String :=
  a.policy.toList ++ (match s.policy with
    | .str path => [path]
    | _ => [])

/-- The paths that the inputs refer to and that are missing. -/
def linkedPaths (w : Workspace) (s : Settings) (a : Arguments) : List String :=
  let task := { taskOf a s none with disabled := [] }
  match task.run w a.files with
  | .ok progress => progress.warnings.filterMap missingPath?
  | .error _ => []

/-- All paths a command line looks at. -/
def wanted (w : Workspace) (env : Environment) (args : List String) : List String :=
  match parse? globalSpecs false args with
  | some { arguments := "lint" :: rest, .. } =>
    match parse? lintSpecs true rest with
    | none => []
    | some p =>
      let a := p.lintArguments
      let s := match (Settings.load w env [] a.config).result with
        | .ok s => s
        | .error _ => {}
      p.arguments ++ configurationPaths w env a ++ policyPaths s a ++ linkedPaths w s a
  | _ => []

end ComponentLint.Command
