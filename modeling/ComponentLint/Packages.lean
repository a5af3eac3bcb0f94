import ComponentLint.Console
import ComponentLint.Console.Style
import ComponentLint.Console.Table
import ComponentLint.DataFormats
import ComponentLint.File.Store
import ComponentLint.Pattern.Engine
import ComponentLint.Pattern.Parser
import ComponentLint.Script.Grammar
import ComponentLint.Script.Kind
import ComponentLint.Script.Language
import ComponentLint.Toml.Reader
import ComponentLint.Yaml.Node

/-!
What the program runs with where the library leaves a package open: readers of TOML and YAML, a
search for expressions, a grammar of scripts, and a console. They come close to the packages they
stand for, and nothing is proved of them; the theory holds for any others as well.
-/

namespace ComponentLint

instance : DataFormats where
  toml := Toml.parse
  yaml := Yaml.parse
  yamlFile b :=
    match Workspace.decode? b with
    | some text => Yaml.parse text
    | none => .error (.crash .undecodable)

instance : Pattern.Engine where
  compile source :=
    match Pattern.parse source with
    | .ok r => .ok r.search
    | .error .invalid => .error .invalid
    | .error .tooLarge => .error (.crash .overflow)

instance : Script.Language where
  kinds := Script.knownKinds
  parse := Script.parseTree

instance : Console where
  print text := (Console.render text).map Console.paragraph
  table header rows := do
    return (Console.Table.mk (← header.mapM Console.render)
      (← rows.mapM fun row => row.mapM Console.render)).render
  escape := Console.escapeText

end ComponentLint
