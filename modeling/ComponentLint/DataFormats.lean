import ComponentLint.Fault

/-!
The readers of TOML and YAML, which are packages of their own: a run is given them. JSON has its
reader in this library.
-/

namespace ComponentLint

/-- What the packages make of data files. A YAML file is decoded by its reader, which may stop
before it comes to bytes that are no text. -/
class DataFormats where
  /-- The top table of a TOML text. -/
  toml : String → Except ReadFailure (List (Value × Value))
  /-- The value of a YAML text. -/
  yaml : String → Except ReadFailure Value
  /-- The value of a YAML file. -/
  yamlFile : ByteArray → Except ReadFailure Value

end ComponentLint
