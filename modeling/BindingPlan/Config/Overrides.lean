import BindingPlan.Config.Check

/-! # Overrides

Four settings can be overridden from outside by named values, for instance from the environment.
Values are applied in order, names without a meaning are passed over, and only the final
configuration has to be usable. -/

namespace BindingPlan.Config

/-- The configuration with one setting overridden, if the name is that of a setting. -/
def override (config : Config) (name value : String) : Except NameFault Config :=
  match name with
  | "AUTOBIND_DEFAULT_SCOPE" => do
    let scope ← ClassName.ofDotted? value
    .ok { config with types := { config.types with defaultScope := scope } }
  | "AUTOBIND_NAME_SEPARATOR" =>
    .ok { config with naming := { config.naming with separator := value } }
  | "AUTOBIND_BIND_PREFIX" =>
    .ok { config with naming := { config.naming with bindPrefix := value } }
  | "AUTOBIND_PROVIDE_PREFIX" =>
    .ok { config with naming := { config.naming with providePrefix := value } }
  | _ => .ok config

/-- The configuration with all overrides applied, before it is checked. -/
def overrideAll : Config → List (String × String) → Except NameFault Config
  | config, [] => .ok config
  | config, (name, value) :: rest => do
    let config ← config.override name value
    config.overrideAll rest

/-- The configuration with all overrides applied, if it can be used. -/
def overridden (config : Config) (overrides : List (String × String)) :
    Except ConfigFault Config :=
  match config.overrideAll overrides with
  | .error fault => .error (.badName fault)
  | .ok config => config.check

end BindingPlan.Config
