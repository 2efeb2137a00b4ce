import Telemetry.Configuration.Properties
import Telemetry.Text.Quoted

/-!
# Registries of components

A registry knows kinds of components by their tags. Which kind a component is, its property `type`
says; the other properties configure it.
-/

namespace Telemetry

/-- Makes a component with the given name from its properties. -/
abbrev Builder (α : Type) := String → Properties → Except ConfigurationError α

abbrev Registry (α : Type) := NameMap (Builder α)

namespace Registry

variable {α : Type}

/-- A builder takes the place of one with the same tag. -/
def register (r : Registry α) (tag : String) (builder : Builder α) : Registry α :=
  r.insert tag builder

def build (r : Registry α) (id : String) (p : Properties) : Except ConfigurationError α :=
  let (tag, p) := p.takeRequired "type"
  match tag with
  | .error e => .error e
  | .ok tag =>
    match r.get? tag with
    | some builder => builder id p
    | none => .error (.invalid "type" tag (.unknownComponent r.keys))

/-- The registry as diagnostics show it: its tags, quoted. -/
def text (r : Registry α) : String :=
  "ComponentRegistry \x7b types: [" ++ ", ".intercalate (r.keys.map Text.quoted) ++ "] \x7d"

end Registry

end Telemetry
