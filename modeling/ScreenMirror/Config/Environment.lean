import ScreenMirror.Config.Basic
import ScreenMirror.Text.Integer

/-!
# Settings in the environment

Variables of the environment override some settings of the configuration.
-/

namespace ScreenMirror

abbrev Environment := String → Option String

namespace Environment

def names : List String :=
  ["MIRROR_COMP_DISABLE_SLR", "MIRROR_COMP_DISABLE_VIRTUAL_DIRTY", "MIRROR_COMP_FORCE_CPU",
    "MIRROR_COMP_REFRESH_RATE"]

/-- Whether a value of a switch turns it on.  The words have no other letters that
become ASCII ones in lower case. -/
def turnsOn (value : String) : Bool := ["1", "true", "yes", "y"].contains value.toLower

def truth? (value : String) : Option Bool :=
  match String.ofList (trim value.toList) with
  | "true" => some true
  | "false" => some false
  | _ => none

def switchedOn (env : Environment) (name : String) : Bool := (env name).any turnsOn

/-- The refresh rate that the environment asks for; zero is none. -/
def refreshRate? (env : Environment) : Option UInt32 := do
  let rate ← IntegerKind.ofSetting? (IntegerKind.unsigned 32)
    (← env "MIRROR_COMP_REFRESH_RATE").toList
  if rate = 0 then none else some (UInt32.ofNat rate.toNat)

end Environment

namespace Config

variable {K : Type}

def override (c : Config K) (env : Environment) : Config K :=
  let features := c.features
  { c with
    refreshRate := env.refreshRate?.getD c.refreshRate
    features := { features with
      slrScale := features.slrScale && !env.switchedOn "MIRROR_COMP_DISABLE_SLR"
      virtualDirty :=
        features.virtualDirty && !env.switchedOn "MIRROR_COMP_DISABLE_VIRTUAL_DIRTY"
      forceCpu :=
        ((env "MIRROR_COMP_FORCE_CPU").map Environment.turnsOn).getD features.forceCpu } }

end Config

end ScreenMirror
