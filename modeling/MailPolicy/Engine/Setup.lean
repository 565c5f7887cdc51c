/-
From the text of a configuration to an engine.
-/
import MailPolicy.Config.Reading
import MailPolicy.Engine.Basic

namespace MailPolicy

/-- A configuration with its engine and the first state of the engine. -/
structure Setup where
  config : Config
  engine : Engine
  state : EngineState

/-- Reads a configuration and builds its engine at the instant `now`. -/
def Setup.read (text : Text) (now : Nat) (files : Files) : Except Fault Setup :=
  match Config.read text with
  | .error e => .error e.fault
  | .ok config => (Engine.build config now files).map fun (engine, state) => ⟨config, engine, state⟩

end MailPolicy
