/-!
# Plugins

The contract between a plugin and its host. The host starts every plugin, lets those finish that
have a second start step once all of them have started, and stops them in the end. A plugin says
how its state changes at each of these moments; the order of the calls is up to the host.
-/
namespace PluginSupport

/-- A plugin whose state is of type `σ` and whose errors are of type `ε`. -/
structure Plugin (σ ε : Type) where
  name : String
  /-- The first start step. -/
  init : σ → Except ε σ
  /-- The end of the plugin's life. -/
  close : σ → Except ε σ
  /-- The second start step, for the plugins that have one. -/
  afterInit : Option (σ → Except ε σ) := none

/-- Whether a plugin has a second start step. -/
def Plugin.hasPostInit {σ ε : Type} (plugin : Plugin σ ε) : Bool :=
  plugin.afterInit.isSome

end PluginSupport
