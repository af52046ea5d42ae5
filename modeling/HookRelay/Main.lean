import HookRelay.Manifest.Source

/-!
# The command

Prints the definition of sources, which is applied to a cluster before the controller starts.
-/

/-- Prints the definition of sources. -/
def main : IO Unit := IO.print HookRelay.Manifest.text
