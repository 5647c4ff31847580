import ModuleHooks.Text.Basic

/-!
The version of the program and of the form of its machine-readable output.
-/
namespace ModuleHooks.Version

def program : Text := "tshook".toList

def number : Text := "0.2.0".toList

/-- The version of the machine-readable output. -/
def schema : Nat := 1

def text : Text := program ++ ' ' :: number

end ModuleHooks.Version
