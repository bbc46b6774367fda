/-!
The stack that values are read on. Reading goes deeper with every bracket that is open, and it ends
where there is no room left for another one, whatever stands behind it.
-/
namespace CredoAssistant

/-- The room that is left for values within values: brackets of a JSON text that may be open at a
time, and calls that the values of a TOML document may take. Three levels always fit; no report and
no payload that is written here nests deeper. -/
structure Stack where
  levels : Nat
  calls : Nat
  enough : 3 ≤ levels
  deriving DecidableEq, Repr

/-- What is about left of a stack of a thousand calls. -/
def Stack.usual : Stack := ⟨970, 960, by decide⟩

instance : Inhabited Stack := ⟨.usual⟩

end CredoAssistant
