import HostedScripts.Path

/-!
# Where the example files stand

The example scripts, modules, configurations, bundles and test cases of a workspace stand in fixed
directories below its root.
-/

namespace HostedScripts.Fixtures

/-- The directory of all example files. -/
def root (workspace : Path) : Path := workspace.join ⟨"fixtures"⟩

/-- An example script. -/
def script (workspace : Path) (name : String) : Path := ((root workspace).join ⟨"scripts"⟩).join ⟨name⟩

/-- The directory of the example modules. -/
def library (workspace : Path) : Path := (root workspace).join ⟨"lib"⟩

/-- An example configuration. -/
def config (workspace : Path) (name : String) : Path := ((root workspace).join ⟨"config"⟩).join ⟨name⟩

/-- An example bundle. -/
def bundle (workspace : Path) (name : String) : Path := ((root workspace).join ⟨"bundles"⟩).join ⟨name⟩

/-- The directory of the example test cases. -/
def cases (workspace : Path) : Path := (root workspace).join ⟨"cases"⟩

/-- An example test case. -/
def testCase (workspace : Path) (name : String) : Path :=
  (cases workspace).join ⟨name ++ ".case.json"⟩

end HostedScripts.Fixtures
