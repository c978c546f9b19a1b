import TemplateFacts.Compiler.Script
import TemplateFacts.FileTree.Replace
import TemplateFacts.Settings.Layers

/-! What surrounds a run of the program. -/

namespace TemplateFacts

/-- The surroundings of a run. -/
structure Host where
  disk : FileTree.Disk
  tree : FileTree
  /-- The environment. -/
  environment : List (String × String)
  /-- The names that lead to the file of the compiler. -/
  compilerFile : List String
  /-- What the compiler does when it is run. -/
  script : Compiler.Script
  /-- How files of settings are read that are neither TOML nor JSON. -/
  foreign : Settings.File.ForeignReader := Settings.File.readNothing

namespace Host

/-- The working directory. -/
def cwd (host : Host) : Path := host.disk.setting.cwd

/-- The programs that can be run. -/
def programs (host : Host) : Compiler.Programs := ⟨host.cwd, host.compilerFile, host.script⟩

/-- Loads the settings of a run. -/
def settings (host : Host) (file : Option Path) (overrides : Settings.Overrides) :
    Except Error Settings :=
  Settings.load host.cwd host.tree ⟨file, host.environment, overrides, host.foreign⟩

end Host

namespace Settings

/-- How the settings say that the compiler is run. -/
def command (settings : Settings) : Compiler.Command :=
  ⟨settings.compiler.path, settings.compiler.args⟩

/-- The time that the compiler may take to connect, in microseconds. -/
def patience (settings : Settings) : Nat := settings.compiler.connectTimeout * 1000000

end Settings

end TemplateFacts
