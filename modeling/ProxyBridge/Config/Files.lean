import ProxyBridge.Config.Text
import ProxyBridge.FileTree

/-!
# Configuration files

A configuration is loaded from a file and saved to one, and it is discovered: the nearest file of a
fixed name that holds a configuration, in a directory or in one above it, is the one that counts.
-/

namespace ProxyBridge.Config

/-- The name of the file that is looked for. -/
def fileName : String := ".foreign-proxy.toml"

variable (toml : Toml.Codec)

/-- The configuration in a text that was read. -/
def ofRead : Option String → Except ConfigError Config
  | none => .error .read
  | some text => parse toml text

/-- The configuration in a file. -/
def load (t : FileTree) (path : String) : Except ConfigError Config := ofRead toml (t.read? path)

/-- The tree after a configuration is saved to a file. Nothing is written if the configuration has
no text. -/
def save (c : Config) (t : FileTree) (path : String) : Except ConfigError FileTree := do
  let text ← c.text toml
  match t.write? path text with
  | some t => .ok t
  | none => .error .write

/-- The configuration in the file of the fixed name in a directory. -/
def inDirectory? (t : FileTree) (d : Place) : Option Config :=
  (ofRead toml (t.textAt? (d ++ [fileName]))).toOption

/-- The configuration that counts in a directory, the default one if there is none. -/
def discoverAt (t : FileTree) (d : Place) : Config :=
  (d.upward.findSome? (inDirectory? toml t)).getD {}

/-- The configuration that counts in the directory with a given path. -/
def discover (t : FileTree) (path : String) : Config :=
  ((t.locate? path).map (discoverAt toml t)).getD {}

end ProxyBridge.Config
