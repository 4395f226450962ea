import BundleBinding.Fault
import BundleBinding.FileTree
import BundleBinding.Java.Source
import BundleBinding.Toml.Printer
import BundleBinding.Toml.Reader

/-!
Settings of the resolver, the binders and the generated classes, as TOML texts hold them.
-/

namespace BundleBinding

structure Config where
  /-- What the names of hosts may not begin with. -/
  reservedNamespaces : List String
  /-- Log every bound entry. -/
  debug : Bool
  /-- Compile all methods of a service when it is created. -/
  validateEagerly : Bool
  binderSuffix : String
  deriving Repr, DecidableEq

namespace Config

def standard : Config :=
  { reservedNamespaces := ["android.", "java."]
    debug := false
    validateEagerly := false
    binderSuffix := Java.defaultSuffix }

/-! ### Reading -/

open Toml (Entries)

/-- The settings of a section under their names. The names may be left out, if the settings stand in
their order; a moment in the place of a section sets nothing. -/
def settings? (names : List String) : Option Toml.Item → Option (List (String × Toml.Item))
  | none => some []
  | some (.table _ entries) => some entries
  | some (.array items) => some (names.zip items)
  | some (.tables elements) => some (names.zip (elements.map (.table .header)))
  | some .moment => some []
  | some _ => none

def setting? {α : Type} (settings : List (String × Toml.Item)) (name : String)
    (read : Toml.Item → Option α) (absent : α) : Option α :=
  match settings.lookup name with
  | some value => read value
  | none => some absent

def boolean? : Toml.Item → Option Bool
  | .boolean value => some value
  | _ => none

def string? : Toml.Item → Option String
  | .string text => some text
  | _ => none

def strings? : Toml.Item → Option (List String)
  | .array items => items.mapM string?
  | _ => none

/-- The settings of a document. Sections and settings of other names are ignored. -/
def ofEntries? (entries : Entries) : Option Config := do
  let section? (name : String) (names : List String) : Option (List (String × Toml.Item)) :=
    settings? names (entries.lookup name)
  let resolver ← section? "resolver" ["reserved_namespaces"]
  let runtime ← section? "runtime" ["debug", "validate_eagerly"]
  let emitter ← section? "emitter" ["binder_suffix"]
  return {
    reservedNamespaces :=
      ← setting? resolver "reserved_namespaces" strings? standard.reservedNamespaces
    debug := ← setting? runtime "debug" boolean? standard.debug
    validateEagerly := ← setting? runtime "validate_eagerly" boolean? standard.validateEagerly
    binderSuffix := ← setting? emitter "binder_suffix" string? standard.binderSuffix }

def ofText (text : String) : Except Fault Config :=
  match (Toml.parse? text).bind ofEntries? with
  | some config => pure config
  | none => throw (.configuration ("Failed to parse config: " ++ Fault.elided))

def unreadable (path : String) (fault : ReadFault) : Fault :=
  .configuration ("Failed to read config file " ++ path ++ ": " ++ fault.message)

/-- The settings with those of the environment, where a word may turn debugging on or off. -/
def withEnvironment (debug : Option String) (config : Config) : Config :=
  match debug with
  | some word => { config with debug := word == "1" || word == "true" || word == "yes" }
  | none => config

/-! ### Writing -/

def render (config : Config) : String :=
  let flag (value : Bool) : String := if value then "true" else "false"
  String.join
    ["[resolver]\n",
     "reserved_namespaces = ", Toml.renderStrings config.reservedNamespaces, "\n\n",
     "[runtime]\n",
     "debug = ", flag config.debug, "\n",
     "validate_eagerly = ", flag config.validateEagerly, "\n\n",
     "[emitter]\n",
     "binder_suffix = ", Toml.renderString config.binderSuffix, "\n"]

end Config

end BundleBinding
