import BundleBinding.Registry
import BundleBinding.Value.Json

/-!
Bundles: values under keys, in the order in which the keys were first written.
-/

namespace BundleBinding

abbrev Bundle := Registry String Value

namespace Bundle

/-- The value stored under a key, if it is of the form that `view` shows. -/
def view? {α : Type} (bundle : Bundle) (key : String) (view : Value → Option α) : Option α :=
  (bundle.get? key).bind view

def boolean? (bundle : Bundle) (key : String) : Option Bool :=
  bundle.view? key fun | .boolean value => some value | _ => none

def int? (bundle : Bundle) (key : String) : Option Int32 :=
  bundle.view? key fun | .int value => some value | _ => none

def long? (bundle : Bundle) (key : String) : Option Int64 :=
  bundle.view? key fun | .long value => some value | _ => none

def double? (bundle : Bundle) (key : String) : Option Double :=
  bundle.view? key fun | .double value => some value | _ => none

def string? (bundle : Bundle) (key : String) : Option String :=
  bundle.view? key fun | .string value => some value | _ => none

/-- Strings are character sequences too. -/
def charSequence? (bundle : Bundle) (key : String) : Option String :=
  bundle.view? key fun | .charSequence value => some value | .string value => some value | _ => none

def kindOf? (bundle : Bundle) (key : String) : Option Kind :=
  (bundle.get? key).map Value.kind

def toJson (bundle : Bundle) : Json :=
  Json.ofMembers (bundle.entries.map fun entry => (entry.1, entry.2.toJson))

end Bundle

end BundleBinding
