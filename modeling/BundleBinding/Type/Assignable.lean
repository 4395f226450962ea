import BundleBinding.Type.Hierarchy

/-!
Assignment compatibility. Type arguments are invariant unless the target argument is a wildcard; a
raw type on either side, or a step to a proper supertype, leaves them unchecked.
-/

namespace BundleBinding.TypeTable

open TypeRef

mutual

/-- Can a value of the first type be stored where the second is declared? -/
def isAssignable (table : TypeTable) (source target : TypeRef) : Bool :=
  match source, target with
  | primitive left, primitive right => left == right
  | primitive _, _ => false
  | _, primitive _ => false
  | extending bound, target => table.isAssignable bound target
  | anything, declared name _ => name == object
  | anything, _ => false
  | _, anything => true
  | source, extending bound => table.isAssignable source bound
  | array left, array right => table.isAssignable left right
  | array _, declared name _ => name == object || name == cloneable || name == serializable
  | declared _ _, array _ => false
  | declared sub subArguments, declared super superArguments =>
      table.isSubtype sub super &&
        (subArguments.isEmpty || superArguments.isEmpty || sub != super ||
          table.argumentsFit subArguments superArguments)
termination_by sizeOf source + sizeOf target

/-- Do two lists of type arguments have one length, and does each argument fit its partner? -/
def argumentsFit (table : TypeTable) (sources targets : List TypeRef) : Bool :=
  match sources, targets with
  | [], [] => true
  | source :: sources, target :: targets =>
      (if target.isWildcard then table.isAssignable source target else source == target) &&
        table.argumentsFit sources targets
  | _, _ => false
termination_by sizeOf sources + sizeOf targets

end

end BundleBinding.TypeTable
