import BundleBinding.Proofs.SubtypeSearch
import BundleBinding.Type.Assignable
import Mathlib.Data.List.Forall2

/-!
# The rules of assignment

The check of assignability is a row of cases that are tried in their order. As rules the cases stand side by
side, and each says by itself which types it is about. A primitive type goes with itself alone. A wildcard
gives what its bound gives, and takes what its bound takes; without a bound it gives objects and takes
everything but wildcards. Type arguments count only between two parameterizations of one name.
-/

namespace BundleBinding

namespace TypeRef

def IsReference (type : TypeRef) : Prop :=
  ∀ base, type ≠ primitive base

theorem isReference_declared (name : String) (arguments : List TypeRef) :
    (declared name arguments).IsReference := by
  intro base heq
  cases heq

theorem isReference_extending (bound : TypeRef) : (extending bound).IsReference := by
  intro base heq
  cases heq

theorem isWildcard_eq_false {type : TypeRef} (hextending : ∀ bound, type ≠ extending bound)
    (hanything : type ≠ anything) : type.isWildcard = false := by
  cases type with
  | anything => exact absurd rfl hanything
  | extending bound => exact absurd rfl (hextending bound)
  | _ => rfl

/-- The declared types that every array can be assigned to. -/
def arraySupertypes : List String :=
  [object, cloneable, serializable]

end TypeRef

namespace TypeTable

open TypeRef

/-- The rules by which a value of the first type can be stored where the second is declared. -/
inductive Assigns (table : TypeTable) : TypeRef → TypeRef → Prop
  | primitive (base : Primitive) : Assigns table (primitive base) (primitive base)
  | fromAnything (arguments : List TypeRef) : Assigns table anything (declared object arguments)
  | fromBound {bound target : TypeRef} (htarget : target.IsReference)
      (hbound : Assigns table bound target) : Assigns table (extending bound) target
  | toAnything {source : TypeRef} (hsource : source.IsReference)
      (hplain : source.isWildcard = false) : Assigns table source anything
  | toBound {source bound : TypeRef} (hsource : source.IsReference)
      (hplain : source.isWildcard = false) (hbound : Assigns table source bound) :
      Assigns table source (extending bound)
  | array {left right : TypeRef} (hcomponent : Assigns table left right) :
      Assigns table (array left) (array right)
  | arrayToDeclared {name : String} (component : TypeRef) (arguments : List TypeRef)
      (hname : name ∈ arraySupertypes) : Assigns table (array component) (declared name arguments)
  | unchecked {sub super : String} {sources targets : List TypeRef}
      (hsub : table.isSubtype sub super = true)
      (hunchecked : sources = [] ∨ targets = [] ∨ sub ≠ super) :
      Assigns table (declared sub sources) (declared super targets)
  | checked {name : String} {sources targets : List TypeRef}
      (hlength : sources.length = targets.length)
      (hplain : ∀ source target, (source, target) ∈ sources.zip targets →
        target.isWildcard = false → source = target)
      (hwildcard : ∀ source target, (source, target) ∈ sources.zip targets →
        target.isWildcard = true → Assigns table source target) :
      Assigns table (declared name sources) (declared name targets)

variable {table : TypeTable} {source target bound component : TypeRef} {name sub super : String}
  {arguments sources targets : List TypeRef}

theorem isSubtype_self (name : String) : table.isSubtype name name = true :=
  isSubtype_iff.mpr (.inl rfl)

/-! ### The cases of the check -/

/-- An argument fits a wildcard that it can be assigned to, and any other argument that it equals. -/
def ArgumentFits (table : TypeTable) (source target : TypeRef) : Prop :=
  if target.isWildcard then table.isAssignable source target = true else source = target

theorem argumentsFit_iff :
    table.argumentsFit sources targets = true ↔
      List.Forall₂ table.ArgumentFits sources targets := by
  induction sources generalizing targets with
  | nil => cases targets <;> simp [argumentsFit]
  | cons source sources ih =>
      cases targets with
      | nil => simp [argumentsFit]
      | cons target targets =>
          rw [argumentsFit, Bool.and_eq_true, ih, List.forall₂_cons, ArgumentFits]
          refine and_congr_left fun _ => ?_
          split
          · exact Iff.rfl
          · exact beq_iff_eq

theorem isAssignable_fromBound (htarget : target.IsReference) :
    table.isAssignable (extending bound) target = table.isAssignable bound target := by
  rw [isAssignable]
  exact htarget

theorem isAssignable_toAnything (hsource : source.IsReference)
    (hplain : source.isWildcard = false) : table.isAssignable source anything = true := by
  cases source with
  | primitive base => exact absurd rfl (hsource base)
  | anything => cases hplain
  | extending => cases hplain
  | _ => simp only [isAssignable]

theorem isAssignable_toBound (hsource : source.IsReference) (hplain : source.isWildcard = false) :
    table.isAssignable source (extending bound) = table.isAssignable source bound := by
  cases source with
  | primitive base => exact absurd rfl (hsource base)
  | anything => cases hplain
  | extending => cases hplain
  | _ => simp only [isAssignable]

theorem isAssignable_arrayToDeclared :
    table.isAssignable (array component) (declared name arguments) = true ↔
      name ∈ arraySupertypes := by
  simp [isAssignable, arraySupertypes, or_assoc]

theorem isAssignable_declared :
    table.isAssignable (declared sub sources) (declared super targets) = true ↔
      table.isSubtype sub super = true ∧
        ((sources = [] ∨ targets = [] ∨ sub ≠ super) ∨
          List.Forall₂ table.ArgumentFits sources targets) := by
  rw [isAssignable, Bool.and_eq_true, Bool.or_eq_true, Bool.or_eq_true, Bool.or_eq_true,
    List.isEmpty_iff, List.isEmpty_iff, bne_iff_ne, argumentsFit_iff, or_assoc (b := targets = [])]

/-! ### The check follows the rules -/

theorem Assigns.isAssignable (hassigns : table.Assigns source target) :
    table.isAssignable source target = true := by
  induction hassigns with
  | primitive base => rw [TypeTable.isAssignable, BEq.rfl]
  | fromAnything arguments => rw [TypeTable.isAssignable, BEq.rfl]
  | fromBound htarget _ ih => rw [isAssignable_fromBound htarget, ih]
  | toAnything hsource hplain => exact isAssignable_toAnything hsource hplain
  | toBound hsource hplain _ ih => rw [isAssignable_toBound hsource hplain, ih]
  | array _ ih => rw [TypeTable.isAssignable, ih]
  | arrayToDeclared component arguments hname => exact isAssignable_arrayToDeclared.mpr hname
  | unchecked hsub hunchecked => exact isAssignable_declared.mpr ⟨hsub, .inl hunchecked⟩
  | @checked name sources targets hlength hplain _ ih =>
      refine isAssignable_declared.mpr ⟨isSubtype_self name, .inr ?_⟩
      rw [List.forall₂_iff_zip]
      refine ⟨hlength, fun {source target} hpair => ?_⟩
      rw [ArgumentFits]
      split
      · next hwildcard => exact ih source target hpair hwildcard
      · next hwildcard =>
          exact hplain source target hpair (Bool.eq_false_iff.mpr hwildcard)

theorem Assigns.of_argumentFits
    (hfits : List.Forall₂ table.ArgumentFits sources targets)
    (hassigns : ∀ source target, (source, target) ∈ sources.zip targets →
      table.isAssignable source target = true → table.Assigns source target) (name : String) :
    table.Assigns (declared name sources) (declared name targets) := by
  rw [List.forall₂_iff_zip] at hfits
  refine .checked hfits.1 ?_ ?_
  · intro source target hpair hplain
    have hfit := hfits.2 hpair
    rwa [ArgumentFits, if_neg (Bool.eq_false_iff.mp hplain)] at hfit
  · intro source target hpair hwildcard
    have hfit := hfits.2 hpair
    rw [ArgumentFits, if_pos hwildcard] at hfit
    exact hassigns source target hpair hfit

theorem assigns_of_isAssignable (source target : TypeRef) :
    table.isAssignable source target = true → table.Assigns source target := by
  -- The second claim of the induction is about arguments pair by pair.
  apply isAssignable.induct
    (fun source target => table.isAssignable source target = true → table.Assigns source target)
    (fun sources targets => ∀ source target, (source, target) ∈ sources.zip targets →
      table.isAssignable source target = true → table.Assigns source target)
  case case1 =>
    intro left right hassignable
    rw [isAssignable, beq_iff_eq] at hassignable
    rw [hassignable]
    exact .primitive right
  case case2 =>
    intro target base htarget hassignable
    rw [isAssignable] at hassignable
    · cases hassignable
    · exact htarget
  case case3 =>
    intro source base hsource hassignable
    rw [isAssignable] at hassignable
    · cases hassignable
    · exact hsource
  case case4 =>
    intro bound target htarget ih hassignable
    rw [isAssignable_fromBound htarget] at hassignable
    exact .fromBound htarget (ih hassignable)
  case case5 =>
    intro name arguments hassignable
    rw [isAssignable, beq_iff_eq] at hassignable
    rw [hassignable]
    exact .fromAnything arguments
  case case6 =>
    intro target hreference hdeclared hassignable
    rw [isAssignable] at hassignable
    · cases hassignable
    · exact hreference
    · exact hdeclared
  case case7 =>
    intro source hsource hextending hanything _
    exact .toAnything hsource (isWildcard_eq_false hextending hanything)
  case case8 =>
    intro source bound hsource hextending hanything ih hassignable
    have hplain : source.isWildcard = false := isWildcard_eq_false hextending hanything
    rw [isAssignable_toBound hsource hplain] at hassignable
    exact .toBound hsource hplain (ih hassignable)
  case case9 =>
    intro left right ih hassignable
    rw [isAssignable] at hassignable
    exact .array (ih hassignable)
  case case10 =>
    intro component name arguments hassignable
    exact .arrayToDeclared component arguments (isAssignable_arrayToDeclared.mp hassignable)
  case case11 =>
    intro name arguments component hassignable
    rw [isAssignable] at hassignable
    cases hassignable
  case case12 =>
    intro sub sources super targets ih hassignable
    obtain ⟨hsub, hunchecked | hfits⟩ := isAssignable_declared.mp hassignable
    · exact .unchecked hsub hunchecked
    · by_cases hname : sub = super
      · rw [hname]
        exact .of_argumentFits hfits ih super
      · exact .unchecked hsub (.inr (.inr hname))
  case case13 =>
    intro source target hpair
    cases hpair
  case case14 =>
    intro first sources second targets hfirst hothers source target hpair
    rw [List.zip_cons_cons, List.mem_cons, Prod.mk.injEq] at hpair
    obtain ⟨rfl, rfl⟩ | hpair := hpair
    · exact hfirst
    · exact hothers source target hpair
  case case15 =>
    intro sources targets _ hcons source target hpair
    cases sources with
    | nil => cases hpair
    | cons first sources =>
        cases targets with
        | nil => cases hpair
        | cons second targets => exact (hcons first sources second targets rfl rfl).elim

theorem isAssignable_iff :
    table.isAssignable source target = true ↔ table.Assigns source target :=
  ⟨assigns_of_isAssignable source target, Assigns.isAssignable⟩

end TypeTable

end BundleBinding
