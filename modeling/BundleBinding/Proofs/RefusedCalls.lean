import BundleBinding.Proofs.IndexCalls

/-!
# Refused calls

An index is changed in place, so a call that is refused on the way keeps what it has changed by then. The
calls for types and elements check everything before they change anything. The call for a method lets its
parameters join one after the other, each with its own checks, and the method last: a parameter that is
refused leaves those before it behind, without their method.
-/

namespace BundleBinding

namespace ProgramIndex

/-- A change of an index in place, which may be refused on the way. -/
abbrev Update :=
  ExceptT ModelFault (StateM ProgramIndex)

namespace Update

/-- The index that an update leaves, with the fault if it was refused. -/
def on (update : Update Unit) (index : ProgramIndex) : ProgramIndex × Option ModelFault :=
  match StateT.run update.run index with
  | (.ok (), next) => (next, none)
  | (.error fault, next) => (next, some fault)

def require (check : Except ModelFault Unit) : Update Unit :=
  ExceptT.mk (pure check)

variable {index : ProgramIndex}

theorem on_bind (first : Update Unit) (rest : Unit → Update Unit) :
    (first >>= rest).on index =
      match first.on index with
      | (next, none) => (rest ()).on next
      | (next, some fault) => (next, some fault) := by
  have hrun : StateT.run (first >>= rest).run index =
      match StateT.run first.run index with
      | (.ok (), next) => StateT.run (rest ()).run next
      | (.error fault, next) => (.error fault, next) := by
    rw [ExceptT.run_bind, StateT.run_bind]
    rcases StateT.run first.run index with ⟨_ | _, next⟩ <;> rfl
  rw [on, hrun, on]
  rcases StateT.run first.run index with ⟨_ | _, next⟩ <;> rfl

theorem on_require (check : Except ModelFault Unit) :
    (require check).on index =
      match check with
      | .ok () => (index, none)
      | .error fault => (index, some fault) := by
  cases check <;> rfl

theorem on_get_bind (rest : ProgramIndex → Update Unit) :
    ((get : Update ProgramIndex) >>= rest).on index = (rest index).on index :=
  rfl

end Update

open Update (require)

/-! ### Calls in place -/

def joinType (declaration : TypeDeclaration) : Update Unit := do
  require (checkQualified declaration.name)
  require (declaration.supertypes.forM checkQualified)
  if (← get).types.contains declaration.name then
    throw (.declaredTwice declaration.name)
  modify fun index => { index with
    hierarchy := index.hierarchy.declare declaration.name declaration.supertypes }
  modify fun index => { index with types := index.types.insert declaration.name declaration }

def joinElement (element : Element) : Update Unit := do
  require (checkIdentifier element.name)
  let owner := element.enclosure.owner
  if !(← get).types.contains owner then
    throw (.undeclaredOwner element.name owner)
  modify fun index => { index with elements := index.elements ++ [element] }

def joinMethod (owner : String) (method : Method) : Update Unit := do
  require (checkIdentifier method.name)
  let method := { method with owner := owner }
  method.elements.forM joinElement
  modify fun index => { index with
    methods := index.methods.insert owner (index.methodsOf owner ++ [method]) }

def Call.update : Call → Update Unit
  | .addType declaration => joinType declaration
  | .addElement element => joinElement element
  | .addMethod owner method => joinMethod owner method

variable {index next : ProgramIndex}

/-- What comes of a change that is made as a whole or not at all. -/
def outcome (index : ProgramIndex) : Except ModelFault ProgramIndex → ProgramIndex × Option ModelFault
  | .ok next => (next, none)
  | .error fault => (index, some fault)

theorem outcome_fst (result : Except ModelFault ProgramIndex) :
    (index.outcome result).1 = result.toOption.getD index := by
  cases result <;> rfl

theorem eq_of_outcome {result : Except ModelFault ProgramIndex} {fault : ModelFault}
    (hrefused : index.outcome result = (next, some fault)) : next = index := by
  cases result <;> cases hrefused
  rfl

theorem on_joinType (declaration : TypeDeclaration) :
    (joinType declaration).on index = index.outcome (index.addType declaration) := by
  rw [joinType, addType, Update.on_bind, Update.on_require]
  cases checkQualified declaration.name with
  | error => rfl
  | ok =>
      simp only [Update.on_bind, Update.on_require]
      cases declaration.supertypes.forM checkQualified with
      | error => rfl
      | ok =>
          simp only [Update.on_get_bind]
          by_cases hdeclared : index.types.contains declaration.name = true
          · simp only [if_pos hdeclared]
            rfl
          · simp only [if_neg hdeclared]
            rfl

theorem on_joinElement (element : Element) :
    (joinElement element).on index = index.outcome (index.addElement element) := by
  rw [joinElement, addElement, Update.on_bind, Update.on_require]
  cases checkIdentifier element.name with
  | error => rfl
  | ok =>
      simp only [Update.on_get_bind]
      by_cases howner : (!index.types.contains element.enclosure.owner) = true
      · simp only [if_pos howner]
        rfl
      · simp only [if_neg howner]
        rfl

theorem on_forM_joinElement (elements : List Element) :
    (elements.forM joinElement).on index = index.addElements elements := by
  induction elements generalizing index with
  | nil => rfl
  | cons element elements ih =>
      rw [List.forM_eq_forM, List.forM_cons, Update.on_bind, on_joinElement, addElements]
      cases index.addElement element with
      | error fault => rfl  -- the others do not get to join
      | ok next => exact ih

theorem on_joinMethod (owner : String) (method : Method) :
    (joinMethod owner method).on index = index.addMethod owner method := by
  rw [joinMethod, addMethod, Update.on_bind, Update.on_require]
  cases checkIdentifier method.name with
  | error => rfl
  | ok =>
      simp only [Update.on_bind, on_forM_joinElement]
      rcases index.addElements ({ method with owner := owner } : Method).elements with ⟨filled, _ | fault⟩
      · rfl
      · rfl

/-- The index that a call leaves is the one that it answers with, or else the one that it found. -/
theorem on_update (call : Call) : (call.update.on index).1 = index.perform call := by
  cases call with
  | addType declaration => rw [Call.update, on_joinType, outcome_fst, perform]
  | addElement element => rw [Call.update, on_joinElement, outcome_fst, perform]
  | addMethod owner method => rw [Call.update, on_joinMethod, perform]

/-! ### What is left behind -/

/-- The element has a valid name and a declared owner. -/
def accepts (index : ProgramIndex) (element : Element) : Bool :=
  Name.isIdentifier element.name.toList && index.types.contains element.enclosure.owner

theorem addElement_of_accepts {element : Element} (haccepts : index.accepts element = true) :
    index.addElement element = .ok { index with elements := index.elements ++ [element] } := by
  obtain ⟨hname, howner⟩ := Bool.and_eq_true_iff.mp haccepts
  rw [addElement, checkIdentifier, if_pos hname]
  simp only [howner]
  rfl

theorem addElement_of_not_accepts {element : Element} (hrefused : ¬ index.accepts element = true) :
    ∃ fault, index.addElement element = .error fault := by
  cases hadd : index.addElement element with
  | error fault => exact ⟨fault, rfl⟩
  | ok next =>
      obtain ⟨hname, howner⟩ := owner_of_addElement hadd
      exact absurd (Bool.and_eq_true_iff.mpr ⟨hname, decide_eq_true howner⟩) hrefused

theorem addElements_eq (index : ProgramIndex) (elements : List Element) :
    (index.addElements elements).1 =
      { index with elements := index.elements ++ elements.takeWhile index.accepts } := by
  induction elements generalizing index with
  | nil => rw [addElements, List.takeWhile_nil, List.append_nil]
  | cons element elements ih =>
      rw [addElements]
      by_cases haccepts : index.accepts element = true
      · -- Elements do not declare types, so the next index accepts what this one does.
        rw [addElement_of_accepts haccepts, List.takeWhile_cons_of_pos haccepts]
        refine (ih _).trans ?_
        rw [List.append_assoc]
        rfl
      · obtain ⟨fault, hfault⟩ := addElement_of_not_accepts haccepts
        rw [hfault, List.takeWhile_cons_of_neg haccepts, List.append_nil]

/-- The elements that a refused call leaves in an index: of a method with a valid name, the parameters before
the one that is refused. -/
def leftovers (index : ProgramIndex) : Call → List Element
  | .addType _ | .addElement _ => []
  | .addMethod owner method =>
      if Name.isIdentifier method.name.toList then
        ({ method with owner := owner } : Method).elements.takeWhile index.accepts
      else []

theorem addMethod_of_refused {owner : String} {method : Method} {fault : ModelFault}
    (hrefused : index.addMethod owner method = (next, some fault)) :
    next = { index with
      elements := index.elements ++ index.leftovers (.addMethod owner method) } := by
  rw [leftovers]
  rw [addMethod, checkIdentifier] at hrefused
  by_cases hname : Name.isIdentifier method.name.toList = true
  · rw [if_pos hname] at hrefused ⊢
    rw [← addElements_eq]
    cases hadded : index.addElements ({ method with owner := owner } : Method).elements with
    | mk filled refused =>
      cases refused with
      | none =>
          simp only [hadded] at hrefused
          cases hrefused
      | some other =>
          simp only [hadded] at hrefused
          cases hrefused
          rfl
  · rw [if_neg hname] at hrefused ⊢
    cases hrefused
    rw [List.append_nil]

theorem on_update_refused {call : Call} {fault : ModelFault}
    (hrefused : call.update.on index = (next, some fault)) :
    next = { index with elements := index.elements ++ index.leftovers call } := by
  cases call with
  | addType declaration =>
      rw [Call.update, on_joinType] at hrefused
      rw [leftovers, List.append_nil, eq_of_outcome hrefused]
  | addElement element =>
      rw [Call.update, on_joinElement] at hrefused
      rw [leftovers, List.append_nil, eq_of_outcome hrefused]
  | addMethod owner method =>
      rw [Call.update, on_joinMethod] at hrefused
      exact addMethod_of_refused hrefused

theorem leftovers_addMethod_eq_nil_iff {owner : String} {method : Method} :
    index.leftovers (.addMethod owner method) = [] ↔
      (Name.isIdentifier method.name.toList = true →
        ∀ first, ({ method with owner := owner } : Method).elements.head? = some first →
          index.accepts first = false) := by
  rw [leftovers]
  split
  · next hname =>
      rw [forall_prop_of_true hname]
      cases ({ method with owner := owner } : Method).elements with
      | nil => simp
      | cons first rest => simp [List.takeWhile_cons]
  · next hname => exact iff_of_true rfl fun hother => absurd hother hname

end ProgramIndex

/-- **Refused calls.** A call that is refused changes nothing but the elements of an index. A type or an
element that is refused leaves it as it was; so does a method, unless its name is valid and its first
parameter is accepted. Then the parameters before the refused one stay. -/
theorem refused_call_leaves {index next : ProgramIndex} {call : ProgramIndex.Call} {fault : ModelFault}
    (hrefused : call.update.on index = (next, some fault)) :
    next = index.perform call ∧
    next.types = index.types ∧ next.methods = index.methods ∧ next.hierarchy = index.hierarchy ∧
    next.elements = index.elements ++ index.leftovers call ∧
    (next = index ↔ ∀ owner method, call = .addMethod owner method →
      Name.isIdentifier method.name.toList = true →
        ∀ first, ({ method with owner := owner } : Method).elements.head? = some first →
          index.accepts first = false) := by
  have hperformed : (call.update.on index).1 = index.perform call := ProgramIndex.on_update call
  have hnext := ProgramIndex.on_update_refused hrefused
  have hsame : next = index ↔ index.leftovers call = [] := by
    rw [hnext]
    constructor
    · intro heq
      exact List.append_right_eq_self.mp (congrArg ProgramIndex.elements heq)
    · intro hnone
      rw [hnone, List.append_nil]
  rw [hrefused] at hperformed
  refine ⟨hperformed, ?_⟩
  rw [hsame, hnext]
  refine ⟨rfl, rfl, rfl, rfl, ?_⟩
  cases call with
  | addType | addElement => exact iff_of_true rfl fun _ _ hcall => by cases hcall
  | addMethod owner method =>
      rw [ProgramIndex.leftovers_addMethod_eq_nil_iff]
      constructor
      · rintro hfirst _ _ ⟨⟩
        exact hfirst
      · exact fun hfirst => hfirst owner method rfl

def apiIndex : ProgramIndex :=
  ProgramIndex.ofCalls [.addType ⟨"a.Api", .interfaceType, [], none, []⟩]

/-- A method whose second parameter has no valid name. -/
def misnamedMethod : Method :=
  ⟨"", "m", .named TypeRef.bundle, [⟨none, .primitive .int, []⟩, ⟨some "b d", .primitive .int, []⟩]⟩

theorem misnamed_parameter_changes :
    ∃ next, (ProgramIndex.joinMethod "a.Api" misnamedMethod).on apiIndex =
        (next, some (.badIdentifier "b d")) ∧
      next.methods = apiIndex.methods ∧ next ≠ apiIndex := by
  have hrefused : (ProgramIndex.Call.addMethod "a.Api" misnamedMethod).update.on apiIndex =
      (_, some (.badIdentifier "b d")) :=
    rfl
  obtain ⟨-, -, hmethods, -, -, hsame⟩ := refused_call_leaves hrefused
  refine ⟨_, hrefused, hmethods, fun heq => ?_⟩
  have hfirst := hsame.mp heq "a.Api" misnamedMethod rfl (by decide) _ rfl
  revert hfirst
  decide

/-- The first parameter stays in the index, enclosed by a method that the index does not have. -/
theorem refused_method_leaves_parameter :
    ((ProgramIndex.joinMethod "a.Api" misnamedMethod).on apiIndex).2 = some (.badIdentifier "b d") ∧
      apiIndex.elements = [] ∧
      ((ProgramIndex.joinMethod "a.Api" misnamedMethod).on apiIndex).1.elements =
        [⟨"arg0", .primitive .int, [], [], .method "a.Api" "m"⟩] ∧
      ((ProgramIndex.joinMethod "a.Api" misnamedMethod).on apiIndex).1.methodsOf "a.Api" = [] :=
  ⟨rfl, rfl, rfl, rfl⟩

end BundleBinding
