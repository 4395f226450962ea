import BundleBinding.Binding.Linking
import Mathlib.Logic.Relation

/-!
# Superclass chains

The types above a type, as far as the program declares them. A chain either ends or comes back to a
type that it has met, and never does both. The search for a parent follows the chain: on a chain that
ends it gives the first bound type, and it calls a chain cyclic only when it comes back on itself.
-/

namespace BundleBinding

namespace ProgramModel

open Relation (ReflTransGen TransGen)

variable {model : ProgramModel} {isBound : String → Bool}

/-- The superclass of a type, when both are part of the program. -/
def superclassOf? (model : ProgramModel) (name : String) : Option String :=
  ((model.type? name).bind model.superclass?).map TypeDeclaration.name

/-- The types above `name` are the listed ones, the nearest first, and the last of them has no
superclass in the program. -/
inductive SuperclassChain (model : ProgramModel) : String → List String → Prop
  | top {name : String} (htop : model.superclassOf? name = none) : SuperclassChain model name []
  | step {name superclass : String} {above : List String}
      (hsuper : model.superclassOf? name = some superclass)
      (hchain : SuperclassChain model superclass above) :
      SuperclassChain model name (superclass :: above)

/-- The superclass chain of a type ends. -/
def ChainEnds (model : ProgramModel) (name : String) : Prop :=
  ∃ above, model.SuperclassChain name above

def Extends (model : ProgramModel) (name superclass : String) : Prop :=
  model.superclassOf? name = some superclass

/-- The superclass chain of a type comes to some type twice. -/
def ChainRevisits (model : ProgramModel) (name : String) : Prop :=
  ∃ type, ReflTransGen model.Extends name type ∧ TransGen model.Extends type type

theorem superclassOf?_of_type? {name : String} {declaration : TypeDeclaration}
    (htype : model.type? name = some declaration) :
    model.superclassOf? name = (model.superclass? declaration).map TypeDeclaration.name := by
  rw [superclassOf?, htype, Option.bind_some]

theorem type?_of_superclass? {declaration superclass : TypeDeclaration}
    (hsuper : model.superclass? declaration = some superclass) :
    model.type? superclass.name = some superclass := by
  obtain ⟨name, _, hname⟩ := Option.bind_eq_some_iff.mp hsuper
  rw [name_of_type? hname, hname]

theorem SuperclassChain.exists_higher {name superclass : String} {above : List String}
    (hchain : model.SuperclassChain name above)
    (hsuper : model.superclassOf? name = some superclass) :
    ∃ higher, above = superclass :: higher ∧ model.SuperclassChain superclass higher := by
  cases hchain with
  | top htop => rw [htop] at hsuper; cases hsuper
  | step hsuper' hchain =>
      rw [hsuper'] at hsuper
      cases hsuper
      exact ⟨_, rfl, hchain⟩

theorem SuperclassChain.eq_of_chain {name : String} {left right : List String}
    (hleft : model.SuperclassChain name left) (hright : model.SuperclassChain name right) :
    left = right := by
  induction hleft generalizing right with
  | top htop =>
      cases hright with
      | top => rfl
      | step hsuper => rw [htop] at hsuper; cases hsuper
  | step hsuper _ ih =>
      obtain ⟨higher, rfl, hhigher⟩ := hright.exists_higher hsuper
      rw [ih hhigher]

theorem SuperclassChain.shorter_of_transGen {name type : String} {above : List String}
    (hchain : model.SuperclassChain name above) (hreach : TransGen model.Extends name type) :
    ∃ higher, model.SuperclassChain type higher ∧ higher.length < above.length := by
  induction hreach with
  | single hsuper =>
      obtain ⟨higher, rfl, hhigher⟩ := hchain.exists_higher hsuper
      exact ⟨higher, hhigher, Nat.lt_succ_self _⟩
  | tail _ hsuper ih =>
      obtain ⟨middle, hmiddle, hlt⟩ := ih
      obtain ⟨higher, rfl, hhigher⟩ := hmiddle.exists_higher hsuper
      exact ⟨higher, hhigher, Nat.lt_trans (Nat.lt_succ_self _) hlt⟩

theorem ChainEnds.superclass {name superclass : String} (hends : model.ChainEnds name)
    (hsuper : model.superclassOf? name = some superclass) : model.ChainEnds superclass := by
  obtain ⟨above, hchain⟩ := hends
  obtain ⟨higher, _, hhigher⟩ := hchain.exists_higher hsuper
  exact ⟨higher, hhigher⟩

theorem ChainEnds.of_superclass {name superclass : String} (hends : model.ChainEnds superclass)
    (hsuper : model.superclassOf? name = some superclass) : model.ChainEnds name := by
  obtain ⟨above, hchain⟩ := hends
  exact ⟨superclass :: above, .step hsuper hchain⟩

theorem ChainEnds.of_transGen {name type : String} (hends : model.ChainEnds type)
    (hreach : TransGen model.Extends name type) : model.ChainEnds name := by
  induction hreach with
  | single hsuper => exact hends.of_superclass hsuper
  | tail _ hsuper ih => exact ih (hends.of_superclass hsuper)

theorem ChainEnds.not_transGen_self {name : String} (hends : model.ChainEnds name) :
    ¬ TransGen model.Extends name name := by
  intro hreach
  obtain ⟨above, hchain⟩ := hends
  obtain ⟨higher, hhigher, hlt⟩ := hchain.shorter_of_transGen hreach
  rw [hchain.eq_of_chain hhigher] at hlt
  exact Nat.lt_irrefl _ hlt

theorem ChainEnds.of_reflTransGen {name type : String} (hends : model.ChainEnds name)
    (hreach : ReflTransGen model.Extends name type) : model.ChainEnds type := by
  induction hreach with
  | refl => exact hends
  | tail _ hsuper ih => exact ih.superclass hsuper

theorem ChainEnds.not_revisits {name : String} (hends : model.ChainEnds name) :
    ¬ model.ChainRevisits name := by
  rintro ⟨type, hreach, hself⟩
  exact (hends.of_reflTransGen hreach).not_transGen_self hself

/-! ### The search for a parent -/

/-- The outcomes of climbing above a type, one rule for each way in which a climb ends or goes on. -/
inductive ClimbsTo (model : ProgramModel) (isBound : String → Bool) : String → ParentSearch → Prop
  | absent {name : String} (htop : model.superclassOf? name = none) :
      ClimbsTo model isBound name .absent
  | found {name superclass : String} (hsuper : model.superclassOf? name = some superclass)
      (hbound : isBound superclass = true) : ClimbsTo model isBound name (.found superclass)
  | cyclic {name : String} (hrevisits : model.ChainRevisits name) :
      ClimbsTo model isBound name .cyclic
  | pass {name superclass : String} {outcome : ParentSearch}
      (hsuper : model.superclassOf? name = some superclass) (hunbound : isBound superclass = false)
      (hclimb : ClimbsTo model isBound superclass outcome) : ClimbsTo model isBound name outcome

theorem climb_of_none {visited : List String} {declaration : TypeDeclaration}
    (hsuper : model.superclass? declaration = none) :
    model.climb isBound visited declaration = .absent := by
  rw [climb]
  split
  · rfl
  · next hsome => rw [hsuper] at hsome; cases hsome

theorem climb_of_some {visited : List String} {declaration superclass : TypeDeclaration}
    (hsuper : model.superclass? declaration = some superclass) :
    model.climb isBound visited declaration =
      if superclass.name ∈ visited then .cyclic
      else if isBound superclass.name then .found superclass.name
      else model.climb isBound (superclass.name :: visited) superclass := by
  rw [climb]
  split
  · next hnone => rw [hsuper] at hnone; cases hnone
  · next other hother =>
      rw [hsuper] at hother
      cases hother
      simp only [dite_eq_ite]

/-- Every visited type lies below the present one, which is why meeting one again closes a cycle. -/
theorem climbsTo_climb (isBound : String → Bool) (visited : List String)
    (declaration : TypeDeclaration)
    (htype : model.type? declaration.name = some declaration)
    (hvisited : ∀ name ∈ visited, ReflTransGen model.Extends name declaration.name) :
    model.ClimbsTo isBound declaration.name (model.climb isBound visited declaration) := by
  fun_induction climb model isBound visited declaration with
  | case1 visited declaration hsuper =>
      refine .absent ?_
      rw [superclassOf?_of_type? htype, hsuper, Option.map_none]
  | case2 visited declaration superclass hsuper hmem =>
      have hextends : model.Extends declaration.name superclass.name := by
        rw [Extends, superclassOf?_of_type? htype, hsuper, Option.map_some]
      exact .cyclic ⟨superclass.name, .single hextends, .tail' (hvisited _ hmem) hextends⟩
  | case3 visited declaration superclass hsuper hmem hbound =>
      refine .found ?_ hbound
      rw [superclassOf?_of_type? htype, hsuper, Option.map_some]
  | case4 visited declaration superclass hsuper hmem hbound hfewer ih =>
      have hextends : model.Extends declaration.name superclass.name := by
        rw [Extends, superclassOf?_of_type? htype, hsuper, Option.map_some]
      refine .pass hextends (by simpa using hbound) (ih (type?_of_superclass? hsuper) ?_)
      intro name hname
      rcases List.mem_cons.mp hname with rfl | hname
      · exact .refl
      · exact (hvisited name hname).tail hextends

theorem climbsTo_parentSearch (model : ProgramModel) (isBound : String → Bool) (host : String) :
    model.ClimbsTo isBound host (model.parentSearch isBound host) := by
  unfold parentSearch
  cases htype : model.type? host with
  | none =>
      refine .absent ?_
      rw [superclassOf?, htype, Option.bind_none, Option.map_none]
  | some declaration =>
      have hname := name_of_type? htype
      have hclimb := climbsTo_climb isBound [host] declaration (hname ▸ htype) ?_
      · exact hname ▸ hclimb
      · intro name hmem
        rw [List.mem_singleton.mp hmem, hname]

theorem ClimbsTo.chainEnds {name : String} (hclimb : model.ClimbsTo isBound name .absent) :
    model.ChainEnds name := by
  generalize houtcome : ParentSearch.absent = outcome at hclimb
  induction hclimb with
  | absent htop => exact ⟨[], .top htop⟩
  | found => cases houtcome
  | cyclic => cases houtcome
  | pass hsuper _ _ ih => exact (ih houtcome).of_superclass hsuper

theorem ClimbsTo.transGen {name parent : String}
    (hclimb : model.ClimbsTo isBound name (.found parent)) :
    isBound parent = true ∧ TransGen model.Extends name parent := by
  generalize houtcome : ParentSearch.found parent = outcome at hclimb
  induction hclimb with
  | absent => cases houtcome
  | found hsuper hbound =>
      cases houtcome
      exact ⟨hbound, .single hsuper⟩
  | cyclic => cases houtcome
  | pass hsuper _ _ ih => exact ⟨(ih houtcome).1, .head hsuper (ih houtcome).2⟩

theorem ClimbsTo.revisits {name : String} (hclimb : model.ClimbsTo isBound name .cyclic) :
    model.ChainRevisits name := by
  generalize houtcome : ParentSearch.cyclic = outcome at hclimb
  induction hclimb with
  | absent => cases houtcome
  | found => cases houtcome
  | cyclic hrevisits => exact hrevisits
  | pass hsuper _ _ ih =>
      obtain ⟨type, hreach, hself⟩ := ih houtcome
      exact ⟨type, .head hsuper hreach, hself⟩

/-- What a search gives on a chain that ends: its first bound type. -/
def nearestBound (isBound : String → Bool) (above : List String) : ParentSearch :=
  match above.find? isBound with
  | some parent => .found parent
  | none => .absent

theorem SuperclassChain.eq_nearestBound {name : String} {above : List String}
    {outcome : ParentSearch} (hchain : model.SuperclassChain name above)
    (hclimb : model.ClimbsTo isBound name outcome) : outcome = nearestBound isBound above := by
  induction hchain with
  | top htop =>
      cases hclimb with
      | absent => rfl
      | found hsuper => rw [htop] at hsuper; cases hsuper
      | cyclic hrevisits => exact absurd hrevisits (ChainEnds.not_revisits ⟨[], .top htop⟩)
      | pass hsuper => rw [htop] at hsuper; cases hsuper
  | step hsuper hchain ih =>
      cases hclimb with
      | absent htop => rw [hsuper] at htop; cases htop
      | found hsuper' hbound =>
          rw [hsuper] at hsuper'
          cases hsuper'
          rw [nearestBound, List.find?_cons_of_pos hbound]
      | cyclic hrevisits =>
          exact absurd hrevisits (ChainEnds.not_revisits ⟨_, .step hsuper hchain⟩)
      | pass hsuper' hunbound hclimb =>
          rw [hsuper] at hsuper'
          cases hsuper'
          rw [nearestBound, List.find?_cons_of_neg (by simp [hunbound])]
          exact ih hclimb

theorem SuperclassChain.parentSearch_eq {host : String} {above : List String}
    (hchain : model.SuperclassChain host above) (isBound : String → Bool) :
    model.parentSearch isBound host = nearestBound isBound above :=
  hchain.eq_nearestBound (model.climbsTo_parentSearch isBound host)

/-- **A chain ends or comes back.** There is no third way, the program having finitely many types: a
search that takes nothing for bound stops in one of the two. -/
theorem chainEnds_or_revisits (model : ProgramModel) (name : String) :
    model.ChainEnds name ∨ model.ChainRevisits name := by
  have hclimb := model.climbsTo_parentSearch (fun _ => false) name
  cases houtcome : model.parentSearch (fun _ => false) name with
  | absent => exact .inl (houtcome ▸ hclimb).chainEnds
  | found parent => exact absurd (houtcome ▸ hclimb).transGen.1 Bool.false_ne_true
  | cyclic => exact .inr (houtcome ▸ hclimb).revisits

theorem not_chainEnds_iff {name : String} : ¬ model.ChainEnds name ↔ model.ChainRevisits name :=
  ⟨(chainEnds_or_revisits model name).resolve_left, fun hrevisits hends => hends.not_revisits hrevisits⟩

end ProgramModel

end BundleBinding
