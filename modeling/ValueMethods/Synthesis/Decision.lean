import ValueMethods.Synthesis.Bodies

/-!
# Decisions

For each value method of a class: the method to generate, or why it is left out.  Deciding reads
the model and changes nothing; settling a plan attaches what the plan generates, except for methods
that the class has gained in the meantime.
-/

namespace ValueMethods

/-! ## Reasons and decisions -/

/-- Why a value method is not generated. -/
inductive Omission where
  /-- The options turn it off. -/
  | disabled
  /-- The class is abstract. -/
  | abstractClass
  /-- The class has the method already. -/
  | alreadyDefined
  /-- There is nothing to compare or to hash. -/
  | noIdentityFields
  deriving DecidableEq

namespace Omission

/-- The reason in words. -/
def text : Omission → String
  | .disabled => "disabled"
  | .abstractClass => "abstract class"
  | .alreadyDefined => "already defined"
  | .noIdentityFields => "no identity fields"

/-- The reason as a key in data output. -/
def key : Omission → String
  | .disabled => "disabled"
  | .abstractClass => "abstract"
  | .alreadyDefined => "already_defined"
  | .noIdentityFields => "no_identity_fields"

end Omission

/-- What to do about one value method. -/
inductive Decision where
  /-- Attach this method. -/
  | generate (method : Method)
  /-- Leave the method out. -/
  | leaveOut (reason : Omission)

/-- The decisions for one class, one for each value method, in order. -/
structure Plan where
  /-- The class that the decisions are about. -/
  target : ClassId
  /-- The decisions, in the order of `ValueMethod.all`. -/
  decisions : List (ValueMethod × Decision)

/-- What came of one value method. -/
structure Outcome where
  /-- The value method. -/
  kind : ValueMethod
  /-- Why it was left out, or nothing if it was generated. -/
  omission : Option Omission
  deriving DecidableEq

/-- Whether the method was generated. -/
def Outcome.isGenerated (outcome : Outcome) : Bool :=
  outcome.omission.isNone

/-! ## Deciding -/

namespace Synthesis

/-- Decides one value method.  The first reason that applies is the one that is given. -/
def decide (options : Options) (decl : ClassDecl) (names : List String) (kind : ValueMethod) :
    Decision :=
  if kind == .toString && options.skipToString then
    .leaveOut .disabled
  else if decl.isAbstract then
    .leaveOut .abstractClass
  else if decl.hasMethod kind.signature then
    .leaveOut .alreadyDefined
  else
    match method? options.helpers decl.name names kind with
    | some method => .generate method
    | none => .leaveOut .noIdentityFields

end Synthesis

namespace ClassModel

/-- Decides all value methods of a class. -/
def plan (model : ClassModel) (options : Options) (id : ClassId) : Plan where
  target := id
  decisions :=
    match model.class? id with
    | some decl =>
        ValueMethod.all.map fun kind =>
          (kind, Synthesis.decide options decl (model.identityFields id).names kind)
    | none => []

end ClassModel

/-! ## Settling -/

namespace Decision

/-- Carries out one decision on a class. -/
def settle (decl : ClassDecl) : Decision → ClassDecl × Option Omission
  | .generate method =>
      if decl.hasMethod method.signature then
        (decl, some .alreadyDefined)
      else
        (decl.attach method, none)
  | .leaveOut reason => (decl, some reason)

end Decision

namespace Plan

/-- Carries out decisions on a class, in order. -/
def settleAll (decl : ClassDecl) :
    List (ValueMethod × Decision) → ClassDecl × List Outcome
  | [] => (decl, [])
  | (kind, decision) :: rest =>
      let (changed, omission) := decision.settle decl
      let (final, outcomes) := settleAll changed rest
      (final, ⟨kind, omission⟩ :: outcomes)

/-- Carries out the plan on the class it was made for. -/
def settle (plan : Plan) (model : ClassModel) : ClassModel × List Outcome :=
  match model.class? plan.target with
  | some decl =>
      let (changed, outcomes) := settleAll decl plan.decisions
      (model.modify plan.target fun _ => changed, outcomes)
  | none => (model, [])

/-- The methods that the plan would attach. -/
def methods (plan : Plan) : List Method :=
  plan.decisions.filterMap fun entry =>
    match entry.2 with
    | .generate method => some method
    | .leaveOut _ => none

end Plan

end ValueMethods
