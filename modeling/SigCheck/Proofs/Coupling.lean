import Mathlib.Logic.Function.Iterate
import SigCheck.Proofs.Correspondence
import SigCheck.Proofs.Visiting

/-!
# Visits side by side

A `Coupling` is a correspondence that nothing a visit does can break: corresponding types have
corresponding shapes and the same instances, literals correspond to themselves, and loading the
header leads from corresponding states to corresponding ones.  `Coupling.visit` concludes that two
visits to one node run side by side: from corresponding states they end in corresponding states,
with the same fault or with corresponding types.

The steps of the two visits are matched one by one (`Coupling.Holds`).  Wherever the visit looks at
a type, the two types have related shapes, so both visits go on in the same way.
-/

namespace SigCheck

namespace Visit

variable {α β α' β' : Type}

/-- The outcomes are related results, or the same fault. -/
inductive SameOutcome (P : α → β → Prop) : Except Fault α → Except Fault β → Prop
  | ok {a b} (h : P a b) : SameOutcome P (.ok a) (.ok b)
  | error (f : Fault) : SameOutcome P (.error f) (.error f)

theorem SameOutcome.map {P : α → β → Prop} {Q : α' → β' → Prop} {f : α → α'} {g : β → β'}
    (hfg : ∀ a b, P a b → Q (f a) (g b)) {r : Except Fault α} {r' : Except Fault β}
    (h : SameOutcome P r r') : SameOutcome Q (r.map f) (r'.map g) := by
  cases h with
  | ok h => exact .ok (hfg _ _ h)
  | error f => exact .error f

/-- A correspondence that visits keep. -/
structure Coupling extends Correspondence where
  /-- The numbers of the objects of corresponding types. -/
  ids : Nat → Nat → Prop
  similar : Ty.Similarity ids type
  same : ∀ i i' j j', ids i i' → ids j j' → (i == j) = (i' == j')
  literal : ∀ name, type (.literal name) (.literal name)
  loadHeader : ∀ env env', Env.Rel toCorrespondence env env' →
    Env.Rel toCorrespondence env.loadHeader env'.loadHeader

namespace Coupling

variable (K : Coupling)

/-- The two steps lead from corresponding states to corresponding states, and end in the same fault
or give results related by `P`. -/
def Holds (v : Visit α) (w : Visit β) (P : α → β → Prop) : Prop :=
  ∀ env env', Env.Rel K.toCorrespondence env env' →
    Env.Rel K.toCorrespondence (v.run env).2 (w.run env').2 ∧
      SameOutcome P (v.run env).1 (w.run env').1

/-- The two steps lead from corresponding states to corresponding states, and end in the same fault
if in one. -/
abbrev Does (v : Visit α) (w : Visit β) : Prop := K.Holds v w fun _ _ => True

/-- The step leads from corresponding states to corresponding states, with corresponding types. -/
def Self (v : Typed) : Prop := K.Holds v v (Option.Rel K.type)

/-! ### Sequences of steps -/

section steps

variable {v : Visit α} {w : Visit β} {P : α → β → Prop} {Q : α' → β' → Prop}

theorem pure {a : α} {b : β} (h : P a b) : K.Holds (pure a) (pure b) P :=
  fun _ _ henv => ⟨henv, .ok h⟩

theorem bind {f : α → Visit α'} {g : β → Visit β'} (hv : K.Holds v w P)
    (hf : ∀ a b, P a b → K.Holds (f a) (g b) Q) : K.Holds (v >>= f) (w >>= g) Q := by
  intro env env' henv
  obtain ⟨hstate, houtcome⟩ := hv env env' henv
  rw [run_bind, run_bind]
  generalize v.run env = r, w.run env' = r' at hstate houtcome
  obtain ⟨outcome, env₁⟩ := r
  obtain ⟨outcome', env₁'⟩ := r'
  cases houtcome with
  | ok hab => exact hf _ _ hab _ _ hstate
  | error e => exact ⟨hstate, .error e⟩

theorem get : K.Holds get get (Env.Rel K.toCorrespondence) :=
  fun _ _ henv => ⟨henv, .ok henv⟩

theorem modify {g g' : Env → Env} (h : ∀ env env', Env.Rel K.toCorrespondence env env' →
    Env.Rel K.toCorrespondence (g env) (g' env')) : K.Does (modify g) (modify g') :=
  fun env env' henv => ⟨h env env' henv, .ok trivial⟩

theorem throw (f : Fault) : K.Holds (throw f) (throw f) P :=
  fun _ _ henv => ⟨henv, .error f⟩

theorem andNothing (hv : K.Holds v w P) :
    K.Holds (Visit.andNothing v) (Visit.andNothing w) (Option.Rel K.type) :=
  K.bind hv fun _ _ _ => K.pure .none

theorem unlessFatal {v : Typed} (hv : K.Self v) : K.Self (Visit.unlessFatal v) := by
  refine K.bind K.get fun env env' henv => ?_
  rw [henv.fatal]
  split
  · exact K.pure .none
  · exact hv

end steps

/-! ### Reports and comparisons -/

theorem report {kind kind' : DiagnosticKind} (h : DiagnosticKind.Rel K.type kind kind')
    (loc : Location) : K.Does (Visit.report kind loc) (Visit.report kind' loc) :=
  K.modify fun _ _ henv => henv.report ⟨h, rfl⟩

theorem note (event : Event) : K.Does (Visit.note event) (Visit.note event) :=
  K.modify fun _ _ henv => henv.note event

theorem expect (loc : Location) {declared declared' inferred inferred' : TypeInst}
    (hdeclared : K.type declared declared') (hinferred : K.type inferred inferred') :
    K.Does (Visit.expect loc declared inferred) (Visit.expect loc declared' inferred') := by
  unfold Visit.expect
  have hverdict : Verdict.Rel K.type (declared.compare inferred) (declared'.compare inferred') :=
    Ty.compareBy_rel K.similar K.same hdeclared _ _ hinferred
  generalize declared.compare inferred = v, declared'.compare inferred' = v' at hverdict
  cases hverdict with
  | compatible => exact K.pure trivial
  | mismatch h h' => exact K.report (.typeClassMismatch h h') loc
  | fault f => exact K.throw f

theorem declare (loc : Location) {name : String} (hname : K.names name)
    {inferred inferred' : TypeInst} (hinferred : K.type inferred inferred') :
    K.Does (Visit.declare loc name inferred) (Visit.declare loc name inferred') := by
  refine K.bind K.get fun env env' henv => ?_
  have hlookup := henv.lookup hname
  generalize env.lookup name = b, env'.lookup name = b' at hlookup
  cases hlookup with
  | none => exact K.modify fun _ _ h => h.bind name hinferred .localVariable
  | @some b b' hb =>
    obtain ⟨declared, origin⟩ := b
    obtain ⟨declared', origin'⟩ := b'
    obtain ⟨hdeclared, rfl⟩ := hb
    cases origin with
    | header => exact K.expect loc hdeclared hinferred
    | _ => exact K.modify fun _ _ h => h.bind name hinferred .localVariable

/-! ### Functions -/

theorem inScope (name : String) (params : List Node) {type type' : TypeInst}
    (htype : K.type type type') {body : Typed} (hbody : K.Self body) :
    K.Holds (Visit.inScope name params type body) (Visit.inScope name params type' body)
      (Option.Rel (FunctionState.Rel K.type)) := by
  intro env env' henv
  obtain ⟨hstate, houtcome⟩ := hbody _ _ (henv.enterFunction K.similar name params htype)
  obtain ⟨hfunction, hstate⟩ := hstate.exitFunction
  rw [run_inScope, run_inScope]
  exact ⟨hstate, houtcome.map fun _ _ _ => hfunction⟩

theorem checkParams (loc : Location) (name : String) (expected actual : Nat) :
    K.Does (Visit.checkParams loc name expected actual)
      (Visit.checkParams loc name expected actual) := by
  unfold Visit.checkParams
  split_ifs
  · exact K.report (.refl _) loc
  · exact K.report (.refl _) loc
  · exact K.pure trivial

theorem checkArguments (loc : Location) (name : String) (expected actual : Nat) :
    K.Does (Visit.checkArguments loc name expected actual)
      (Visit.checkArguments loc name expected actual) := by
  unfold Visit.checkArguments
  split_ifs
  · exact K.report (.refl _) loc
  · exact K.report (.refl _) loc
  · exact K.pure trivial

theorem keys_eq {t t' : TypeInst} (h : K.type t t') : keys t = keys t' := by
  unfold keys
  have hshape := K.similar t t' h
  generalize t.shape = s, t'.shape = s' at hshape
  cases hshape with
  | object hid hfields =>
    dsimp only
    rw [← List.forall₂_eq_eq_eq, List.forall₂_map_left_iff, List.forall₂_map_right_iff]
    exact hfields.imp fun _ _ hf => hf.key
  | _ => rfl

theorem checkBody (loc : Location) {f f' : FunctionState} (h : FunctionState.Rel K.type f f') :
    K.Does (Visit.checkBody loc f) (Visit.checkBody loc f') := by
  obtain ⟨name, role, foundReturn, assigned⟩ := f
  obtain ⟨name', role', foundReturn', assigned'⟩ := f'
  obtain ⟨rfl, hrole, rfl, rfl⟩ := h
  unfold Visit.checkBody
  cases hrole with
  | constructor hreceiver =>
    dsimp only
    rw [K.keys_eq hreceiver]
    split
    · exact K.report (.refl _) loc
    · exact K.pure trivial
  | plain hresult =>
    dsimp only
    rw [K.similar.isVoid hresult]
    split
    · exact K.report (.missingReturnStatement _ _ hresult) loc
    · exact K.pure trivial

theorem inFunction (loc : Location) (name : String) (params : List Node) {type type' : TypeInst}
    (htype : K.type type type') {body : Typed} (hbody : K.Self body) :
    K.Does (Visit.inFunction loc name params type body)
      (Visit.inFunction loc name params type' body) := by
  rw [inFunction_eq, inFunction_eq]
  refine K.bind (K.inScope name params htype hbody) fun f f' hf => ?_
  cases hf with
  | none => exact K.pure trivial
  | some hf => exact K.checkBody loc hf

theorem function (loc : Location) {name : String} (hname : K.names name) (params : List Node)
    {body : Typed} (hbody : K.Self body) : K.Self (Visit.function loc name params body) := by
  refine K.bind K.get fun env env' henv => ?_
  have huntyped := K.andNothing (K.report (.refl (.untypedFunctionFound name)) loc)
  have hlookup := henv.lookup hname
  generalize env.lookup name = b, env'.lookup name = b' at hlookup
  cases hlookup with
  | none => exact huntyped
  | @some b b' hb =>
    obtain ⟨⟨shape, label, optional, raw⟩, origin⟩ := b
    obtain ⟨⟨shape', label', optional', raw'⟩, origin'⟩ := b'
    have htype := hb.type
    have hshape := K.similar _ _ htype
    dsimp only at htype hshape ⊢
    cases hshape with
    | function hargs hreceiver hresult =>
      dsimp only
      rw [hargs.length_eq, K.similar.isNonEmptyObject hresult]
      refine K.bind (K.checkParams loc name _ _) fun _ _ _ => ?_
      split
      · refine K.bind (K.report (.constructorThisTypeMustBeObject name hresult) loc) fun _ _ _ => ?_
        exact K.pure (.some htype)
      · refine K.bind (K.inFunction loc name params htype hbody) fun _ _ _ => ?_
        exact K.pure (.some htype)
    | _ => exact huntyped

theorem checkReturn (loc : Location) (hasArgument : Bool) {actual actual' : Option TypeInst}
    (hactual : Option.Rel K.type actual actual') :
    K.Does (Visit.checkReturn loc hasArgument actual)
      (Visit.checkReturn loc hasArgument actual') := by
  refine K.bind K.get fun env env' henv => ?_
  have hfunction := henv.currentFunction?
  generalize env.currentFunction? = f, env'.currentFunction? = f' at hfunction
  cases hfunction with
  | none => exact K.pure trivial
  | @some f f' hf =>
    obtain ⟨name, role, foundReturn, assigned⟩ := f
    obtain ⟨name', role', foundReturn', assigned'⟩ := f'
    obtain ⟨rfl, hrole, rfl, rfl⟩ := hf
    refine K.bind (K.modify fun _ _ h => h.modifyFunction fun _ _ hf => ?_) fun _ _ _ => ?_
    · exact { hf with foundReturn := rfl }
    cases hrole with
    | constructor hreceiver =>
      cases hactual with
      | none => exact K.report (.refl _) loc
      | some hactual => exact K.report (.returnStatementInConstructor name hactual) loc
    | plain hresult =>
      dsimp only
      rw [K.similar.isVoid hresult]
      split_ifs
      · cases hactual with
        | none => exact K.report (.refl _) loc
        | some hactual => exact K.report (.nonVoidReturnType _ name hactual) loc
      · exact K.pure trivial
      · cases hactual with
        | none => exact K.pure trivial
        | some hactual => exact K.expect loc hresult hactual
      · exact K.expect loc hresult (K.literal "void")

/-! ### Fields and calls -/

theorem assignField (field : String) :
    K.Does (Visit.assignField field) (Visit.assignField field) := by
  refine K.bind K.get fun env env' henv => ?_
  have hfunction := henv.currentFunction?
  generalize env.currentFunction? = f, env'.currentFunction? = f' at hfunction
  cases hfunction with
  | none => exact K.pure trivial
  | some hf =>
    dsimp only
    rw [hf.isConstructor]
    split
    · refine K.modify fun _ _ h => h.modifyFunction fun f f' hf => ?_
      exact { hf with assigned := congrArg (· ++ [field]) hf.assigned }
    · exact K.pure trivial

theorem member (loc : Location) (field : String) {object object' : TypeInst}
    (hobject : K.type object object') :
    K.Holds (Visit.member loc field object) (Visit.member loc field object')
      (Option.Rel K.type) := by
  have hfield := K.similar.field? hobject field
  unfold Visit.member
  generalize object.field? field = f, object'.field? field = f' at hfield
  have hshape := K.similar _ _ hobject
  generalize object.shape = s, object'.shape = s' at hshape
  cases hshape with
  | union h => exact K.andNothing (K.report (.unionFieldAccess field hobject) loc)
  | object hid hfields =>
    cases hfield with
    | none => exact K.andNothing (K.report (.nonExistentField field hobject) loc)
    | some hf => exact K.pure (.some hf.type)
  | _ => exact K.pure .none

variable {arguments : List TypeInst → Visit Unit} (harguments : ∀ declared declared',
  List.Forall₂ K.type declared declared' → K.Does (arguments declared) (arguments declared'))

include harguments in
theorem call {callee callee' : Option TypeInst} (hcallee : Option.Rel K.type callee callee') :
    K.Holds (Visit.call callee arguments) (Visit.call callee' arguments) (Option.Rel K.type) := by
  have hnothing := K.andNothing (harguments [] [] .nil)
  cases hcallee with
  | none => exact hnothing
  | @some type type' htype =>
    obtain ⟨shape, label, optional, raw⟩ := type
    obtain ⟨shape', label', optional', raw'⟩ := type'
    have hshape := K.similar _ _ htype
    dsimp only at hshape
    cases hshape with
    | function hargs hreceiver hresult =>
      exact K.bind (harguments _ _ hargs) fun _ _ _ => K.pure (.some hresult)
    | _ => exact hnothing

include harguments in
theorem construct (loc : Location) (name : String) (count : Nat) {callee callee' : Option TypeInst}
    (hcallee : Option.Rel K.type callee callee') :
    K.Holds (Visit.construct loc name count callee arguments)
      (Visit.construct loc name count callee' arguments) (Option.Rel K.type) := by
  cases hcallee with
  | none => exact K.andNothing (harguments [] [] .nil)
  | @some type type' htype =>
    unfold Visit.construct
    have hshape := K.similar _ _ htype
    dsimp only
    generalize type.shape = s, type'.shape = s' at hshape
    cases hshape with
    | function hargs hreceiver hresult =>
      dsimp only
      rw [hargs.length_eq, K.similar.isNonEmptyObject hresult]
      split_ifs
      · exact K.andNothing (K.report (.constructorMustBePascalCase name htype) loc)
      · exact K.andNothing (K.report (.callingNewOnPlainFunction name htype) loc)
      · refine K.bind (K.checkArguments loc name _ count) fun _ _ _ => ?_
        exact K.bind (harguments _ _ hargs) fun _ _ _ => K.pure (.some hresult)
    | _ => exact K.pure .none

/-! ### Nodes -/

variable {K}

theorem walkAll {ns : List Node} (h : ∀ n ∈ ns, K.Self (Visit.visit n)) :
    K.Does (Visit.walkAll Visit.unlessFatal ns) (Visit.walkAll Visit.unlessFatal ns) := by
  induction ns with
  | nil => exact K.pure trivial
  | cons n ns ih =>
    obtain ⟨hn, hns⟩ := List.forall_mem_cons.1 h
    exact K.bind hn fun _ _ _ => ih hns

theorem walkOption {o : Option Node} (h : ∀ n ∈ o, K.Self (Visit.visit n)) :
    K.Does (Visit.walkOption Visit.unlessFatal o) (Visit.walkOption Visit.unlessFatal o) := by
  cases o with
  | none => exact K.pure trivial
  | some n => exact K.bind (h n rfl) fun _ _ _ => K.pure trivial

theorem walkArguments {ns : List Node} (h : ∀ n ∈ ns, K.Self (Visit.visit n)) :
    ∀ declared declared', List.Forall₂ K.type declared declared' →
      K.Does (Visit.walkArguments Visit.unlessFatal declared ns)
        (Visit.walkArguments Visit.unlessFatal declared' ns) := by
  induction ns with
  | nil => exact fun _ _ _ => K.pure trivial
  | cons n ns ih =>
    intro declared declared' hdeclared
    obtain ⟨hn, hns⟩ := List.forall_mem_cons.1 h
    unfold Visit.walkArguments
    refine K.bind hn fun actual actual' hactual => ?_
    cases hdeclared with
    | nil => exact ih hns [] [] .nil
    | cons hexpected hdeclared =>
      cases hactual with
      | none => exact ih hns _ _ hdeclared
      | some hactual =>
        exact K.bind (K.expect n.loc hexpected hactual) fun _ _ _ => ih hns _ _ hdeclared

theorem assignment (loc : Location) {left right : Node} (hleft : K.Self (Visit.visit left))
    (hright : K.Self (Visit.visit right)) : K.Self (do
      let expected ← Visit.visit left
      let actual ← Visit.visit right
      match expected, actual with
      | some expected, some actual => Visit.expect loc expected actual
      | _, _ => Pure.pure ()
      return actual) := by
  refine K.bind hleft fun expected expected' hexpected => ?_
  refine K.bind hright fun actual actual' hactual => ?_
  cases hexpected with
  | none => exact K.pure hactual
  | some hexpected =>
    cases hactual with
    | none => exact K.pure .none
    | some hactual =>
      exact K.bind (K.expect loc hexpected hactual) fun _ _ _ => K.pure (.some hactual)

/-- The names that a node itself is about are among those whose bindings correspond. -/
def Names (K : Coupling) (n : Node) : Prop := ∀ name ∈ n.ownName?, K.names name

/-- What holds of the visits to the smaller nodes of a node, and to the bodies of the function
expressions among these, holds of the visit to the node. -/
theorem visit_step {n : Node} (hnames : K.Names n) (hself : ∀ c ∈ n.kind.children, K.Names c)
    (hvisits : ∀ c ∈ n.kind.children, K.Self (Visit.visit c))
    (hfunctions : ∀ loc name params body, ⟨loc, .functionExpression name params body⟩ ∈
      n.kind.children → K.Self (Visit.visit body)) :
    K.Self (Visit.visit n) := by
  obtain ⟨loc, kind⟩ := n
  unfold Visit.visit Visit.walk
  refine K.unlessFatal ?_
  split <;>
    simp only [NodeKind.children, List.forall_mem_cons, List.forall_mem_append, List.not_mem_nil,
      false_implies, implies_true, Option.mem_toList, and_true] at hself hvisits
  next body =>
    refine K.bind (K.modify fun _ _ h => h.setExports body) fun _ _ _ => ?_
    refine K.bind (K.modify K.loadHeader) fun _ _ _ => ?_
    refine K.bind K.get fun env env' henv => ?_
    rw [henv.fatal]
    split
    · exact K.pure .none
    · exact K.andNothing (walkAll hvisits)
  -- functions
  next name params body =>
    exact K.andNothing (K.function loc (hnames name rfl) params hvisits.2)
  next name params body => exact K.function loc (hnames name rfl) params hvisits.2
  next params body => exact K.andNothing (K.note _)
  -- statements
  next body => exact K.andNothing (walkAll hvisits)
  next expression => exact K.andNothing hvisits
  next => exact K.andNothing (K.checkReturn loc false .none)
  next argument =>
    refine K.bind (hvisits argument rfl) fun actual actual' hactual => ?_
    exact K.andNothing (K.checkReturn loc true hactual)
  next test consequent alternate =>
    obtain ⟨htest, hconsequent, halternate⟩ := hvisits
    refine K.bind htest fun _ _ _ => K.bind hconsequent fun _ _ _ => ?_
    exact K.andNothing (walkOption halternate)
  next init test update body =>
    obtain ⟨⟨⟨hinit, htest⟩, hupdate⟩, hbody⟩ := hvisits
    refine K.bind (walkOption hinit) fun _ _ _ => K.bind (walkOption htest) fun _ _ _ => ?_
    exact K.bind (walkOption hupdate) fun _ _ _ => K.andNothing hbody
  next left right body =>
    obtain ⟨hleft, hright, hbody⟩ := hvisits
    exact K.bind hleft fun _ _ _ => K.bind hright fun _ _ _ => K.andNothing hbody
  next left right body =>
    obtain ⟨hleft, hright, hbody⟩ := hvisits
    exact K.bind hleft fun _ _ _ => K.bind hright fun _ _ _ => K.andNothing hbody
  next test body => exact K.bind hvisits.1 fun _ _ _ => K.andNothing hvisits.2
  next body test => exact K.bind hvisits.1 fun _ _ _ => K.andNothing hvisits.2
  next discriminant cases =>
    exact K.bind hvisits.1 fun _ _ _ => K.andNothing (walkAll hvisits.2)
  next test consequent =>
    exact K.bind (walkOption hvisits.1) fun _ _ _ => K.andNothing (walkAll hvisits.2)
  next block handler finalizer =>
    obtain ⟨hblock, hhandler, hfinalizer⟩ := hvisits
    refine K.bind hblock fun _ _ _ => K.bind (walkOption hhandler) fun _ _ _ => ?_
    exact K.andNothing (walkOption hfinalizer)
  next param body => exact K.andNothing hvisits.2
  next body => exact K.andNothing hvisits
  -- variables
  next declarations keyword => exact K.andNothing (walkAll hvisits)
  next id => exact K.pure .none
  next idLoc name initLoc own params body =>
    have hbody := hfunctions initLoc own params body (by simp [NodeKind.children])
    exact K.andNothing (K.function initLoc (hself.1 name rfl) params hbody)
  next id init _ =>
    refine K.bind (hvisits.2 init rfl) fun inferred inferred' hinferred => ?_
    cases hname : id.identifierName? with
    | none => exact K.pure .none
    | some name =>
      have hname' := hself.1 name (Node.ownName?_of_identifierName? hname)
      cases hinferred with
      | none => exact K.pure .none
      | some hinferred => exact K.andNothing (K.declare loc hname' hinferred)
  next operator leftLoc name rightLoc params body =>
    have hbody := hfunctions rightLoc none params body (by simp [NodeKind.children])
    exact K.function rightLoc (hself.1 name rfl) params hbody
  next operator left right _ =>
    have hassignment := assignment loc hvisits.1 hvisits.2
    dsimp only
    split
    · split
      · exact K.bind (K.assignField _) fun _ _ _ => hassignment
      · exact hassignment
    · exact hassignment
  -- expressions
  next object fieldLoc field =>
    refine K.bind hvisits.1 fun type type' htype => ?_
    cases htype with
    | none => exact K.pure .none
    | some htype => exact K.member loc field htype
  next object property computed _ => exact K.andNothing hvisits.1
  next callee arguments =>
    exact K.bind hvisits.1 fun _ _ htype => K.call (walkArguments hvisits.2) htype
  next callee arguments =>
    refine K.bind hvisits.1 fun _ _ htype => ?_
    exact K.construct (walkArguments hvisits.2) loc (calleeName callee) arguments.length htype
  next name =>
    refine K.bind K.get fun env env' henv => K.pure ?_
    have hlookup := henv.lookup (hnames name rfl)
    generalize env.lookup name = b, env'.lookup name = b' at hlookup
    cases hlookup with
    | none => exact .none
    | some hb => exact .some hb.type
  next =>
    refine K.bind K.get fun env env' henv => K.pure ?_
    have hfunction := henv.currentFunction?
    generalize env.currentFunction? = f, env'.currentFunction? = f' at hfunction
    cases hfunction with
    | none => exact .none
    | some hf => exact hf.receiver?
  next raw =>
    refine K.pure ?_
    cases raw.bind Literal.typeName? with
    | none => exact .none
    | some name => exact .some (K.literal name)
  next => exact K.andNothing (K.note _)

/-- **Two visits to one node run side by side.** -/
theorem visit {n : Node} (hn : n.All K.Names) : K.Self (Visit.visit n) := by
  -- as in `Steps.walk`: the bodies of function expressions are visited from one node further up
  have hboth : K.Self (Visit.visit n) ∧ ∀ c ∈ n.kind.children, K.Self (Visit.visit c) := by
    induction hn with
    | intro hnames hall ih =>
      refine ⟨visit_step hnames (fun c hc => (hall c hc).self) (fun c hc => (ih c hc).1) ?_,
        fun c hc => (ih c hc).1⟩
      intro loc name params body hc
      exact (ih _ hc).2 body (by simp [NodeKind.children])
  exact hboth.1

/-! ### Checks -/

section checks

variable (hroot : K.root.All K.Names) {env env' : Env}
include hroot

theorem check (henv : Env.Rel K.toCorrespondence env env') :
    Env.Rel K.toCorrespondence env.check.2 env'.check.2 ∧ env.check.1 = env'.check.1 := by
  obtain ⟨hstate, houtcome⟩ := visit hroot env env' henv
  unfold Env.check Env.visit
  rw [henv.root, henv.root']
  refine ⟨hstate, ?_⟩
  generalize (Visit.visit K.root).run env = r, (Visit.visit K.root).run env' = r' at houtcome
  obtain ⟨outcome, env₁⟩ := r
  obtain ⟨outcome', env₁'⟩ := r'
  cases houtcome <;> rfl

theorem iterate_check (henv : Env.Rel K.toCorrespondence env env') (passes : Nat) :
    Env.Rel K.toCorrespondence ((fun env => env.check.2)^[passes] env)
      ((fun env => env.check.2)^[passes] env') := by
  induction passes generalizing env env' with
  | zero => exact henv
  | succ passes ih => exact ih (check hroot henv).1

end checks

end Coupling

end Visit

end SigCheck
