import Mathlib.Tactic.SplitIfs
import SigCheck.Visit

/-!
# What holds of every visit

A visit is made of single steps: it reads the state, reports, compares two types, binds a variable,
loads the header, or goes into a function.  A `Contract` says what is asked of every step: it keeps
an invariant, it leads to a state that is related to the one before, and only some faults may end
it.  `Steps` lists what a contract asks of the single steps, and `Steps.visit` concludes that every
visit meets the contract: the walk through all kinds of nodes is made once, in
`StepsAround.walk_step`, and a property of all visits only needs its own `Steps`.

The bodies of functions may keep to another contract than the nodes around them, since they are
visited in a scope of their own.  `StepsAround` lists what is asked then, also of the way into a
function and out of it, and `Steps` is the case of one contract for both.

The states in the middle of a visit cannot be seen from outside.  `Throughout` says what holds in
them by way of a second walk, which turns to something else wherever it comes to a node in a state
that is not as it should be: if the two walks are always the same, there is no such state.
`Steps.throughout` concludes that the invariant of a contract holds throughout.

`ok` is what is known of the nodes that are visited, and `types` of the types that occur.
-/

namespace SigCheck

/-! ### Trees -/

namespace Node

theorem sizeOf_lt_of_mem_children {c n : Node} (h : c ∈ n.kind.children) : sizeOf c < sizeOf n := by
  have hlist : ∀ {ns : List Node}, c ∈ ns → sizeOf c < sizeOf ns := List.sizeOf_lt_of_mem
  have hoption : ∀ {o : Option Node}, o = some c → sizeOf c < sizeOf o := by
    rintro o rfl
    simp
  obtain ⟨loc, kind⟩ := n
  cases kind <;>
    simp only [NodeKind.children, List.mem_cons, List.mem_append, Option.mem_toList,
      List.not_mem_nil, or_false] at h <;>
    simp <;> grind

/-- A property holds of every node if it passes from the smaller nodes of a node to the node. -/
theorem induction {P : Node → Prop} (step : ∀ n : Node, (∀ c ∈ n.kind.children, P c) → P n)
    (n : Node) : P n := by
  induction hn : sizeOf n using Nat.strongRecOn generalizing n with
  | ind size ih =>
    subst hn
    exact step n fun c hc => ih _ (sizeOf_lt_of_mem_children hc) c rfl

/-- The property holds of the node and of all nodes inside it. -/
inductive All (P : Node → Prop) : Node → Prop
  | intro {n : Node} (h : P n) (hchildren : ∀ c ∈ n.kind.children, All P c) : All P n

theorem All.self {P : Node → Prop} {n : Node} (h : n.All P) : P n := by
  cases h with
  | intro h _ => exact h

theorem All.children {P : Node → Prop} {n c : Node} (h : n.All P) (hc : c ∈ n.kind.children) :
    c.All P := by
  cases h with
  | intro _ hchildren => exact hchildren c hc

theorem All.imp {P Q : Node → Prop} (hPQ : ∀ n, P n → Q n) {n : Node} (h : n.All P) : n.All Q := by
  induction h with
  | intro h _ ih => exact .intro (hPQ _ h) ih

theorem all_of_forall {P : Node → Prop} (h : ∀ n, P n) (n : Node) : n.All P :=
  Node.induction (fun n ih => .intro (h n) ih) n

/-- The node is a function with the given parameters and body. -/
inductive IsFunction : Node → List Node → Node → Prop
  | declaration {loc : Location} {name : String} {params : List Node} {body : Node} :
      IsFunction ⟨loc, .functionDeclaration name params body⟩ params body
  | expression {loc : Location} {name : Option String} {params : List Node} {body : Node} :
      IsFunction ⟨loc, .functionExpression name params body⟩ params body

theorem IsFunction.body_mem {n : Node} {params : List Node} {body : Node}
    (h : n.IsFunction params body) : body ∈ n.kind.children := by
  cases h <;> simp [NodeKind.children]

/-- The smaller nodes of a node, without the body of a function. -/
def outer (n : Node) : List Node :=
  match n.kind with
  | .functionDeclaration _ params _ | .functionExpression _ params _ => params
  | kind => kind.children

theorem mem_children_of_mem_outer {n c : Node} (h : c ∈ n.outer) : c ∈ n.kind.children := by
  unfold outer at h
  split at h
  · rename_i hkind
    simp [hkind, NodeKind.children, h]
  · rename_i hkind
    simp [hkind, NodeKind.children, h]
  · exact h

/-- `ok` holds of the node and of all nodes inside it that are in no body of a function, and `inner`
holds of these bodies. -/
inductive AllOuter (ok inner : Node → Prop) : Node → Prop
  | intro {n : Node} (h : ok n) (houter : ∀ c ∈ n.outer, AllOuter ok inner c)
      (hbody : ∀ params body, n.IsFunction params body → inner body) : AllOuter ok inner n

theorem AllOuter.self {ok inner : Node → Prop} {n : Node} (h : n.AllOuter ok inner) : ok n := by
  cases h with
  | intro h _ _ => exact h

/-- The name that a node itself is about: that of an identifier, or of a function. -/
def ownName? (n : Node) : Option String :=
  match n.kind with
  | .identifier name => some name
  | .functionDeclaration name _ _ => some name
  | .functionExpression name _ _ => name
  | _ => none

theorem ownName?_of_identifierName? {n : Node} {name : String} (h : n.identifierName? = some name) :
    n.ownName? = some name := by
  unfold identifierName? at h
  split at h
  · rename_i name' hkind
    simp [ownName?, hkind, Option.some.inj h]
  · cases h

end Node

theorem Ty.type_mem_children {ι : Type} {t : Ty ι} {key : String} {f : Field (Ty ι)}
    (h : t.field? key = some f) : f.type ∈ t.shape.children := by
  unfold Ty.field? at h
  split at h
  · rename_i fields hshape
    rw [hshape]
    exact List.mem_map_of_mem (List.mem_of_find?_eq_some h)
  · cases h

theorem Literal.mem_of_typeName? {raw name : String} (h : Literal.typeName? raw = some name) :
    name ∈ ["String", "Number", "void"] := by
  unfold Literal.typeName? at h
  split at h
  · simp_all
  · simp_all
  · split at h
    · simp_all
    · cases h

/-- The type that a function gives. -/
def Role.type : Role → TypeInst
  | plain result => result
  | constructor receiver => receiver

theorem FunctionState.type_start (name : String) (result : TypeInst) :
    (FunctionState.start name result).role.type = result := by
  unfold FunctionState.start
  dsimp only
  split <;> rfl

theorem FunctionState.type_of_receiver? {f : FunctionState} {t : TypeInst}
    (h : f.receiver? = some t) : f.role.type = t := by
  unfold FunctionState.receiver? at h
  split at h
  · cases h
  · rename_i receiver hrole
    rw [hrole]
    exact Option.some.inj h

/-! ### Headers -/

namespace Env

variable (env : Env)

/-- The state once the header is asked for: the log names it, and the file that is read. -/
def announceHeader : Env :=
  let name := Header.fileName env.fileName
  let env := env.countLoad.note (.loadingHeader name)
  match env.loader.path? name with
  | some path => env.note (.readingHeader path)
  | none => env

theorem loadHeader_eq : env.loadHeader =
    match env.loader.load env.loads (Header.fileName env.fileName) with
    | .ok header =>
      { bindSignatures header.signatures env.announceHeader with header := some header }
    | .error e =>
      let name := Header.fileName env.fileName
      let env := env.announceHeader.note (.headerFailed name e.message)
      { env.report ⟨.headerLoadFailed name e.message, env.root.loc⟩ with fatal := true } := rfl

theorem fatal_setExports (body : List Node) : (env.setExports body).fatal = env.fatal := by
  unfold setExports
  split <;> rfl

end Env

namespace Visit

variable {α β : Type}

/-! ### Runs -/

theorem run_bind (v : Visit α) (f : α → Visit β) (env : Env) :
    (v >>= f).run env = match (v.run env).1 with
      | .ok a => (f a).run (v.run env).2
      | .error e => (.error e, (v.run env).2) := by
  change (ExceptT.bindCont f (v.run env).1 : StateM Env _) (v.run env).2 = _
  cases (v.run env).1 <;> rfl

theorem run_unlessFatal_of_fatal {env : Env} (h : env.fatal = true) (v : Typed) :
    (unlessFatal v).run env = (.ok none, env) := by
  rw [unlessFatal, run_bind]
  exact congrArg (fun v : Typed => v.run env) (if_pos h)

theorem run_unlessFatal {env : Env} (h : env.fatal = false) (v : Typed) :
    (unlessFatal v).run env = v.run env := by
  have hopen : ¬env.fatal = true := by simp [h]
  rw [unlessFatal, run_bind]
  exact congrArg (fun v : Typed => v.run env) (if_neg hopen)

/-- Does the body of a function in a scope of its own, and gives what is known of the function. -/
def inScope (name : String) (params : List Node) (type : TypeInst) (body : Typed) :
    Visit (Option FunctionState) := do
  modify (·.enterFunction name params type)
  let outcome ← attempt body
  let f ← modifyGet Env.exitFunction
  let _ ← liftExcept outcome
  return f

/-- What is checked behind the body of a function. -/
def checkLeft (loc : Location) : Option FunctionState → Visit Unit
  | some f => checkBody loc f
  | none => return

theorem inFunction_eq (loc : Location) (name : String) (params : List Node) (type : TypeInst)
    (body : Typed) :
    inFunction loc name params type body = inScope name params type body >>= checkLeft loc := by
  simp only [inFunction, inScope, bind_assoc, pure_bind]
  rfl

theorem run_attempt (v : Visit α) (env : Env) :
    (attempt v).run env = (.ok (v.run env).1, (v.run env).2) := rfl

theorem run_inScope (name : String) (params : List Node) (type : TypeInst) (body : Typed)
    (env : Env) : (inScope name params type body).run env =
      let r := body.run (env.enterFunction name params type)
      (r.1.map fun _ => r.2.exitFunction.1, r.2.exitFunction.2) := by
  rw [inScope, run_bind]
  change (attempt body >>= _).run (env.enterFunction name params type) = _
  rw [run_bind, run_attempt]
  cases body.run (env.enterFunction name params type) with
  | mk outcome env' => cases outcome <;> rfl

/-! ### The middle of a visit -/

open Classical in
/-- Does `otherwise` where the state is not safe. -/
noncomputable def guarded (safe : Env → Prop) (otherwise v : Typed) : Typed := do
  if safe (← get) then unlessFatal v else otherwise

/-- `safe` holds in every state in which the visit to `n` from the state `env` comes to a node, to
`n` itself or to one inside it: the walk that does `otherwise` at the nodes to which it comes in
another state is the visit, whatever `otherwise` is. -/
def Throughout (safe : Env → Prop) (n : Node) (env : Env) : Prop :=
  ∀ otherwise, (walk (guarded safe otherwise) n).run env = (visit n).run env

/-- The first of these states is the one that the visit starts from. -/
theorem Throughout.here {safe : Env → Prop} {n : Node} {env : Env} (h : Throughout safe n env) :
    safe env := by
  refine Classical.byContradiction fun hsafe => ?_
  -- from an unsafe state the second walk does `otherwise` at once
  have hrun : ∀ otherwise : Typed, (visit n).run env = otherwise.run env := by
    intro otherwise
    obtain ⟨loc, kind⟩ := n
    rw [← h otherwise]
    unfold walk guarded
    rw [run_bind]
    exact congrFun (congrArg ExceptT.run (if_neg hsafe)) env
  have hboth := (hrun (pure none)).symm.trans (hrun (throw (.unknownBuiltin "")))
  cases hboth

/-! ### Contracts -/

/-- What is asked of every step of a visit. -/
structure Contract where
  /-- What is kept. -/
  inv : Env → Prop
  /-- How the state after a step is related to the state before it. -/
  rel : Env → Env → Prop
  /-- The faults that may end a visit. -/
  fault : Fault → Prop
  refl : ∀ env, rel env env
  trans : ∀ {a b c}, rel a b → rel b c → rel a c

namespace Contract

/-- Nothing is asked but that the invariant is kept. -/
def keeping (inv : Env → Prop) : Contract where
  inv := inv
  rel _ _ := True
  fault _ := True
  refl _ := trivial
  trans _ _ := trivial

variable (C : Contract)

/-- The contract lets the state `env'` follow the state `env`. -/
abbrev Allows (env env' : Env) : Prop := C.inv env' ∧ C.rel env env'

/-- From the state `env`, the step meets the contract, and what it gives satisfies `P`. -/
abbrev HoldsFrom (env : Env) (v : Visit α) (P : α → Prop) : Prop :=
  C.inv (v.run env).2 ∧ C.rel env (v.run env).2 ∧
    match (v.run env).1 with
    | .ok a => P a
    | .error f => C.fault f

/-- The step meets the contract, and what it gives satisfies `P`. -/
def Holds (v : Visit α) (P : α → Prop) : Prop := ∀ env, C.inv env → C.HoldsFrom env v P

/-- The step meets the contract. -/
abbrev Does (v : Visit α) : Prop := C.Holds v fun _ => True

/-- The change of the state meets the contract. -/
def Keeps (g : Env → Env) : Prop := ∀ env, C.inv env → C.Allows env (g env)

/-- The visit to the node meets the contract, and gives only types among `types`. -/
abbrev Visits (types : TypeInst → Prop) (n : Node) : Prop :=
  C.Holds (visit n) fun t => ∀ t' ∈ t, types t'

section steps

variable {v : Visit α} {P : α → Prop} {Q : β → Prop}

theorem pure {a : α} (h : P a) : C.Holds (pure a) P :=
  fun env henv => ⟨henv, C.refl env, h⟩

theorem bind {f : α → Visit β} (hv : C.Holds v P) (hf : ∀ a, P a → C.Holds (f a) Q) :
    C.Holds (v >>= f) Q := by
  intro env henv
  obtain ⟨hinv, hrel, hresult⟩ := hv env henv
  rw [HoldsFrom, run_bind]
  split at hresult
  · rename_i a ha
    obtain ⟨hinv', hrel', hresult'⟩ := hf a hresult _ hinv
    exact ⟨hinv', C.trans hrel hrel', hresult'⟩
  · exact ⟨hinv, hrel, hresult⟩

theorem imp {P' : α → Prop} (h : ∀ a, P a → P' a) (hv : C.Holds v P) : C.Holds v P' := by
  intro env henv
  obtain ⟨hinv, hrel, hresult⟩ := hv env henv
  refine ⟨hinv, hrel, ?_⟩
  split at hresult
  · exact h _ hresult
  · exact hresult

theorem get {P : Env → Prop} (h : ∀ env, C.inv env → P env) : C.Holds get P :=
  fun env henv => ⟨henv, C.refl env, h env henv⟩

/-- A step that looks at the state may rely on what it sees. -/
theorem ask {f : Env → Visit α} (h : ∀ env, C.inv env → C.HoldsFrom env (f env) P) :
    C.Holds (MonadState.get >>= f) P := h

theorem modify {g : Env → Env} (h : C.Keeps g) : C.Does (modify g) :=
  fun env henv => ⟨(h env henv).1, (h env henv).2, trivial⟩

theorem throw {f : Fault} (h : C.fault f) : C.Holds (throw f) P :=
  fun env henv => ⟨henv, C.refl env, h⟩

end steps

/-! ### Two walks side by side -/

/-- From the state `env`, the two steps are the same and meet the contract, and what they give
satisfies `P`. -/
abbrev AgreeFrom (env : Env) (v w : Visit α) (P : α → Prop) : Prop :=
  C.HoldsFrom env w P ∧ v.run env = w.run env

/-- The two steps are the same and meet the contract, and what they give satisfies `P`. -/
def Agree (v w : Visit α) (P : α → Prop) : Prop := ∀ env, C.inv env → C.AgreeFrom env v w P

/-- The two steps are the same and meet the contract. -/
abbrev Same (v w : Visit α) : Prop := C.Agree v w fun _ => True

/-- The walk through the node is the visit to it, which meets the contract and gives only types
among `types`. -/
abbrev Walks (around : Typed → Typed) (types : TypeInst → Prop) (n : Node) : Prop :=
  C.Agree (walk around n) (visit n) fun t => ∀ t' ∈ t, types t'

variable {C} {v w : Visit α} {P : α → Prop}

theorem Holds.agree (h : C.Holds v P) : C.Agree v v P := fun env henv => ⟨h env henv, rfl⟩

theorem Agree.holds (h : C.Agree v w P) : C.Holds w P := fun env henv => (h env henv).1

theorem Agree.imp {P' : α → Prop} (hP : ∀ a, P a → P' a) (h : C.Agree v w P) : C.Agree v w P' :=
  fun env henv => ⟨C.imp hP h.holds env henv, (h env henv).2⟩

theorem Agree.bind {Q : β → Prop} {f g : α → Visit β} (h : C.Agree v w P)
    (hf : ∀ a, P a → C.Agree (f a) (g a) Q) : C.Agree (v >>= f) (w >>= g) Q := by
  intro env henv
  refine ⟨C.bind h.holds (fun a ha => (hf a ha).holds) env henv, ?_⟩
  obtain ⟨⟨hinv, -, hresult⟩, hrun⟩ := h env henv
  rw [run_bind, run_bind, hrun]
  split at hresult
  · rename_i a ha
    exact (hf a hresult _ hinv).2
  · rfl

theorem Agree.andNothing {types : TypeInst → Prop} (h : C.Agree v w P) :
    C.Agree (Visit.andNothing v) (Visit.andNothing w) fun t => ∀ t' ∈ t, types t' :=
  h.bind fun _ _ => (C.pure nofun).agree

/-- A step to another state, and what is done from there. -/
theorem AgreeFrom.after {env env' : Env} {v' w' : Visit α} (hallows : C.Allows env env')
    (h : C.AgreeFrom env' v w P) (hv : v'.run env = v.run env') (hw : w'.run env = w.run env') :
    C.AgreeFrom env v' w' P := by
  obtain ⟨⟨hinv, hrel, hresult⟩, hrun⟩ := h
  rw [AgreeFrom, HoldsFrom, hv, hw]
  exact ⟨⟨hinv, C.trans hallows.2 hrel, hresult⟩, hrun⟩

end Contract

/-- What a contract asks of the single steps of the visits to nodes that are `ok`, if the types that
occur are among `types`, and the visits to the bodies of functions meet the contract `inside`. -/
structure StepsAround (inside C : Contract) (ok : Node → Prop) (types : TypeInst → Prop) :
    Prop where
  children : ∀ t, types t → ∀ c ∈ t.shape.children, types c
  literal : ∀ name ∈ ["String", "Number", "void"], types (.literal name)
  /-- What names stand for. -/
  lookup : ∀ env n name, C.inv env → ok n → n.ownName? = some name →
    ∀ b ∈ env.lookup name, types b.type
  /-- The function whose body is looked at. -/
  function : ∀ env, C.inv env → ∀ f ∈ env.currentFunction?, types f.role.type
  compare : ∀ t u f, types t → types u → t.compare u = .fault f → C.fault f
  report : ∀ n kind, ok n → (∀ file reason, kind ≠ .headerLoadFailed file reason) →
    C.Keeps (·.report ⟨kind, n.loc⟩)
  skipFunction : ∀ line, C.Keeps (·.note (.skippedFunction line))
  skipNode : ∀ line, C.Keeps (·.note (.skippedNode line))
  /-- A name is bound only where it does not stand for something in the header. -/
  bind : ∀ env n name t, C.inv env → ok n → n.ownName? = some name → types t →
    (∀ declared, env.lookup name ≠ some ⟨declared, .header⟩) →
    C.Allows env (env.bind name t .localVariable)
  foundReturn : ∀ n argument, ok n → n.kind = .returnStatement argument →
    C.Keeps (·.modifyFunction fun f => { f with foundReturn := true })
  assigned : ∀ n operator left right object field, ok n →
    n.kind = .assignmentExpression operator left right → left.member? = some (object, field) →
    object.isThis = true →
    C.Keeps (·.modifyFunction fun f => { f with assigned := f.assigned ++ [field] })
  setExports : ∀ n body, ok n → n.kind = .program body → C.Keeps (·.setExports body)
  loadHeader : ∀ env n body, C.inv env → ok n → n.kind = .program body → env.fatal = false →
    C.Allows env env.loadHeader
  enterFunction : ∀ env n name params type args receiver result, C.inv env → ok n →
    n.ownName? = some name → (∀ p ∈ params, ok p) → types type →
    type.shape = .function args receiver result →
    (isConstructorName name = true → result.isNonEmptyObject = true) →
    inside.inv (env.enterFunction name params type)
  exitFunction : ∀ env env' name params type, C.inv env → inside.inv env' →
    inside.rel (env.enterFunction name params type) env' → C.Allows env env'.exitFunction.2
  fault : ∀ f, inside.fault f → C.fault f := by exact fun _ h => h

/-- What a contract asks of the single steps, if it is also the one inside functions. -/
abbrev Steps (C : Contract) : (Node → Prop) → (TypeInst → Prop) → Prop := StepsAround C C

/-! ### From the steps to the visit -/

namespace StepsAround

variable {inside C : Contract} {ok : Node → Prop} {types : TypeInst → Prop} {v w : Visit α}
  {n m : Node}

theorem andNothing (hv : C.Does v) {P : TypeInst → Prop} :
    C.Holds (Visit.andNothing v) fun t => ∀ t' ∈ t, P t' :=
  C.bind hv fun _ _ => C.pure nofun

variable (h : StepsAround inside C ok types)
include h

theorem reportAt (hn : ok n) {kind : DiagnosticKind}
    (hkind : ∀ file reason, kind ≠ .headerLoadFailed file reason) :
    C.Does (Visit.report kind n.loc) :=
  C.modify (h.report n kind hn hkind)

theorem expect (hn : ok n) {declared inferred : TypeInst} (hdeclared : types declared)
    (hinferred : types inferred) : C.Does (Visit.expect n.loc declared inferred) := by
  unfold Visit.expect
  split
  · exact C.pure trivial
  · exact h.reportAt hn nofun
  · rename_i f hf
    exact C.throw (h.compare declared inferred f hdeclared hinferred hf)

theorem declare (hn : ok n) (hm : ok m) {name : String} (hname : m.ownName? = some name)
    {inferred : TypeInst} (hinferred : types inferred) :
    C.Does (Visit.declare n.loc name inferred) := by
  refine C.ask fun env henv => ?_
  split
  · rename_i declared hdeclared
    exact h.expect hn (h.lookup env m name henv hm hname _ hdeclared) hinferred env henv
  · rename_i hfree
    obtain ⟨hinv, hrel⟩ := h.bind env m name inferred henv hm hname hinferred hfree
    exact ⟨hinv, hrel, trivial⟩

theorem inScope {name : String} {params : List Node} {type : TypeInst} {body body' : Typed}
    {args : List TypeInst} {receiver : Option TypeInst} {result : TypeInst} (hn : ok n)
    (hname : n.ownName? = some name) (hparams : ∀ p ∈ params, ok p) (htype : types type)
    (hshape : type.shape = .function args receiver result)
    (hobject : isConstructorName name = true → result.isNonEmptyObject = true)
    (hbody : inside.Same body body') :
    C.Same (Visit.inScope name params type body) (Visit.inScope name params type body') := by
  intro env henv
  have henter := h.enterFunction env n name params type args receiver result henv hn hname hparams
    htype hshape hobject
  obtain ⟨⟨hinv, hrel, hfault⟩, hrun⟩ := hbody _ henter
  obtain ⟨hinv', hrel'⟩ := h.exitFunction env _ name params type henv hinv hrel
  rw [Contract.AgreeFrom, Contract.HoldsFrom, run_inScope, run_inScope, hrun]
  refine ⟨⟨hinv', hrel', ?_⟩, rfl⟩
  dsimp only
  revert hfault
  cases (body'.run (env.enterFunction name params type)).1 with
  | ok _ => exact fun _ => trivial
  | error f => exact h.fault f

theorem checkParams (hn : ok n) (name : String) (expected actual : Nat) :
    C.Does (Visit.checkParams n.loc name expected actual) := by
  unfold Visit.checkParams
  split_ifs
  · exact h.reportAt hn nofun
  · exact h.reportAt hn nofun
  · exact C.pure trivial

theorem checkArguments (hn : ok n) (name : String) (expected actual : Nat) :
    C.Does (Visit.checkArguments n.loc name expected actual) := by
  unfold Visit.checkArguments
  split_ifs
  · exact h.reportAt hn nofun
  · exact h.reportAt hn nofun
  · exact C.pure trivial

theorem checkBody (hn : ok n) (f : FunctionState) : C.Does (Visit.checkBody n.loc f) := by
  unfold Visit.checkBody
  split
  · split
    · exact h.reportAt hn nofun
    · exact C.pure trivial
  · split
    · exact h.reportAt hn nofun
    · exact C.pure trivial

theorem inFunction {name : String} {params : List Node} {type : TypeInst} {body body' : Typed}
    {args : List TypeInst} {receiver : Option TypeInst} {result : TypeInst} (hn : ok n) (hm : ok m)
    (hname : m.ownName? = some name) (hparams : ∀ p ∈ params, ok p) (htype : types type)
    (hshape : type.shape = .function args receiver result)
    (hobject : isConstructorName name = true → result.isNonEmptyObject = true)
    (hbody : inside.Same body body') :
    C.Same (Visit.inFunction n.loc name params type body)
      (Visit.inFunction n.loc name params type body') := by
  rw [inFunction_eq, inFunction_eq]
  refine (h.inScope hm hname hparams htype hshape hobject hbody).bind fun f _ => ?_
  cases f with
  | none => exact (C.pure trivial).agree
  | some f => exact (h.checkBody hn f).agree

theorem functionNode {name : String} {params : List Node} {body body' : Typed} (hn : ok n)
    (hm : ok m) (hname : m.ownName? = some name) (hparams : ∀ p ∈ params, ok p)
    (hbody : inside.Same body body') :
    C.Agree (Visit.function n.loc name params body) (Visit.function n.loc name params body')
      fun t => ∀ t' ∈ t, types t' := by
  have hlookup := C.get fun env henv => h.lookup env m name henv hm hname
  have huntyped : C.Does (Visit.report (.untypedFunctionFound name) n.loc) :=
    h.reportAt hn (by nofun)
  refine hlookup.agree.bind fun env hlookup => ?_
  split
  · rename_i type origin hbound
    have htype : types type := hlookup _ hbound
    have hgives : ∀ t ∈ some type, types t := by
      rintro t ⟨⟩
      exact htype
    split
    · rename_i args receiver result hshape
      refine (h.checkParams hn _ _ _).agree.bind fun _ _ => ?_
      split
      · refine (h.reportAt hn (by nofun)).agree.bind fun _ _ => ?_
        exact (C.pure hgives).agree
      · rename_i hobject
        have hobject' : isConstructorName name = true → result.isNonEmptyObject = true := by
          intro hconstructor
          simpa [hconstructor] using hobject
        refine (h.inFunction hn hm hname hparams htype hshape hobject' hbody).bind fun _ _ => ?_
        exact (C.pure hgives).agree
    · exact (andNothing huntyped).agree
  · exact (andNothing huntyped).agree

theorem checkReturn (hn : ok n) {argument : Option Node}
    (hkind : n.kind = .returnStatement argument) (hasArgument : Bool) {actual : Option TypeInst}
    (hactual : ∀ t ∈ actual, types t) :
    C.Does (Visit.checkReturn n.loc hasArgument actual) := by
  unfold Visit.checkReturn
  refine C.bind (C.get h.function) fun env hfunction => ?_
  split
  · exact C.pure trivial
  · rename_i f hf
    have hrole := hfunction f hf
    refine C.bind (C.modify (h.foundReturn n argument hn hkind)) fun _ _ => ?_
    split
    · exact h.reportAt hn (by nofun)
    · rename_i result hresult
      rw [hresult] at hrole
      split_ifs
      · exact h.reportAt hn (by nofun)
      · exact C.pure trivial
      · split
        · exact h.expect hn hrole (hactual _ rfl)
        · exact C.pure trivial
      · exact h.expect hn hrole (h.literal "void" (by simp))

theorem assignField (hn : ok n) {operator : String} {left right object : Node} {field : String}
    (hkind : n.kind = .assignmentExpression operator left right)
    (hleft : left.member? = some (object, field)) (hthis : object.isThis = true) :
    C.Does (Visit.assignField field) := by
  unfold Visit.assignField
  refine C.bind (C.get h.function) fun env _ => ?_
  split
  · split
    · exact C.modify (h.assigned n operator left right object field hn hkind hleft hthis)
    · exact C.pure trivial
  · exact C.pure trivial

theorem member (hn : ok n) (field : String) {object : TypeInst} (hobject : types object) :
    C.Holds (Visit.member n.loc field object) fun t => ∀ t' ∈ t, types t' := by
  unfold Visit.member
  split
  · exact andNothing (h.reportAt hn (by nofun))
  · rename_i id fields hshape
    split
    · rename_i f hf
      refine C.pure ?_
      rintro t ⟨⟩
      exact h.children object hobject f.type (Ty.type_mem_children hf)
    · exact andNothing (h.reportAt hn (by nofun))
  · exact C.pure nofun

theorem function_types {type : TypeInst} {args : List TypeInst} {receiver : Option TypeInst}
    {result : TypeInst} (htype : types type)
    (hshape : type.shape = .function args receiver result) :
    (∀ t ∈ args, types t) ∧ types result := by
  have hchildren := h.children type htype
  rw [hshape] at hchildren
  exact ⟨fun t ht => hchildren t (by simp [Shape.children, ht]),
    hchildren result (by simp [Shape.children])⟩

section calls

variable {arguments arguments' : List TypeInst → Visit Unit}
  (harguments : ∀ declared, (∀ t ∈ declared, types t) →
    C.Same (arguments declared) (arguments' declared))
include harguments

theorem call {callee : Option TypeInst} (hcallee : ∀ t ∈ callee, types t) :
    C.Agree (Visit.call callee arguments) (Visit.call callee arguments')
      fun t => ∀ t' ∈ t, types t' := by
  unfold Visit.call
  split
  · obtain ⟨hargs, hresult⟩ := h.function_types (hcallee _ rfl) rfl
    refine (harguments _ hargs).bind fun _ _ => (C.pure ?_).agree
    rintro t ⟨⟩
    exact hresult
  · exact (harguments [] nofun).andNothing

theorem construct (hn : ok n) (name : String) (count : Nat) {callee : Option TypeInst}
    (hcallee : ∀ t ∈ callee, types t) :
    C.Agree (Visit.construct n.loc name count callee arguments)
      (Visit.construct n.loc name count callee arguments') fun t => ∀ t' ∈ t, types t' := by
  unfold Visit.construct
  split
  · exact (harguments [] nofun).andNothing
  · rename_i type
    split
    · rename_i args receiver result hshape
      obtain ⟨hargs, hresult⟩ := h.function_types (hcallee _ rfl) hshape
      split_ifs
      · exact (andNothing (h.reportAt hn (by nofun))).agree
      · exact (andNothing (h.reportAt hn (by nofun))).agree
      · refine (h.checkArguments hn _ _ _).agree.bind fun _ _ => ?_
        refine (harguments _ hargs).bind fun _ _ => (C.pure ?_).agree
        rintro t ⟨⟩
        exact hresult
    · exact (C.pure nofun).agree

end calls

/-! ### Walks -/

variable {around : Typed → Typed}

omit h in
theorem walkAll {P : Option TypeInst → Prop} {ns : List Node}
    (hns : ∀ n ∈ ns, C.Agree (Visit.walk around n) (Visit.visit n) P) :
    C.Same (Visit.walkAll around ns) (Visit.walkAll Visit.unlessFatal ns) := by
  induction ns with
  | nil => exact (C.pure trivial).agree
  | cons n ns ih =>
    obtain ⟨hn, hns⟩ := List.forall_mem_cons.1 hns
    exact hn.bind fun _ _ => ih hns

omit h in
theorem walkOption {P : Option TypeInst → Prop} {o : Option Node}
    (ho : ∀ n ∈ o, C.Agree (Visit.walk around n) (Visit.visit n) P) :
    C.Same (Visit.walkOption around o) (Visit.walkOption Visit.unlessFatal o) := by
  cases o with
  | none => exact (C.pure trivial).agree
  | some n => exact (ho n rfl).bind fun _ _ => (C.pure trivial).agree

theorem walkArguments {ns : List Node} (hns : ∀ n ∈ ns, ok n ∧ C.Walks around types n) :
    ∀ declared, (∀ t ∈ declared, types t) → C.Same (Visit.walkArguments around declared ns)
      (Visit.walkArguments Visit.unlessFatal declared ns) := by
  induction ns with
  | nil => exact fun _ _ => (C.pure trivial).agree
  | cons n ns ih =>
    intro declared hdeclared
    obtain ⟨⟨hok, hn⟩, hns⟩ := List.forall_mem_cons.1 hns
    have hrest := ih hns declared.tail fun t ht => hdeclared t (List.mem_of_mem_tail ht)
    refine hn.bind fun actual hactual => ?_
    split
    · rename_i expected inferred hexpected
      refine (h.expect hok ?_ (hactual _ rfl)).agree.bind fun _ _ => hrest
      exact hdeclared expected (List.mem_of_mem_head? hexpected)
    · exact hrest

theorem assignment {left right : Node} (hn : ok n) (hleft : C.Walks around types left)
    (hright : C.Walks around types right) : C.Agree (do
      let expected ← Visit.walk around left
      let actual ← Visit.walk around right
      match expected, actual with
      | some expected, some actual => Visit.expect n.loc expected actual
      | _, _ => Pure.pure ()
      return actual) (do
      let expected ← Visit.visit left
      let actual ← Visit.visit right
      match expected, actual with
      | some expected, some actual => Visit.expect n.loc expected actual
      | _, _ => Pure.pure ()
      return actual) fun t => ∀ t' ∈ t, types t' := by
  refine hleft.bind fun expected hexpected => hright.bind fun actual hactual => ?_
  refine Contract.Holds.agree ?_
  dsimp only
  split
  · rename_i expected actual
    refine C.bind (h.expect hn (hexpected _ rfl) (hactual _ rfl)) fun _ _ => ?_
    exact C.pure hactual
  · exact C.pure hactual

section guarded

variable {safe : Env → Prop} (hsafe : ∀ env, C.inv env → safe env) {otherwise v w : Typed}
  {P : Option TypeInst → Prop}
include hsafe

omit h in
theorem guardedFrom {env : Env} (henv : C.inv env) (hP : P none)
    (hv : env.fatal = false → C.AgreeFrom env v w P) :
    C.AgreeFrom env (Visit.guarded safe otherwise v) (Visit.unlessFatal w) P := by
  have hguarded : (Visit.guarded safe otherwise v).run env = (Visit.unlessFatal v).run env := by
    unfold Visit.guarded
    rw [run_bind]
    exact congrArg (fun u : Typed => u.run env) (if_pos (hsafe env henv))
  rw [Contract.AgreeFrom, Contract.HoldsFrom, hguarded]
  cases hfatal : env.fatal with
  | true =>
    rw [run_unlessFatal_of_fatal hfatal v, run_unlessFatal_of_fatal hfatal w]
    exact ⟨⟨henv, C.refl env, hP⟩, rfl⟩
  | false =>
    rw [run_unlessFatal hfatal v, run_unlessFatal hfatal w]
    exact hv hfatal

omit h in
theorem guarded (hP : P none) (hv : C.Agree v w P) :
    C.Agree (Visit.guarded safe otherwise v) (Visit.unlessFatal w) P :=
  fun env henv => guardedFrom hsafe henv hP fun _ => hv env henv

end guarded

theorem program {loc : Location} {body : List Node} {safe : Env → Prop} {otherwise : Typed}
    (hsafe : ∀ env, C.inv env → safe env) (hok : ok ⟨loc, .program body⟩)
    (hbody : ∀ c ∈ body, C.Walks (Visit.guarded safe otherwise) types c) :
    C.Walks (Visit.guarded safe otherwise) types ⟨loc, .program body⟩ := by
  intro env henv
  unfold Visit.visit Visit.walk
  refine guardedFrom hsafe henv nofun fun hfatal => ?_
  have hexports := h.setExports _ body hok rfl env henv
  have hload := h.loadHeader _ _ body hexports.1 hok rfl (by rw [Env.fatal_setExports, hfatal])
  have hrest : C.Agree
      (do
        if (← get).fatal then return none
        else Visit.andNothing (Visit.walkAll (Visit.guarded safe otherwise) body))
      (do
        if (← get).fatal then return none
        else Visit.andNothing (Visit.walkAll Visit.unlessFatal body))
      fun t => ∀ t' ∈ t, types t' := by
    refine (C.get h.function).agree.bind fun after _ => ?_
    split
    · exact (C.pure nofun).agree
    · exact (walkAll hbody).andNothing
  exact .after ⟨hload.1, C.trans hexports.2 hload.2⟩ (hrest _ hload.1) rfl rfl

/-- What holds of the walks through the smaller nodes of a node, and through the bodies of the node
and of the function expressions among these, holds of the walk through the node. -/
theorem walk_step {safe : Env → Prop} {otherwise : Typed} (hsafe : ∀ env, C.inv env → safe env)
    (hok : ok n) (hself : ∀ c ∈ n.outer, ok c)
    (hwalks : ∀ c ∈ n.outer, C.Walks (Visit.guarded safe otherwise) types c)
    (hfunctions : ∀ f, f = n ∨ f ∈ n.outer → ∀ params body, f.IsFunction params body →
      (∀ p ∈ params, ok p) ∧
        inside.Same (Visit.walk (Visit.guarded safe otherwise) body) (Visit.visit body)) :
    C.Walks (Visit.guarded safe otherwise) types n := by
  have hdoes : ∀ c ∈ n.outer,
      C.Same (Visit.walk (Visit.guarded safe otherwise) c) (Visit.visit c) :=
    fun c hc => (hwalks c hc).imp fun _ _ => trivial
  obtain ⟨loc, kind⟩ := n
  unfold Contract.Walks Visit.visit Visit.walk
  split <;>
    simp only [Node.outer, NodeKind.children, List.forall_mem_cons, List.forall_mem_append,
      List.not_mem_nil, false_implies, implies_true, Option.mem_toList, and_true]
      at hself hwalks hdoes
  next body =>
    have hprogram := h.program hsafe hok hwalks
    unfold Contract.Walks Visit.visit Visit.walk at hprogram
    exact hprogram
  all_goals refine guarded hsafe nofun ?_
  -- functions
  next name params body =>
    obtain ⟨hparams, hbody⟩ := hfunctions _ (.inl rfl) params body .declaration
    have hfunction := h.functionNode hok hok rfl hparams hbody
    exact hfunction.andNothing
  next name params body =>
    obtain ⟨hparams, hbody⟩ := hfunctions _ (.inl rfl) params body .expression
    have hfunction := h.functionNode hok hok rfl hparams hbody
    exact hfunction
  next params body => exact (C.modify (h.skipFunction _)).agree.andNothing
  -- statements
  next body => exact (walkAll hwalks).andNothing
  next expression => exact hdoes.andNothing
  next => exact (h.checkReturn hok rfl false (by nofun)).agree.andNothing
  next argument =>
    refine (hwalks argument rfl).bind fun actual hactual => ?_
    exact (h.checkReturn hok rfl true hactual).agree.andNothing
  next test consequent alternate =>
    obtain ⟨htest, hconsequent, halternate⟩ := hdoes
    refine htest.bind fun _ _ => hconsequent.bind fun _ _ => ?_
    exact (walkOption halternate).andNothing
  next init test update body =>
    obtain ⟨⟨⟨hinit, htest⟩, hupdate⟩, hbody⟩ := hdoes
    refine (walkOption hinit).bind fun _ _ => (walkOption htest).bind fun _ _ => ?_
    exact (walkOption hupdate).bind fun _ _ => hbody.andNothing
  next left right body =>
    obtain ⟨hleft, hright, hbody⟩ := hdoes
    exact hleft.bind fun _ _ => hright.bind fun _ _ => hbody.andNothing
  next left right body =>
    obtain ⟨hleft, hright, hbody⟩ := hdoes
    exact hleft.bind fun _ _ => hright.bind fun _ _ => hbody.andNothing
  next test body => exact hdoes.1.bind fun _ _ => hdoes.2.andNothing
  next body test => exact hdoes.1.bind fun _ _ => hdoes.2.andNothing
  next discriminant cases => exact hdoes.1.bind fun _ _ => (walkAll hdoes.2).andNothing
  next test consequent =>
    exact (walkOption hdoes.1).bind fun _ _ => (walkAll hdoes.2).andNothing
  next block handler finalizer =>
    obtain ⟨hblock, hhandler, hfinalizer⟩ := hdoes
    refine hblock.bind fun _ _ => (walkOption hhandler).bind fun _ _ => ?_
    exact (walkOption hfinalizer).andNothing
  next param body => exact hdoes.2.andNothing
  next body => exact hdoes.andNothing
  -- variables
  next declarations keyword => exact (walkAll hdoes).andNothing
  next id => exact (C.pure nofun).agree
  next idLoc name initLoc own params body =>
    obtain ⟨hparams, hbody⟩ := hfunctions ⟨initLoc, .functionExpression own params body⟩
      (.inr (by simp [Node.outer, NodeKind.children])) params body .expression
    have hfunction := h.functionNode (hself.2 _ rfl) hself.1 rfl hparams hbody
    exact hfunction.andNothing
  next id init _ =>
    refine (hwalks.2 init rfl).bind fun inferred hinferred => ?_
    split
    · rename_i name inferred hname
      have hdeclare := h.declare hok hself.1 (Node.ownName?_of_identifierName? hname)
        (hinferred inferred rfl)
      exact hdeclare.agree.andNothing
    · exact (C.pure nofun).agree
  next operator leftLoc name rightLoc params body =>
    obtain ⟨hparams, hbody⟩ := hfunctions ⟨rightLoc, .functionExpression none params body⟩
      (.inr (by simp [Node.outer, NodeKind.children])) params body .expression
    have hfunction := h.functionNode hself.2 hself.1 rfl hparams hbody
    exact hfunction
  next operator left right _ =>
    have hassignment := h.assignment hok hwalks.1 hwalks.2
    dsimp only
    split
    · rename_i object field hleft
      split
      · rename_i hthis
        exact (h.assignField hok rfl hleft hthis).agree.bind fun _ _ => hassignment
      · exact hassignment
    · exact hassignment
  -- expressions
  next object fieldLoc field =>
    refine hwalks.1.bind fun type htype => ?_
    split
    · have hmember := h.member hok field (htype _ rfl)
      exact hmember.agree
    · exact (C.pure nofun).agree
  next object property computed _ => exact hdoes.1.andNothing
  next callee arguments =>
    refine hwalks.1.bind fun type htype => h.call ?_ htype
    exact h.walkArguments fun c hc => ⟨hself.2 c hc, hwalks.2 c hc⟩
  next callee arguments =>
    have harguments := h.walkArguments fun c hc => ⟨hself.2 c hc, hwalks.2 c hc⟩
    refine hwalks.1.bind fun type htype => ?_
    have hconstruct := h.construct harguments hok (calleeName callee) arguments.length htype
    exact hconstruct
  next name =>
    have hlookup := C.get fun env henv => h.lookup env _ name henv hok rfl
    refine hlookup.agree.bind fun env hlookup => (C.pure ?_).agree
    intro t ht
    obtain ⟨b, hb, rfl⟩ := Option.map_eq_some_iff.1 ht
    exact hlookup b hb
  next =>
    refine (C.get h.function).agree.bind fun env hfunction => (C.pure ?_).agree
    intro t ht
    obtain ⟨f, hf, ht⟩ := Option.bind_eq_some_iff.1 ht
    exact FunctionState.type_of_receiver? ht ▸ hfunction f hf
  next raw =>
    refine (C.pure ?_).agree
    intro t ht
    obtain ⟨name, hname, rfl⟩ := Option.map_eq_some_iff.1 ht
    obtain ⟨text, -, hname⟩ := Option.bind_eq_some_iff.1 hname
    exact h.literal name (Literal.mem_of_typeName? hname)
  next => exact (C.modify (h.skipNode _)).agree.andNothing

/-- What holds of the single steps around the bodies of functions, and of these bodies, holds of the
whole walk. -/
theorem walk_around {safe : Env → Prop} (hsafe : ∀ env, C.inv env → safe env) (otherwise : Typed)
    {inner : Node → Prop} (hinner : ∀ body, inner body →
      inside.Same (Visit.walk (Visit.guarded safe otherwise) body) (Visit.visit body))
    (hn : n.AllOuter ok inner) : C.Walks (Visit.guarded safe otherwise) types n := by
  induction hn with
  | @intro n hok houter hbody ih =>
    refine h.walk_step hsafe hok (fun c hc => (houter c hc).self) ih ?_
    intro f hf params body hfunction
    have hparams : ∀ p ∈ params, p ∈ f.outer := by
      cases hfunction <;> exact fun p hp => hp
    rcases hf with rfl | hf
    · refine ⟨fun p hp => (houter p (hparams p hp)).self, hinner body (hbody params body hfunction)⟩
    · cases houter f hf with
      | intro _ houter' hbody' =>
        refine ⟨fun p hp => (houter' p (hparams p hp)).self, ?_⟩
        exact hinner body (hbody' params body hfunction)

end StepsAround

namespace Steps

variable {C : Contract} {ok : Node → Prop} {types : TypeInst → Prop} {n : Node}
  (h : Steps C ok types)
include h

theorem walk {safe : Env → Prop} (hsafe : ∀ env, C.inv env → safe env) (otherwise : Typed)
    (hn : n.All ok) : C.Walks (Visit.guarded safe otherwise) types n := by
  -- the bodies of functions are smaller nodes, so the walks through them are known by induction
  have hboth : n.AllOuter ok fun body =>
      C.Same (Visit.walk (Visit.guarded safe otherwise) body) (Visit.visit body) := by
    induction hn with
    | intro hok _ ih =>
      refine .intro hok (fun c hc => ih c (Node.mem_children_of_mem_outer hc)) ?_
      intro params body hfunction
      have hbody := h.walk_around hsafe otherwise (fun _ hsame => hsame)
        (ih body hfunction.body_mem)
      exact hbody.imp fun _ _ => trivial
  exact h.walk_around hsafe otherwise (fun _ hsame => hsame) hboth

/-- **What holds of the single steps holds of every visit.** -/
theorem visit (hn : n.All ok) : C.Visits types n :=
  (h.walk (fun _ henv => henv) (Pure.pure none) hn).holds

/-- **What the single steps keep holds throughout every visit.** -/
theorem throughout {safe : Env → Prop} (hsafe : ∀ env, C.inv env → safe env) (hn : n.All ok)
    {env : Env} (henv : C.inv env) : Throughout safe n env :=
  fun otherwise => (h.walk hsafe otherwise hn env henv).2

end Steps

end Visit

end SigCheck
