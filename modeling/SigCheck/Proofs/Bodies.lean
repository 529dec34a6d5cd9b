import SigCheck.Proofs.Frame
import SigCheck.Proofs.Sessions

/-!
# What is recorded of the body of a function

While the body of a function is visited, its scope records what the body does: that there is a
`return`, and which fields are assigned.  The record belongs to whichever function is current, and
functions inside the body have records of their own in between.

`Visit.Advances view v g` says what a step `v` does to the part of the record that `view` shows: it
takes `s` to `g s`, if it does not end in a fault.  Two facts give it for whole visits.  A node that
does not hold, outside the bodies of further functions, what the record is about leaves the record
alone (`Visit.advances_of_not_has`); this is a contract, with another one inside functions.  And a
statement does to the record what the statements in it do, one after the other
(`Visit.advances_statement`).

`Visit.exists_record` says when the record is read.
-/

namespace SigCheck

/-! ### Positions in a body -/

namespace NodeKind

variable {ν : Type}

/-- The smaller nodes in statement position, in the order of a visit. -/
def statements : NodeKind ν → List ν
  | blockStatement body => body
  | ifStatement _ consequent alternate => consequent :: alternate.toList
  | forStatement _ _ _ body | forInStatement _ _ body | forOfStatement _ _ body
  | whileStatement _ body | doWhileStatement body _ => [body]
  | switchStatement _ cases => cases
  | switchCase _ consequent => consequent
  | tryStatement block handler finalizer => block :: (handler.toList ++ finalizer.toList)
  | catchClause _ body | labeledStatement body => [body]
  | _ => []

/-- The other smaller nodes, without the body of a function. -/
def operands : NodeKind ν → List ν
  | functionDeclaration _ params _ | functionExpression _ params _ => params
  | blockStatement _ | tryStatement _ _ _ | labeledStatement _ => []
  | ifStatement test _ _ | whileStatement test _ | doWhileStatement _ test => [test]
  | forStatement init test update _ => init.toList ++ test.toList ++ update.toList
  | forInStatement left right _ | forOfStatement left right _ => [left, right]
  | switchStatement discriminant _ => [discriminant]
  | switchCase test _ => test.toList
  | catchClause param _ => param.toList
  | kind => kind.children

end NodeKind

namespace Node

variable {P Q : Node → Prop} {n c : Node}

theorem mem_outer : c ∈ n.outer ↔ c ∈ n.kind.operands ∨ c ∈ n.kind.statements := by
  obtain ⟨loc, kind⟩ := n
  cases kind <;>
    simp [outer, NodeKind.children, NodeKind.operands, NodeKind.statements, or_comm,
      or_left_comm]

/-- The node is a node with the property `P`, or holds one outside the bodies of functions. -/
inductive Has (P : Node → Prop) : Node → Prop
  | here {n : Node} (h : P n) : Has P n
  | part {n c : Node} (hc : c ∈ n.outer) (h : Has P c) : Has P n

theorem not_has_of_outer (h : ¬P n) (houter : ∀ c ∈ n.outer, ¬c.Has P) : ¬n.Has P := by
  intro hhas
  cases hhas with
  | here hP => exact h hP
  | part hc hhas => exact houter _ hc hhas

theorem not_has_of_leaf (hleaf : n.outer = []) (h : ¬P n) : ¬n.Has P := by
  refine not_has_of_outer h fun c hc => ?_
  rw [hleaf] at hc
  cases hc

theorem allOuter_of_not_has (hall : n.All Q) (h : ¬n.Has P) :
    n.AllOuter (fun m => ¬P m ∧ Q m) (·.All Q) := by
  induction hall with
  | intro hQ hchildren ih =>
    refine .intro ⟨fun hP => h (.here hP), hQ⟩ ?_ ?_
    · exact fun c hc => ih c (mem_children_of_mem_outer hc) fun hhas => h (.part hc hhas)
    · exact fun params body hfunction => hchildren body hfunction.body_mem

/-- The node defines a function that stands at `loc` and has the given name, parameters and body. -/
inductive Defines : Node → Location → String → List Node → Node → Prop
  | declaration {loc : Location} {name : String} {params : List Node} {body : Node} :
      Defines ⟨loc, .functionDeclaration name params body⟩ loc name params body
  | expression {loc : Location} {name : String} {params : List Node} {body : Node} :
      Defines ⟨loc, .functionExpression (some name) params body⟩ loc name params body
  /-- A variable with a function as its value, also one that has a name of its own. -/
  | declarator {loc idLoc initLoc : Location} {name : String} {own : Option String}
      {params : List Node} {body : Node} :
      Defines ⟨loc, .variableDeclarator ⟨idLoc, .identifier name⟩
        (some ⟨initLoc, .functionExpression own params body⟩)⟩ initLoc name params body
  /-- A function without a name that is assigned to a variable. -/
  | assignment {loc leftLoc rightLoc : Location} {operator name : String} {params : List Node}
      {body : Node} :
      Defines ⟨loc, .assignmentExpression operator ⟨leftLoc, .identifier name⟩
        ⟨rightLoc, .functionExpression none params body⟩⟩ rightLoc name params body

/-- The node is no program. -/
abbrev NoProgram (n : Node) : Prop := ∀ body, n.kind ≠ .program body

end Node

/-! ### The record -/

namespace Env

variable (env : Env)

theorem currentScope?_modifyScope (f : Scope → Scope) :
    (env.modifyScope f).currentScope? = env.currentScope?.map f :=
  List.getElem?_modify_eq ..

theorem currentFunction?_modifyFunction (g : FunctionState → FunctionState) :
    (env.modifyFunction g).currentFunction? = env.currentFunction?.map g := by
  rw [currentFunction?, modifyFunction, currentScope?_modifyScope, currentFunction?]
  cases env.currentScope? with
  | none => rfl
  | some s =>
    obtain ⟨kind, bindings, parent⟩ := s
    cases kind <;> rfl

theorem currentFunction?_bind (name : String) (type : TypeInst) (origin : Origin) :
    (env.bind name type origin).currentFunction? = env.currentFunction? := by
  rw [currentFunction?, bind, currentScope?_modifyScope, currentFunction?]
  cases env.currentScope? <;> rfl

theorem kind_bindParams (params : List Node) (args : List TypeInst) (s : Scope) :
    (bindParams params args s).kind = s.kind := by
  induction params, args, s using bindParams.induct with
  | case1 param params arg args s ih =>
    rw [bindParams, ih]
    split <;> rfl
  | case2 params args s h =>
    rw [bindParams]
    exact h

theorem currentFunction?_enterFunction (name : String) (params : List Node) (type : TypeInst) :
    (env.enterFunction name params type).currentFunction? =
      some (.start name (signature type).2) := by
  unfold enterFunction currentFunction? currentScope?
  rw [List.getElem?_concat_length, Option.bind_some, Scope.function?, kind_bindParams]

theorem currentFunction?_of_exitFunction {f : FunctionState} (h : env.exitFunction.1 = some f) :
    env.currentFunction? = some f := by
  unfold exitFunction at h
  split at h
  · split at h
    · rename_i hscope
      rw [currentFunction?, hscope, ← h]
      rfl
    · cases h
  · cases h

theorem errors_exitFunction : env.exitFunction.2.errors = env.errors := by
  obtain ⟨scopes, current, events, heq⟩ := env.exitFunction_eq
  rw [heq]

theorem fatal_exitFunction : env.exitFunction.2.fatal = env.fatal := by
  obtain ⟨scopes, current, events, heq⟩ := env.exitFunction_eq
  rw [heq]

theorem signature_of_function {type : TypeInst} {args : List TypeInst}
    {receiver : Option TypeInst} {result : TypeInst}
    (h : type.shape = .function args receiver result) : signature type = (args, result) := by
  unfold signature
  rw [h]

/-- The state in which the body of a function is visited: the number of its parameters is checked,
and its scope is entered. -/
def inBody (loc : Location) (name : String) (params : List Node) (type : TypeInst) : Env :=
  ((Visit.checkParams loc name (signature type).1.length params.length).run env).2.enterFunction
    name params type

end Env

/-! ### Nodes that leave the record alone -/

namespace Visit

variable {α β σ : Type}

/-- A visit is framed, and does not make the check fatal. -/
def steady : Contract where
  inv _ := True
  rel env env' := env.Framed env' ∧ env'.fatal = env.fatal
  fault _ := True
  refl env := ⟨.refl env, rfl⟩
  trans hab hbc := ⟨hab.1.trans hbc.1, hbc.2.trans hab.2⟩

theorem steady_steps : Steps steady Node.NoProgram fun _ => True where
  children _ _ _ _ := trivial
  literal _ _ := trivial
  lookup _ _ _ _ _ _ _ _ := trivial
  function _ _ _ _ := trivial
  compare _ _ _ _ _ _ := trivial
  report _ _ _ _ env _ := ⟨trivial, env.framed_report _, rfl⟩
  skipFunction _ env _ := ⟨trivial, env.framed_note nofun nofun, rfl⟩
  skipNode _ env _ := ⟨trivial, env.framed_note nofun nofun, rfl⟩
  bind env _ name t _ _ _ _ _ := ⟨trivial, env.framed_bind name t _, rfl⟩
  foundReturn _ _ _ _ env _ := ⟨trivial, env.framed_foundReturn, rfl⟩
  assigned _ _ _ _ _ field _ _ _ _ env _ := ⟨trivial, env.framed_assigned field, rfl⟩
  setExports _ body hn hkind := absurd hkind (hn body)
  loadHeader _ _ body _ hn hkind := absurd hkind (hn body)
  enterFunction _ _ _ _ _ _ _ _ _ _ _ _ _ _ _ := trivial
  exitFunction _ env' _ _ _ _ _ h :=
    ⟨trivial, h.1.of_exitFunction, env'.fatal_exitFunction.trans h.2⟩

/-- What `view` shows of the record stays the same, and the check does not become fatal. -/
def quiet (view : FunctionState → σ) : Contract where
  inv _ := True
  rel env env' :=
    env'.currentFunction?.map view = env.currentFunction?.map view ∧ env'.fatal = env.fatal
  fault _ := True
  refl _ := ⟨rfl, rfl⟩
  trans hab hbc := ⟨hbc.1.trans hab.1, hbc.2.trans hab.2⟩

/-- All nodes at which a visit changes what `view` shows have the property `P`. -/
structure Covers (P : Node → Prop) (view : FunctionState → σ) : Prop where
  foundReturn : ∀ n argument, n.kind = .returnStatement argument → ¬P n →
    ∀ f : FunctionState, view { f with foundReturn := true } = view f
  assigned : ∀ n operator left right object field,
    n.kind = .assignmentExpression operator left right → left.member? = some (object, field) →
    object.isThis = true → ¬P n →
    ∀ f : FunctionState, view { f with assigned := f.assigned ++ [field] } = view f

variable {P : Node → Prop} {view : FunctionState → σ}

theorem quiet_modifyFunction {g : FunctionState → FunctionState}
    (h : ∀ f, view (g f) = view f) : (quiet view).Keeps (·.modifyFunction g) := by
  intro env _
  refine ⟨trivial, ?_, rfl⟩
  rw [env.currentFunction?_modifyFunction, Option.map_map]
  exact congrArg (env.currentFunction?.map ·) (funext h)

/-- A function inside the body has a record of its own, which is gone after it. -/
theorem quiet_steps (h : Covers P view) :
    StepsAround steady (quiet view) (fun n => ¬P n ∧ n.NoProgram) fun _ => True where
  children _ _ _ _ := trivial
  literal _ _ := trivial
  lookup _ _ _ _ _ _ _ _ := trivial
  function _ _ _ _ := trivial
  compare _ _ _ _ _ _ := trivial
  report _ _ _ _ _ _ := ⟨trivial, rfl, rfl⟩
  skipFunction _ _ _ := ⟨trivial, rfl, rfl⟩
  skipNode _ _ _ := ⟨trivial, rfl, rfl⟩
  bind env _ name t _ _ _ _ _ := by
    refine ⟨trivial, ?_, rfl⟩
    rw [env.currentFunction?_bind]
  foundReturn n argument hn hkind := quiet_modifyFunction (h.foundReturn n argument hkind hn.1)
  assigned n operator left right object field hn hkind hleft hthis :=
    quiet_modifyFunction (h.assigned n operator left right object field hkind hleft hthis hn.1)
  setExports _ body hn hkind := absurd hkind (hn.2 body)
  loadHeader _ _ body _ hn hkind := absurd hkind (hn.2 body)
  enterFunction _ _ _ _ _ _ _ _ _ _ _ _ _ _ _ := trivial
  exitFunction env env' name params type _ _ hinside := by
    -- only the scope of that function is taken off, so the record is current again
    obtain ⟨f, -, hexit⟩ := hinside.1.exitFunction
    rw [hexit]
    exact ⟨trivial, rfl, hinside.2⟩

theorem quiet_visit (h : Covers P view) {n : Node} (hprogram : n.All Node.NoProgram)
    (hn : ¬n.Has P) : (quiet view).Does (visit n) := by
  have hwalks : (quiet view).Walks (guarded (fun _ => True) (pure none)) (fun _ => True) n := by
    refine (quiet_steps h).walk_around (fun _ _ => trivial) _ (fun body hbody => ?_)
      (Node.allOuter_of_not_has hprogram hn)
    exact (steady_steps.walk (fun _ _ => trivial) _ hbody).imp fun _ _ => trivial
  exact (hwalks.imp fun _ _ => trivial).holds

/-! ### Steps that go on with the record -/

/-- From the state `env`, unless it is fatal, the step takes what `view` shows of the record from
`s` to `g s`, if it does not end in a fault. -/
def AdvancesFrom (env : Env) (view : FunctionState → σ) (v : Visit α) (g : σ → σ) : Prop :=
  ∀ f a, env.fatal = false → env.currentFunction? = some f → (v.run env).1 = .ok a →
    (v.run env).2.currentFunction?.map view = some (g (view f)) ∧ (v.run env).2.fatal = false

/-- The step takes what `view` shows of the record from `s` to `g s`. -/
def Advances (view : FunctionState → σ) (v : Visit α) (g : σ → σ) : Prop :=
  ∀ env, AdvancesFrom env view v g

section advances

variable {v : Visit α} {w : α → Visit β} {g g' : σ → σ}

theorem Advances.congr (h : Advances view v g) (hg : ∀ s, g s = g' s) : Advances view v g' :=
  funext hg ▸ h

theorem advances_pure (a : α) : Advances view (pure a : Visit α) id := by
  intro env f a hfatal hf _
  exact ⟨congrArg (Option.map view) hf, hfatal⟩

theorem advances_throw (e : Fault) : Advances view (throw e : Visit α) id := by
  intro env f a hfatal hf hrun
  cases hrun

theorem advances_report (kind : DiagnosticKind) (loc : Location) :
    Advances view (report kind loc) id := by
  intro env f a hfatal hf _
  exact ⟨congrArg (Option.map view) hf, hfatal⟩

theorem advances_modifyFunction {g' : FunctionState → FunctionState}
    (h : ∀ f, view (g' f) = g (view f)) : Advances view (modify (·.modifyFunction g')) g := by
  intro env f a hfatal hf _
  refine ⟨?_, hfatal⟩
  change (env.modifyFunction g').currentFunction?.map view = _
  rw [env.currentFunction?_modifyFunction, hf]
  exact congrArg some (h f)

theorem Advances.bind (hv : Advances view v g) (hw : ∀ a, Advances view (w a) g') :
    Advances view (v >>= w) (g' ∘ g) := by
  intro env f b hfatal hf
  rw [run_bind]
  split
  · rename_i a ha
    intro hrun
    obtain ⟨hview, hfatal'⟩ := hv env f a hfatal hf ha
    obtain ⟨f', hf', hview'⟩ := Option.map_eq_some_iff.1 hview
    rw [Function.comp_apply, ← hview']
    exact hw a _ f' b hfatal' hf' hrun
  · exact nofun

theorem Advances.after (hv : Advances view v id) (hw : ∀ a, Advances view (w a) g) :
    Advances view (v >>= w) g := hv.bind hw

theorem Advances.andThen (hv : Advances view v g) (hw : ∀ a, Advances view (w a) id) :
    Advances view (v >>= w) g := hv.bind hw

theorem Advances.andNothing (h : Advances view v g) : Advances view (Visit.andNothing v) g :=
  h.andThen fun _ => advances_pure none

/-- A step that looks at the state may rely on what it sees. -/
theorem advances_ask {w : Env → Visit α} (h : ∀ env, AdvancesFrom env view (w env) g) :
    Advances view (get >>= w) g := h

theorem Advances.unlessFatal {v : Typed} (h : Advances view v g) :
    Advances view (Visit.unlessFatal v) g := by
  intro env f a hfatal
  rw [run_unlessFatal hfatal]
  exact h env f a hfatal

theorem advances_expect (loc : Location) (declared inferred : TypeInst) :
    Advances view (expect loc declared inferred) id := by
  unfold expect
  split
  · exact advances_pure ()
  · exact advances_report _ _
  · exact advances_throw _

/-- A node without what the record is about leaves the record alone. -/
theorem advances_of_not_has (h : Covers P view) {n : Node} (hprogram : n.All Node.NoProgram)
    (hn : ¬n.Has P) : Advances view (visit n) id := by
  intro env f a hfatal hf _
  obtain ⟨-, ⟨hview, hfatal'⟩, -⟩ := quiet_visit h hprogram hn env trivial
  exact ⟨hview.trans (congrArg (Option.map view) hf), hfatal'.trans hfatal⟩

/-! ### Statements -/

variable {step : Node → σ → σ}

theorem advances_walkAll {ns : List Node} (h : ∀ n ∈ ns, Advances view (visit n) (step n)) :
    Advances view (walkAll unlessFatal ns) fun s => ns.foldl (fun s n => step n s) s := by
  induction ns with
  | nil => exact advances_pure ()
  | cons n ns ih =>
    obtain ⟨hn, hns⟩ := List.forall_mem_cons.1 h
    exact hn.bind fun _ => ih hns

theorem advances_walkOption {o : Option Node} (h : ∀ n ∈ o, Advances view (visit n) (step n)) :
    Advances view (walkOption unlessFatal o) fun s => o.toList.foldl (fun s n => step n s) s := by
  cases o with
  | none => exact advances_pure ()
  | some n => exact (h n rfl).andThen fun _ => advances_pure ()

theorem advances_walkOption_id {o : Option Node} (h : ∀ n ∈ o, Advances view (visit n) id) :
    Advances view (walkOption unlessFatal o) id := by
  cases o with
  | none => exact advances_pure ()
  | some n => exact (h n rfl).andThen fun _ => advances_pure ()

/-- **A statement does to the record what the statements in it do**, in the order of a visit, if its
other parts leave the record alone. -/
theorem advances_statement {n : Node} (hne : n.kind.statements ≠ [])
    (hoperands : ∀ c ∈ n.kind.operands, Advances view (visit c) id)
    (hstatements : ∀ c ∈ n.kind.statements, Advances view (visit c) (step c)) :
    Advances view (visit n) fun s => n.kind.statements.foldl (fun s c => step c s) s := by
  obtain ⟨loc, kind⟩ := n
  unfold visit walk
  refine Advances.unlessFatal ?_
  cases kind with
  | blockStatement body => exact (advances_walkAll hstatements).andNothing
  | ifStatement test consequent alternate =>
    have htest := hoperands test (List.mem_singleton_self test)
    obtain ⟨hconsequent, halternate⟩ := List.forall_mem_cons.1 hstatements
    have hrest := (advances_walkOption fun c hc => halternate c (Option.mem_toList.2 hc)).andNothing
    have h := hconsequent.bind fun _ => hrest
    exact htest.after fun _ => h
  | forStatement init test update body =>
    simp only [NodeKind.operands, List.forall_mem_append, Option.mem_toList] at hoperands
    obtain ⟨⟨hinit, htest⟩, hupdate⟩ := hoperands
    have hbody := hstatements body (List.mem_singleton_self body)
    refine (advances_walkOption_id hinit).after fun _ => ?_
    refine (advances_walkOption_id htest).after fun _ => ?_
    exact (advances_walkOption_id hupdate).after fun _ => hbody.andNothing
  | forInStatement left right body | forOfStatement left right body =>
    obtain ⟨hleft, hright⟩ := List.forall_mem_cons.1 hoperands
    have hbody := hstatements body (List.mem_singleton_self body)
    refine hleft.after fun _ => ?_
    exact (hright right (List.mem_singleton_self right)).after fun _ => hbody.andNothing
  | whileStatement test body =>
    have htest := hoperands test (List.mem_singleton_self test)
    have hbody := hstatements body (List.mem_singleton_self body)
    exact htest.after fun _ => hbody.andNothing
  | doWhileStatement body test =>
    have htest := hoperands test (List.mem_singleton_self test)
    have hbody := hstatements body (List.mem_singleton_self body)
    exact hbody.andThen fun _ => htest.andNothing
  | switchStatement discriminant cases =>
    have hdiscriminant := hoperands discriminant (List.mem_singleton_self discriminant)
    exact hdiscriminant.after fun _ => (advances_walkAll hstatements).andNothing
  | switchCase test consequent =>
    have htest := advances_walkOption_id fun c hc => hoperands c (Option.mem_toList.2 hc)
    exact htest.after fun _ => (advances_walkAll hstatements).andNothing
  | tryStatement block handler finalizer =>
    simp only [NodeKind.statements, List.forall_mem_cons, List.forall_mem_append,
      Option.mem_toList] at hstatements
    obtain ⟨hblock, hhandler, hfinalizer⟩ := hstatements
    have h := hblock.bind fun _ => (advances_walkOption hhandler).bind fun _ =>
      (advances_walkOption hfinalizer).andNothing
    refine h.congr fun s => ?_
    exact (List.foldl_append ..).symm
  | catchClause param body | labeledStatement body =>
    exact (hstatements body (List.mem_singleton_self body)).andNothing
  | _ => exact absurd rfl hne

end advances

/-! ### Functions -/

variable {env : Env} {loc : Location} {name : String} {params : List Node} {type : TypeInst}
  {origin : Origin} {args : List TypeInst} {receiver : Option TypeInst} {result : TypeInst}

theorem snd_run_bind_pure (v : Visit α) (b : α → β) (env : Env) :
    ((v >>= fun a => pure (b a)).run env).2 = (v.run env).2 := by
  rw [run_bind]
  cases (v.run env).1 <;> rfl

/-- A node that defines a function is visited as this function. -/
theorem visit_of_defines {n body : Node} (h : n.Defines loc name params body)
    (hfatal : env.fatal = false) :
    (env.visit n).2 = ((function loc name params (visit body)).run env).2 := by
  unfold Env.visit
  cases h with
  | declaration | declarator =>
    refine (congrArg Prod.snd (run_unlessFatal hfatal _)).trans ?_
    exact snd_run_bind_pure ..
  | expression | assignment => exact congrArg Prod.snd (run_unlessFatal hfatal _)

theorem run_checkParams (env : Env) (loc : Location) (name : String) (expected actual : Nat) :
    ∃ errors, (checkParams loc name expected actual).run env = (.ok (), { env with errors }) := by
  unfold checkParams
  split_ifs
  · exact ⟨_, rfl⟩
  · exact ⟨_, rfl⟩
  · exact ⟨env.errors, rfl⟩

theorem fatal_inBody : (env.inBody loc name params type).fatal = env.fatal := by
  obtain ⟨errors, hparams⟩ :=
    run_checkParams env loc name (Env.signature type).1.length params.length
  rw [Env.inBody, hparams]
  rfl

/-- A function with a declared type is looked at after its parameters are counted. -/
theorem run_function {body : Typed} (hlookup : env.lookup name = some ⟨type, origin⟩)
    (hshape : type.shape = .function args receiver result)
    (hobject : isConstructorName name = true → result.isNonEmptyObject = true) :
    ((function loc name params body).run env).2 = ((inFunction loc name params type body).run
      ((checkParams loc name (Env.signature type).1.length params.length).run env).2).2 := by
  have hnot : ¬(isConstructorName name && !result.isNonEmptyObject) = true := by
    simpa using hobject
  have hget : (get : Visit Env).run env = (.ok env, env) := rfl
  obtain ⟨errors, hparams⟩ := run_checkParams env loc name args.length params.length
  unfold function
  rw [run_bind, hget]
  dsimp only
  rw [hlookup]
  dsimp only
  rw [hshape]
  dsimp only
  rw [if_neg hnot, run_bind, Env.signature_of_function hshape, hparams]
  exact snd_run_bind_pure ..

/-- Behind the body of a function its record is checked. -/
theorem run_inFunction {body : Typed} {t : Option TypeInst} (loc : Location)
    (hframed : (env.enterFunction name params type).Framed
      (body.run (env.enterFunction name params type)).2)
    (hok : (body.run (env.enterFunction name params type)).1 = .ok t) :
    ∃ f, (body.run (env.enterFunction name params type)).2.currentFunction? = some f ∧
      f.name = name ∧ f.role = (FunctionState.start name (Env.signature type).2).role ∧
      (inFunction loc name params type body).run env = (checkBody loc f).run
        (body.run (env.enterFunction name params type)).2.exitFunction.2 := by
  obtain ⟨f, hf, hexit⟩ := hframed.exitFunction
  have hfunction := Env.currentFunction?_of_exitFunction _ (congrArg Prod.fst hexit)
  refine ⟨f, hfunction, hf.name, hf.role, ?_⟩
  rw [inFunction_eq, run_bind, run_inScope]
  dsimp only
  rw [hok, hexit]
  rfl

/-- **What is left of a function is the check of its record**, as the visit to its body leaves
it. -/
theorem exists_record {n body : Node} {t : Option TypeInst} (hfatal : env.fatal = false)
    (hdefines : n.Defines loc name params body)
    (hlookup : env.lookup name = some ⟨type, origin⟩)
    (hshape : type.shape = .function args receiver result)
    (hobject : isConstructorName name = true → result.isNonEmptyObject = true)
    (hok : ((env.inBody loc name params type).visit body).1 = .ok t) :
    ∃ f, ((env.inBody loc name params type).visit body).2.currentFunction? = some f ∧
      f.name = name ∧ f.role = (FunctionState.start name result).role ∧
      (env.visit n).2 = ((checkBody loc f).run
        ((env.inBody loc name params type).visit body).2.exitFunction.2).2 := by
  have hframed : (env.inBody loc name params type).Framed
      ((env.inBody loc name params type).visit body).2 :=
    (Env.framing_steps.visit (Node.all_of_forall (fun _ => trivial) body) _ trivial).2.1
  obtain ⟨f, hf, hname, hrole, hrun⟩ := run_inFunction loc hframed hok
  rw [Env.signature_of_function hshape] at hrole
  refine ⟨f, hf, hname, hrole, ?_⟩
  rw [visit_of_defines hdefines hfatal, run_function hlookup hshape hobject]
  exact congrArg Prod.snd hrun

end Visit

end SigCheck
