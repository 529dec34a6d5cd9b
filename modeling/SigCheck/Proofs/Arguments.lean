import SigCheck.Proofs.Frame
import SigCheck.Proofs.Sessions

/-!
# Arguments of calls

A call visits its callee and then its arguments.  `Visit.InTurn` says what it is to visit the
arguments: one after the other, each once, from the state that the one before leaves, with nothing
in between but a mismatch that is reported.

A plain call does so for every type of its callee (`Visit.inTurn_of_call`).  A `new` call does so
unless it reports its callee; but if the callee has a type that is no function type, it does
nothing (`Env.new_visits_arguments`, `Env.not_forall_new_visits_arguments`).
-/

namespace SigCheck

/-- A function type. -/
def Ty.isFunction {ι : Type} (t : Ty ι) : Bool :=
  match t.shape with
  | .function _ _ _ => true
  | _ => false

namespace Env

/-- Adds diagnostics. -/
def reportAll (env : Env) (ds : List Diagnostic) : Env := { env with errors := env.errors ++ ds }

theorem reportAll_nil (env : Env) : env.reportAll [] = env := by
  rw [reportAll, List.append_nil]

end Env

namespace Diagnostic

/-- At most a mismatch of types, at `loc`. -/
inductive Mismatching (loc : Location) : List Diagnostic → Prop
  | none : Mismatching loc []
  | mismatch (expected actual : String) :
      Mismatching loc [⟨.typeClassMismatch expected actual, loc⟩]

/-- At most a wrong number of arguments of a `new` call, at `loc`. -/
inductive Miscounting (loc : Location) : List Diagnostic → Prop
  | none : Miscounting loc []
  | tooMany (name : String) (expected actual : Nat) :
      Miscounting loc [⟨.tooManyArgsInNew name expected actual, loc⟩]
  | tooFew (name : String) (expected actual : Nat) :
      Miscounting loc [⟨.tooFewArgsInNew name expected actual, loc⟩]

/-- A diagnostic about the callee of a `new` call, at `loc`. -/
inductive AboutCallee (loc : Location) : Diagnostic → Prop
  | notPascalCase (name type : String) :
      AboutCallee loc ⟨.constructorMustBePascalCase name type, loc⟩
  | plainFunction (name type : String) :
      AboutCallee loc ⟨.callingNewOnPlainFunction name type, loc⟩

end Diagnostic

namespace Visit

/-- The nodes are visited one after the other, each once and without a fault, from the state `env`
to `env'`.  Behind each visit at most a mismatch is reported, at that node. -/
inductive InTurn : Env → List Node → Env → Prop
  | nil {env : Env} : InTurn env [] env
  | cons {env env' : Env} {n : Node} {ns : List Node} {t : Option TypeInst} {ds : List Diagnostic}
      (hvisit : (env.visit n).1 = .ok t) (hds : Diagnostic.Mismatching n.loc ds)
      (hrest : InTurn ((env.visit n).2.reportAll ds) ns env') : InTurn env (n :: ns) env'

theorem errors_visit (env : Env) (n : Node) : env.errors <+: (env.visit n).2.errors :=
  (Env.framing_steps.visit (Node.all_of_forall (fun _ => trivial) n) env trivial).2.1.errors

theorem InTurn.errors {env env' : Env} {ns : List Node} (h : InTurn env ns env') :
    env.errors <+: env'.errors := by
  induction h with
  | nil => exact List.prefix_refl _
  | cons _ _ _ ih => exact ((errors_visit _ _).trans (List.prefix_append _ _)).trans ih

/-- What a visit to one of the nodes reports is there in the end. -/
theorem InTurn.exists_visit {env env' : Env} {ns : List Node} (h : InTurn env ns env') :
    ∀ n ∈ ns, ∃ s : Env, env.errors <+: s.errors ∧ (s.visit n).2.errors <+: env'.errors := by
  induction h with
  | nil => exact List.forall_mem_nil _
  | @cons env env' n ns t ds _ _ hrest ih =>
    have hhere : (env.visit n).2.errors <+: env'.errors :=
      (List.prefix_append _ _).trans hrest.errors
    refine List.forall_mem_cons.2 ⟨⟨env, List.prefix_refl _, hhere⟩, fun m hm => ?_⟩
    obtain ⟨s, hs, hm⟩ := ih m hm
    exact ⟨s, ((errors_visit env n).trans (List.prefix_append _ _)).trans hs, hm⟩

/-! ### Steps -/

theorem run_expect {env : Env} {loc : Location} {declared inferred : TypeInst} {u : Unit}
    (h : ((expect loc declared inferred).run env).1 = .ok u) :
    ∃ ds, Diagnostic.Mismatching loc ds ∧
      ((expect loc declared inferred).run env).2 = env.reportAll ds := by
  unfold expect at h ⊢
  split at h
  · exact ⟨[], .none, env.reportAll_nil.symm⟩
  · exact ⟨_, .mismatch _ _, rfl⟩
  · cases h

theorem run_checkArguments (env : Env) (loc : Location) (name : String) (expected actual : Nat) :
    ∃ ds, Diagnostic.Miscounting loc ds ∧
      (checkArguments loc name expected actual).run env = (.ok (), env.reportAll ds) := by
  unfold checkArguments
  split_ifs
  · exact ⟨_, .tooMany name expected actual, rfl⟩
  · exact ⟨_, .tooFew name expected actual, rfl⟩
  · exact ⟨[], .none, by rw [env.reportAll_nil]; rfl⟩

/-- A sequence without a fault is its second step, from the state that the first one leaves. -/
theorem exists_of_run_bind {α β : Type} {v : Visit α} {f : α → Visit β} {env : Env} {b : β}
    (h : ((v >>= f).run env).1 = .ok b) :
    ∃ a, (v.run env).1 = .ok a ∧ (v >>= f).run env = (f a).run (v.run env).2 := by
  rw [run_bind] at h ⊢
  cases ha : (v.run env).1 with
  | ok a => exact ⟨a, rfl, rfl⟩
  | error e =>
    rw [ha] at h
    cases h

theorem inTurn_of_walkArguments {arguments : List Node} {declared : List TypeInst} {env : Env}
    {u : Unit} (h : ((walkArguments unlessFatal declared arguments).run env).1 = .ok u) :
    InTurn env arguments ((walkArguments unlessFatal declared arguments).run env).2 := by
  induction arguments generalizing declared env with
  | nil => exact .nil
  | cons n ns ih =>
    unfold walkArguments at h ⊢
    obtain ⟨actual, hvisit, hrun⟩ := exists_of_run_bind h
    rw [hrun] at h ⊢
    change (env.visit n).1 = _ at hvisit
    dsimp only at h ⊢
    split at h
    · rename_i expected inferred _
      obtain ⟨_, hexpect, hrun'⟩ := exists_of_run_bind h
      obtain ⟨ds, hds, hstate⟩ := run_expect hexpect
      rw [hrun', hstate] at h ⊢
      exact .cons hvisit hds (ih h)
    · refine .cons hvisit .none ?_
      rw [Env.reportAll_nil]
      exact ih h

variable {env : Env} {loc : Location} {callee : Node} {arguments : List Node} {t : Option TypeInst}

/-- A plain call visits its arguments, whatever the type of its callee is. -/
theorem inTurn_of_call (hfatal : env.fatal = false)
    (hok : (env.visit ⟨loc, .callExpression callee arguments⟩).1 = .ok t) :
    InTurn (env.visit callee).2 arguments
      (env.visit ⟨loc, .callExpression callee arguments⟩).2 := by
  have hvisit : env.visit ⟨loc, .callExpression callee arguments⟩ = (visit callee >>= fun type =>
      call type fun declared => walkArguments unlessFatal declared arguments).run env :=
    run_unlessFatal hfatal _
  rw [hvisit] at hok ⊢
  obtain ⟨type, -, hrun⟩ := exists_of_run_bind hok
  rw [hrun] at hok ⊢
  unfold call at hok ⊢
  split at hok
  · obtain ⟨_, harguments, hrun'⟩ := exists_of_run_bind hok
    rw [hrun']
    exact inTurn_of_walkArguments harguments
  · obtain ⟨_, harguments, hrun'⟩ := exists_of_run_bind hok
    rw [andNothing, hrun']
    exact inTurn_of_walkArguments harguments

/-- A `new` call at `loc` is not skipped: from the state `after`, which the visit to its callee
leaves, its callee is reported, or its arguments are visited, after their number is checked. -/
def HandlesNew (loc : Location) (arguments : List Node) (after final : Env) : Prop :=
  (∃ d, Diagnostic.AboutCallee loc d ∧ final = after.report d) ∨
    ∃ ds, Diagnostic.Miscounting loc ds ∧ InTurn (after.reportAll ds) arguments final ∧
      ∀ n ∈ arguments, ∃ s : Env, after.errors <+: s.errors ∧
        (s.visit n).2.errors <+: final.errors

theorem handlesNew_of_inTurn {after final : Env} {ds : List Diagnostic}
    (hds : Diagnostic.Miscounting loc ds) (h : InTurn (after.reportAll ds) arguments final) :
    HandlesNew loc arguments after final := by
  refine .inr ⟨ds, hds, h, fun n hn => ?_⟩
  obtain ⟨s, hs, hn⟩ := h.exists_visit n hn
  exact ⟨s, (List.prefix_append _ _).trans hs, hn⟩

theorem handlesNew_of_construct {type : Option TypeInst} {name : String} {count : Nat}
    (hfunction : ∀ c ∈ type, c.isFunction = true)
    (hok : ((construct loc name count type fun declared =>
      walkArguments unlessFatal declared arguments).run env).1 = .ok t) :
    HandlesNew loc arguments env ((construct loc name count type fun declared =>
      walkArguments unlessFatal declared arguments).run env).2 := by
  unfold construct at hok ⊢
  cases type with
  | none =>
    obtain ⟨_, harguments, hrun⟩ := exists_of_run_bind hok
    refine handlesNew_of_inTurn .none ?_
    rw [env.reportAll_nil, andNothing, hrun]
    exact inTurn_of_walkArguments harguments
  | some type =>
    have hfunction := hfunction type rfl
    unfold Ty.isFunction at hfunction
    split at hfunction
    · rename_i args receiver result hshape
      dsimp only at hok ⊢
      rw [hshape] at hok ⊢
      dsimp only at hok ⊢
      split_ifs at hok ⊢
      · exact .inl ⟨_, .notPascalCase _ _, rfl⟩
      · exact .inl ⟨_, .plainFunction _ _, rfl⟩
      · obtain ⟨ds, hds, hcount⟩ := run_checkArguments env loc name args.length count
        obtain ⟨_, -, hrun⟩ := exists_of_run_bind hok
        rw [hrun, hcount] at hok ⊢
        obtain ⟨_, harguments, hrun'⟩ := exists_of_run_bind hok
        rw [hrun']
        exact handlesNew_of_inTurn hds (inTurn_of_walkArguments harguments)
    · cases hfunction

theorem construct_of_isFunction_eq_false {c : TypeInst} (h : c.isFunction = false) (name : String)
    (count : Nat) (visitArguments : List TypeInst → Visit Unit) :
    construct loc name count (some c) visitArguments = pure none := by
  unfold Ty.isFunction at h
  unfold construct
  dsimp only
  split
  · rename_i hshape
    rw [hshape] at h
    cases h
  · rfl

theorem visit_new (hfatal : env.fatal = false) :
    env.visit ⟨loc, .newExpression callee arguments⟩ = (visit callee >>= fun type =>
      construct loc (calleeName callee) arguments.length type fun declared =>
        walkArguments unlessFatal declared arguments).run env :=
  run_unlessFatal hfatal _

end Visit

namespace Env

/-- **A `new` call whose callee, as far as its type is known, is a function is not skipped**, as no
plain call is.  With a callee of any other type it ends with the visit to its callee. -/
theorem new_visits_arguments (env : Env) (loc : Location) (callee : Node) (arguments : List Node)
    (hfatal : env.fatal = false) :
    (∀ t, (env.visit ⟨loc, .newExpression callee arguments⟩).1 = .ok t →
      (∀ c, (env.visit callee).1 = .ok (some c) → c.isFunction = true) →
      Visit.HandlesNew loc arguments (env.visit callee).2
        (env.visit ⟨loc, .newExpression callee arguments⟩).2) ∧
    (∀ c, (env.visit callee).1 = .ok (some c) → c.isFunction = false →
      env.visit ⟨loc, .newExpression callee arguments⟩ = (.ok none, (env.visit callee).2)) ∧
    (∀ t, (env.visit ⟨loc, .callExpression callee arguments⟩).1 = .ok t →
      Visit.InTurn (env.visit callee).2 arguments
        (env.visit ⟨loc, .callExpression callee arguments⟩).2) := by
  refine ⟨fun t hok hfunction => ?_, fun c hc hfunction => ?_,
    fun t hok => Visit.inTurn_of_call hfatal hok⟩
  · rw [Visit.visit_new hfatal] at hok ⊢
    obtain ⟨type, htype, hrun⟩ := Visit.exists_of_run_bind hok
    rw [hrun] at hok ⊢
    refine Visit.handlesNew_of_construct (fun c hc => hfunction c ?_) hok
    rw [← Option.mem_def.1 hc]
    exact htype
  · change ((Visit.visit callee).run env).1 = _ at hc
    rw [Visit.visit_new hfatal, Visit.run_bind, hc]
    dsimp only
    rw [Visit.construct_of_isFunction_eq_false hfunction]
    rfl

/-- The one header that declares `Point : (Number) => { x: Number }` and `label : String`. -/
def labelLoader : Loader where
  load _ _ := .ok ⟨[.assigns ⟨"Point", .ofShape (.function [.literal "Number"] none
      (.ofShape (.object () [⟨"x", false, .literal "Number"⟩])))⟩,
    .assigns ⟨"label", .literal "String"⟩]⟩
  path? _ := none

/-- A function `work`, which no header declares. -/
def workFunction : Node :=
  ⟨⟨⟨1, 10⟩, ⟨1, 24⟩⟩, .functionExpression (some "work") [] ⟨.unknown, .blockStatement []⟩⟩

/-- The expression `new name('a', function work() …)`. -/
def newCall (name : String) : Node :=
  ⟨⟨⟨1, 0⟩, ⟨1, 25⟩⟩, .newExpression ⟨.unknown, .identifier name⟩
    [⟨⟨⟨1, 8⟩, ⟨1, 9⟩⟩, .literal (some "'a'")⟩, workFunction]⟩

/-- There is one argument too many, the first one is no number, and the second is looked at all the
same. -/
theorem new_visits_arguments_point :
    let env := (start workFunction "point.js" labelLoader).loadHeader
    (env.visit (newCall "Point")).2.errors =
        [⟨.tooManyArgsInNew "Point" 1 2, ⟨⟨1, 0⟩, ⟨1, 25⟩⟩⟩,
          ⟨.typeClassMismatch "Number" "String", ⟨⟨1, 8⟩, ⟨1, 9⟩⟩⟩,
          ⟨.untypedFunctionFound "work", ⟨⟨1, 10⟩, ⟨1, 24⟩⟩⟩] ∧
      Visit.HandlesNew ⟨⟨1, 0⟩, ⟨1, 25⟩⟩
        [⟨⟨⟨1, 8⟩, ⟨1, 9⟩⟩, .literal (some "'a'")⟩, workFunction]
        (env.visit ⟨.unknown, .identifier "Point"⟩).2 (env.visit (newCall "Point")).2 := by
  intro env
  refine ⟨by decide +kernel, (new_visits_arguments env ⟨⟨1, 0⟩, ⟨1, 25⟩⟩ _ _ rfl).1 _ rfl ?_⟩
  intro c hc
  cases hc
  rfl

/-- In `new label(function work() …)`, where `label` is a string, nothing is looked at. -/
theorem not_forall_new_visits_arguments :
    ¬∀ (root : Node) (fileName : String) (loader : Loader) (ops : List Operation) (loc : Location)
      (callee : Node) (arguments : List Node) (t : Option TypeInst),
      let env := (start root fileName loader).performAll ops
      env.fatal = false → (env.visit ⟨loc, .newExpression callee arguments⟩).1 = .ok t →
      Visit.HandlesNew loc arguments (env.visit callee).2
        (env.visit ⟨loc, .newExpression callee arguments⟩).2 := by
  intro h
  have hnew := h workFunction "point.js" labelLoader [.loadHeader] ⟨⟨1, 0⟩, ⟨1, 25⟩⟩
    ⟨.unknown, .identifier "label"⟩ [workFunction] none rfl rfl
  rcases hnew with ⟨d, -, hreport⟩ | ⟨ds, -, hturn, -⟩
  · have herrors : [] = [d] := congrArg Env.errors hreport
    cases herrors
  · cases hturn with
    | @cons _ _ _ _ _ ds' _ _ hrest =>
      have herrors : ds ++ [⟨.untypedFunctionFound "work", workFunction.loc⟩] ++ ds' <+: [] :=
        hrest.errors
      simp at herrors

end Env

end SigCheck
