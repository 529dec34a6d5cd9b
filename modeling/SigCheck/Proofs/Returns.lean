import SigCheck.Proofs.Bodies

/-!
# Missing returns

A function whose declared result is not `void` must have a `return`.  `Node.Returns` says that a
node holds one outside the bodies of further functions, at any depth, and `Node.ReturnsInPlace` that
every such one stands in statement position.

A visit to a node of the second kind finds a `return` exactly if the node holds one
(`Visit.advances_visit`): a statement finds what the statements in it find, and everything else
finds nothing.  So the diagnostic about a missing `return` is right
(`Env.missing_return_iff`).
-/

namespace SigCheck

namespace Node

/-- The node is a `return`. -/
def IsReturn (n : Node) : Prop := ∃ argument, n.kind = .returnStatement argument

/-- The node is a `return`, or holds one outside the bodies of functions. -/
abbrev Returns (n : Node) : Prop := n.Has IsReturn

/-- What the node holds of `return`s, outside the bodies of functions, stands in statement
position. -/
inductive ReturnsInPlace : Node → Prop
  | intro {n : Node} (hoperands : ∀ c ∈ n.kind.operands, ¬c.Returns)
      (hstatements : ∀ c ∈ n.kind.statements, ReturnsInPlace c) : ReturnsInPlace n

theorem returns_iff {n : Node} (h : n.ReturnsInPlace) :
    n.Returns ↔ n.IsReturn ∨ ∃ c ∈ n.kind.statements, c.Returns := by
  cases h with
  | intro hoperands _ =>
    constructor
    · intro hreturns
      cases hreturns with
      | here hreturn => exact .inl hreturn
      | part hc hreturns =>
        rcases mem_outer.1 hc with hc | hc
        · exact absurd hreturns (hoperands _ hc)
        · exact .inr ⟨_, hc, hreturns⟩
    · rintro (hreturn | ⟨c, hc, hreturns⟩)
      · exact .here hreturn
      · exact .part (mem_outer.2 (.inr hc)) hreturns

end Node

namespace Visit

/-- A `return` has been found. -/
abbrev found (f : FunctionState) : Prop := f.foundReturn = true

theorem covers_found : Covers Node.IsReturn found where
  foundReturn _ argument hkind hn := absurd ⟨argument, hkind⟩ hn
  assigned _ _ _ _ _ _ _ _ _ _ _ := rfl

theorem advances_checkReturn (loc : Location) (hasArgument : Bool) (actual : Option TypeInst) :
    Advances found (checkReturn loc hasArgument actual) fun _ => True := by
  refine advances_ask fun env => ?_
  split
  · rename_i hnone
    intro f a _ hf
    rw [hnone] at hf
    cases hf
  · rename_i f _
    have hset : Advances found (modify (·.modifyFunction fun f => { f with foundReturn := true }))
        fun _ => True := advances_modifyFunction fun _ => eq_self true
    refine hset.andThen (fun _ => ?_) env
    -- what follows only reports
    split
    · exact advances_report _ _
    · split_ifs
      · exact advances_report _ _
      · exact advances_pure ()
      · split
        · exact advances_expect _ _ _
        · exact advances_pure ()
      · exact advances_expect _ _ _

theorem advances_return {n : Node} {argument : Option Node}
    (hkind : n.kind = .returnStatement argument)
    (hargument : ∀ c ∈ argument, Advances found (visit c) id) :
    Advances found (visit n) fun _ => True := by
  obtain ⟨loc, kind⟩ := n
  obtain rfl : kind = .returnStatement argument := hkind
  unfold visit walk
  refine Advances.unlessFatal ?_
  cases argument with
  | none => exact (advances_checkReturn loc false none).andNothing
  | some argument =>
    refine (hargument argument rfl).after fun actual => ?_
    exact (advances_checkReturn loc true actual).andNothing

theorem foldl_or_returns (ns : List Node) (p : Prop) :
    ns.foldl (fun p n => p ∨ n.Returns) p = (p ∨ ∃ n ∈ ns, n.Returns) := by
  induction ns generalizing p with
  | nil => simp
  | cons n ns ih => simp [ih, or_assoc]

/-- A visit finds a `return` exactly if the node holds one. -/
theorem advances_visit {n : Node} (hprogram : n.All Node.NoProgram) (h : n.ReturnsInPlace) :
    Advances found (visit n) (· ∨ n.Returns) := by
  induction h with
  | @intro n hoperands hstatements ih =>
    have hquiet : ∀ c ∈ n.kind.operands, Advances found (visit c) id := by
      intro c hc
      have hchild := Node.mem_children_of_mem_outer (Node.mem_outer.2 (.inl hc))
      exact advances_of_not_has covers_found (hprogram.children hchild) (hoperands c hc)
    by_cases hn : n.Returns
    · -- it is a `return` itself, or has one among its statements
      have hreturns := (Node.returns_iff (.intro hoperands hstatements)).1 hn
      rcases hreturns with ⟨argument, hkind⟩ | ⟨c, hc, hfound⟩
      · refine (advances_return hkind fun c hc => hquiet c ?_).congr fun p => by simp [hn]
        simpa [hkind, NodeKind.operands, NodeKind.children] using hc
      · have hparts : ∀ c ∈ n.kind.statements, Advances found (visit c) (· ∨ c.Returns) := by
          intro c hc
          have hchild := Node.mem_children_of_mem_outer (Node.mem_outer.2 (.inr hc))
          exact ih c hc (hprogram.children hchild)
        have hsome : ∃ c ∈ n.kind.statements, c.Returns := ⟨c, hc, hfound⟩
        refine (advances_statement (List.ne_nil_of_mem hc) hquiet hparts).congr fun p => ?_
        simp only [foldl_or_returns, hsome, hn]
    · exact (advances_of_not_has covers_found hprogram hn).congr fun p => by simp [hn]

theorem errors_checkBody {f : FunctionState} {result : TypeInst} (hrole : f.role = .plain result)
    (hvoid : result.isVoid = false) (loc : Location) (env : Env) :
    ((checkBody loc f).run env).2.errors = if f.foundReturn then env.errors
      else env.errors ++ [⟨.missingReturnStatement result.text "void" f.name, loc⟩] := by
  unfold checkBody
  rw [hrole]
  dsimp only
  cases f.foundReturn <;> simp [hvoid] <;> rfl

end Visit

namespace Env

/-- **A `return` is reported as missing exactly if there is none.** -/
theorem missing_return_iff (env : Env) (n body : Node) (loc : Location) (name : String)
    (params : List Node) (type : TypeInst) (origin : Origin) (args : List TypeInst)
    (receiver : Option TypeInst) (result : TypeInst) (t : Option TypeInst)
    (hfatal : env.fatal = false) (hdefines : n.Defines loc name params body)
    (hname : isConstructorName name = false) (hlookup : env.lookup name = some ⟨type, origin⟩)
    (hshape : type.shape = .function args receiver result) (hvoid : result.isVoid = false)
    (hprogram : body.All Node.NoProgram) (hplace : body.ReturnsInPlace)
    (hok : ((env.inBody loc name params type).visit body).1 = .ok t) :
    let before := ((env.inBody loc name params type).visit body).2.errors
    let missing : Diagnostic := ⟨.missingReturnStatement result.text "void" name, loc⟩
    ((env.visit n).2.errors = before ++ [missing] ↔ ¬body.Returns) ∧
      ((env.visit n).2.errors = before ↔ body.Returns) := by
  intro before missing
  obtain ⟨f, hf, hfname, hrole, hstate⟩ :=
    Visit.exists_record hfatal hdefines hlookup hshape (by simp [hname]) hok
  have hplain : f.role = .plain result := by
    rw [hrole]
    simp [FunctionState.start, hname]
  have hfound : f.foundReturn = true ↔ body.Returns := by
    have hadvances := Visit.advances_visit hprogram hplace _ _ t (Visit.fatal_inBody.trans hfatal)
      (currentFunction?_enterFunction ..) hok
    have hview := hf ▸ hadvances.1
    simpa [Visit.found, FunctionState.start] using Option.some.inj hview
  rw [hstate, Visit.errors_checkBody hplain hvoid, errors_exitFunction, hfname]
  by_cases hreturns : body.Returns
  · simp [hfound.2 hreturns, hreturns, before]
  · simp [mt hfound.1 hreturns, hreturns, before, missing]

/-- The one header that declares `pick : (Number) => Number` and `helper : () => Number`. -/
def pickLoader : Loader where
  load _ _ := .ok ⟨[
    .assigns ⟨"pick", .ofShape (.function [.literal "Number"] none (.literal "Number"))⟩,
    .assigns ⟨"helper", .ofShape (.function [] none (.literal "Number"))⟩]⟩
  path? _ := none

/-- A variable `n`. -/
def countName : Node := ⟨.unknown, .identifier "n"⟩

/-- A `return` with a number. -/
def returnNumber : Node := ⟨.unknown, .returnStatement (some ⟨.unknown, .literal (some "1")⟩)⟩

/-- A block with a function `helper`, which has a `return`, and a loop with the given node deep
inside it. -/
def pickBody (deep : Node) : Node :=
  ⟨.unknown, .blockStatement
    [⟨.unknown, .functionDeclaration "helper" [] ⟨.unknown, .blockStatement [returnNumber]⟩⟩,
      ⟨.unknown, .whileStatement countName ⟨.unknown, .ifStatement countName
        ⟨.unknown, .blockStatement [deep]⟩ none⟩⟩]⟩

/-- The function `pick`. -/
def pickFunction (deep : Node) : Node :=
  ⟨⟨⟨1, 0⟩, ⟨9, 1⟩⟩, .functionDeclaration "pick" [countName] (pickBody deep)⟩

/-- The `return` of `helper` does not count for `pick`, but the one in the loop does. -/
theorem missing_return_iff_pick :
    let env := (start countName "pick.js" pickLoader).loadHeader
    ((env.visit (pickFunction returnNumber)).2.errors = [] ∧ (pickBody returnNumber).Returns) ∧
      ((env.visit (pickFunction countName)).2.errors =
        [⟨.missingReturnStatement "Number" "void" "pick", ⟨⟨1, 0⟩, ⟨9, 1⟩⟩⟩] ∧
          ¬(pickBody countName).Returns) := by
  intro env
  have hname : countName.All Node.NoProgram := .intro nofun nofun
  have hnumber : returnNumber.All Node.NoProgram :=
    .intro nofun (List.forall_mem_singleton.2 (.intro nofun nofun))
  have hprogram : ∀ deep : Node, deep.All Node.NoProgram → (pickBody deep).All Node.NoProgram := by
    intro deep hdeep
    have hblock : ∀ m : Node, m.All Node.NoProgram →
        Node.All Node.NoProgram ⟨.unknown, .blockStatement [m]⟩ :=
      fun m hm => .intro nofun (List.forall_mem_singleton.2 hm)
    refine .intro nofun (List.forall_mem_cons.2 ⟨.intro nofun ?_, List.forall_mem_singleton.2 ?_⟩)
    · exact List.forall_mem_singleton.2 (hblock _ hnumber)
    · refine .intro nofun (List.forall_mem_cons.2 ⟨hname, List.forall_mem_singleton.2 ?_⟩)
      exact .intro nofun (List.forall_mem_cons.2
        ⟨hname, List.forall_mem_singleton.2 (hblock _ hdeep)⟩)
  have hplace : ∀ deep : Node, deep.ReturnsInPlace → (pickBody deep).ReturnsInPlace := by
    intro deep hdeep
    have htest : ∀ c ∈ [countName], ¬c.Returns :=
      List.forall_mem_singleton.2 (Node.not_has_of_leaf rfl nofun)
    refine .intro nofun (List.forall_mem_cons.2 ⟨.intro nofun nofun, ?_⟩)
    refine List.forall_mem_singleton.2 (.intro htest ?_)
    refine List.forall_mem_singleton.2 (.intro htest ?_)
    exact List.forall_mem_singleton.2 (.intro nofun (List.forall_mem_singleton.2 hdeep))
  have hreturn := missing_return_iff env (pickFunction returnNumber) (pickBody returnNumber)
    ⟨⟨1, 0⟩, ⟨9, 1⟩⟩ "pick" [countName] _ _ _ _ _ none rfl .declaration (by decide +kernel) rfl rfl
    (by decide +kernel) (hprogram _ hnumber)
    (hplace _ (.intro (List.forall_mem_singleton.2 (Node.not_has_of_leaf rfl nofun)) nofun)) rfl
  have hnone := missing_return_iff env (pickFunction countName) (pickBody countName)
    ⟨⟨1, 0⟩, ⟨9, 1⟩⟩ "pick" [countName] _ _ _ _ _ none rfl .declaration (by decide +kernel) rfl rfl
    (by decide +kernel) (hprogram _ hname) (hplace _ (.intro nofun nofun)) rfl
  exact ⟨⟨rfl, hreturn.2.1 rfl⟩, rfl, hnone.1.1 rfl⟩

end Env

end SigCheck
