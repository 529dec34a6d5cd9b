import SigCheck.Proofs.Frame

/-!
# What the header declares stays declared

The names of a header are bound in scopes, like the variables and parameters of the program, and a
variable is bound in whatever scope is the current one.  So it takes an argument that no variable
ever takes the place of a name of the header.  `Env.declared?` is what the header declares about a
name in one scope, and no step of a visit changes it, at any place:

* A variable is bound only if its name does not stand for something in the header.  The current
  scope is the first one that is searched, so it has no declaration of that name itself
  (`Env.declared?_currentScope`), whatever the scopes around it have.
* Parameters are bound in a new scope, which has no declarations (`Env.declared?_enterFunction`),
  and the way out of a function takes that scope off again.

A `program` node loads a header and declares its names anew, so the nodes must not contain one.
-/

namespace SigCheck

/-! ### Declarations in a scope -/

namespace Scope

variable (s : Scope) {name : String}

/-- What the header declares about a name, in this scope. -/
def declared? (name : String) : Option Binding :=
  (s.bindings.find? name).filter (·.origin = .header)

variable {s}

theorem declared?_eq_some_iff {b : Binding} :
    s.declared? name = some b ↔ s.bindings.find? name = some b ∧ b.origin = .header := by
  rw [declared?, Option.filter_eq_some_iff, decide_eq_true_iff]

/-- What is bound to a name without a declaration is no declaration, unless the header says so. -/
theorem declared?_bind (hname : s.declared? name = none) (type : TypeInst) {origin : Origin}
    (horigin : origin ≠ .header) (other : String) :
    (s.bind name type origin).declared? other = s.declared? other := by
  by_cases h : other = name
  · subst h
    rw [hname, declared?, bind, Bindings.find?_insert, if_pos rfl]
    exact Option.filter_some_neg (by simpa using horigin)
  · rw [declared?, bind, Bindings.find?_insert, if_neg h]
    rfl

theorem declared?_bindParams (params : List Node) (args : List TypeInst) (s : Scope)
    (h : ∀ name, s.declared? name = none) (other : String) :
    (Env.bindParams params args s).declared? other = none := by
  induction params, args, s using Env.bindParams.induct with
  | case1 param params arg args s ih =>
    rw [Env.bindParams]
    refine ih fun name => ?_
    split
    · exact (declared?_bind (h _) arg (by decide) name).trans (h name)
    · exact h name
  | case2 params args s hends =>
    rw [Env.bindParams]
    · exact h other
    · exact hends

end Scope

/-! ### Declarations in a state -/

namespace Env

variable (env : Env) {name : String}

/-- What the header declares about a name, in the scope at the place `i`. -/
def declared? (i : Nat) (name : String) : Option Binding :=
  env.scopes[i]?.bind (·.declared? name)

variable {env}

theorem declared?_modifyScope {f : Scope → Scope}
    (h : ∀ s, env.currentScope? = some s → ∀ name, (f s).declared? name = s.declared? name)
    (i : Nat) (name : String) : (env.modifyScope f).declared? i name = env.declared? i name := by
  rw [declared?, declared?, modifyScope, List.getElem?_modify]
  by_cases hi : env.current = i
  · subst hi
    cases hs : env.scopes[env.current]? with
    | none => rfl
    | some s => simpa using h s hs name
  · simp [hi]

theorem declared?_modifyFunction (g : FunctionState → FunctionState) (i : Nat) (name : String) :
    (env.modifyFunction g).declared? i name = env.declared? i name := by
  refine declared?_modifyScope (fun s _ name => ?_) i name
  split <;> rfl

/-- A name that does not stand for something in the header has no declaration in the current scope:
it is the first scope in which the name is looked up. -/
theorem declared?_currentScope (hname : ∀ type, env.lookup name ≠ some ⟨type, .header⟩) {s : Scope}
    (hs : env.currentScope? = some s) : s.declared? name = none := by
  rw [Option.eq_none_iff_forall_ne_some]
  rintro ⟨type, origin⟩ hb
  obtain ⟨hfind, rfl⟩ := Scope.declared?_eq_some_iff.1 hb
  obtain ⟨hlt, -⟩ := List.getElem?_eq_some_iff.1 hs
  obtain ⟨n, hn⟩ : ∃ n, env.scopes.length = n + 1 := ⟨env.scopes.length - 1, by omega⟩
  refine hname type ?_
  rw [currentScope?] at hs
  rw [lookup, Scope.lookup, hn, Scope.lookupWithin, hs]
  dsimp only
  rw [hfind]

theorem declared?_bind (hname : ∀ type, env.lookup name ≠ some ⟨type, .header⟩) (type : TypeInst)
    {origin : Origin} (horigin : origin ≠ .header) (i : Nat) (other : String) :
    (env.bind name type origin).declared? i other = env.declared? i other :=
  declared?_modifyScope
    (fun _ hs => Scope.declared?_bind (declared?_currentScope hname hs) type horigin) i other

theorem declared?_enterFunction (name : String) (params : List Node) (type : TypeInst) (i : Nat)
    (other : String) :
    (env.enterFunction name params type).declared? i other = env.declared? i other := by
  let scope : Scope := ⟨.function (.start name (signature type).2), [], some env.current⟩
  have hparams := Scope.declared?_bindParams params (signature type).1 scope (fun _ => rfl) other
  have hscopes : (env.enterFunction name params type).scopes =
      env.scopes ++ [bindParams params (signature type).1 scope] := rfl
  rw [declared?, declared?, hscopes]
  by_cases hi : i < env.scopes.length
  · rw [List.getElem?_append_left hi]
  · have hle := Nat.le_of_not_lt hi
    rw [List.getElem?_append_right hle, List.getElem?_eq_none hle, List.getElem?_singleton]
    split
    · exact hparams
    · rfl

/-! ### Visits -/

/-- The declarations are those of the state `env₀`. -/
def declaring (env₀ : Env) : Visit.Contract where
  inv env := ∀ i name, env.declared? i name = env₀.declared? i name
  rel := Framed
  fault _ := True
  refl := Framed.refl
  trans := Framed.trans

theorem declaring_steps (env₀ : Env) :
    Visit.Steps (declaring env₀) (fun n => ∀ body, n.kind ≠ .program body) fun _ => True where
  children _ _ _ _ := trivial
  literal _ _ := trivial
  lookup _ _ _ _ _ _ _ _ := trivial
  function _ _ _ _ := trivial
  compare _ _ _ _ _ _ := trivial
  report _ _ _ _ env henv := ⟨henv, env.framed_report _⟩
  skipFunction _ env henv := ⟨henv, env.framed_note nofun nofun⟩
  skipNode _ env henv := ⟨henv, env.framed_note nofun nofun⟩
  bind env _ name t henv _ _ _ hname :=
    ⟨fun i other => (declared?_bind hname t (by decide) i other).trans (henv i other),
      env.framed_bind name t _⟩
  foundReturn _ _ _ _ env henv :=
    ⟨fun i name => (declared?_modifyFunction _ i name).trans (henv i name),
      env.framed_foundReturn⟩
  assigned _ _ _ _ _ field _ _ _ _ env henv :=
    ⟨fun i name => (declared?_modifyFunction _ i name).trans (henv i name),
      env.framed_assigned field⟩
  setExports _ body hn hbody := absurd hbody (hn body)
  loadHeader _ _ body _ hn hbody _ := absurd hbody (hn body)
  enterFunction _ _ name params type _ _ _ henv _ _ _ _ _ _ :=
    fun i other => (declared?_enterFunction name params type i other).trans (henv i other)
  exitFunction env env' name params type henv _ hframed := by
    obtain ⟨f, -, hexit⟩ := hframed.exitFunction
    refine ⟨?_, hframed.of_exitFunction⟩
    rw [hexit]
    exact henv

/-- **Declarations are immutable.**  A visit to a node that contains no `program` node leaves what
the header declares, in every scope and about every name, as it was; also if it ends in a fault, and
also in the middle of the visit. -/
theorem declarations_immutable (env : Env) (n : Node)
    (hn : n.All fun m => ∀ body, m.kind ≠ .program body) :
    (∀ i name, (env.visit n).2.declared? i name = env.declared? i name) ∧
      Visit.Throughout (fun env' => ∀ i name, env'.declared? i name = env.declared? i name) n
        env := by
  have hstart : (declaring env).inv env := fun _ _ => rfl
  exact ⟨((declaring_steps env).visit hn env hstart).1,
    (declaring_steps env).throughout (fun _ henv => henv) hn hstart⟩

/-- The one header that declares `limit : Number` and `save : (String) => void`. -/
def saveLoader : Loader where
  load _ _ := .ok ⟨[.assigns ⟨"limit", .literal "Number"⟩,
    .assigns ⟨"save", .ofShape (.function [.literal "String"] none (.literal "void"))⟩]⟩
  path? _ := none

/-- A variable `limit` for a text. -/
def limitVariable : Node :=
  ⟨.unknown, .variableDeclarator ⟨.unknown, .identifier "limit"⟩
    (some ⟨.unknown, .literal (some "'none'")⟩)⟩

/-- A function `save` with a parameter and a variable of the name `limit`, and a variable of that
name outside. -/
def saveBlock : Node :=
  ⟨.unknown, .blockStatement
    [⟨.unknown, .functionDeclaration "save" [⟨.unknown, .identifier "limit"⟩] limitVariable⟩,
      limitVariable]⟩

/-- The variable in the function takes the place of the parameter, and the one outside is reported;
`limit` stays a number in the scope of the file. -/
theorem declarations_immutable_save :
    let env := (start saveBlock "save.js" saveLoader).loadHeader
    (saveBlock.All fun m => ∀ body, m.kind ≠ .program body) ∧
      (env.declared? 1 "limit").map (·.type.text) = some "Number" ∧
      (env.visit saveBlock).2.declared? 1 "limit" = env.declared? 1 "limit" ∧
      (env.visit saveBlock).2.errors =
        [⟨.typeClassMismatch "Number" "String", .unknown⟩] := by
  have hvariable : limitVariable.All fun m => ∀ body, m.kind ≠ .program body := by
    refine .intro nofun (List.forall_mem_cons.2 ⟨.intro nofun nofun, ?_⟩)
    exact List.forall_mem_singleton.2 (.intro nofun nofun)
  have hblock : saveBlock.All fun m => ∀ body, m.kind ≠ .program body := by
    have hlast := List.forall_mem_singleton.2 hvariable
    refine .intro nofun (List.forall_mem_cons.2 ⟨.intro nofun ?_, hlast⟩)
    exact List.forall_mem_cons.2 ⟨.intro nofun nofun, hlast⟩
  exact ⟨hblock, rfl, (declarations_immutable _ saveBlock hblock).1 1 "limit", rfl⟩

end Env

end SigCheck
