import Mathlib.Data.List.Infix
import SigCheck.Proofs.Visiting

/-!
# What a visit leaves alone

`Env.Framed` says what a visit may change: it leaves the stack of scopes as it was, except that the
current scope may learn more, it adds diagnostics behind those that were there, and what it adds to
the log is well bracketed.  The relation is reflexive and transitive, so it is enough that the
single steps have it; the one step where it takes an argument is the way out of a function, which
takes off exactly the scope that was put on (`Env.Framed.exitFunction`).

`Env.framed_visit` says that every visit has it, from every state, and whether the visit ends well
or in a fault.
-/

namespace SigCheck

/-! ### Well-bracketed logs -/

/-- Every function that is entered is left under its own name, after the functions entered in
between. -/
inductive Balanced : List Event → Prop
  | nil : Balanced []
  | other {e : Event} {events : List Event} (henter : ∀ name, e ≠ .enteringFunction name)
      (hexit : ∀ name, e ≠ .exitingFunction name) (h : Balanced events) : Balanced (e :: events)
  | call {name : String} {inside events : List Event} (hinside : Balanced inside)
      (h : Balanced events) :
      Balanced (.enteringFunction name :: (inside ++ .exitingFunction name :: events))

theorem Balanced.append {events events' : List Event} (h : Balanced events)
    (h' : Balanced events') : Balanced (events ++ events') := by
  induction h with
  | nil => exact h'
  | other henter hexit _ ih => exact .other henter hexit ih
  | call hinside _ _ ih =>
    rw [List.cons_append, List.append_assoc, List.cons_append]
    exact .call hinside ih

/-! ### Scopes that learn more -/

/-- The same function, after more of its body. -/
structure FunctionState.Extends (f g : FunctionState) : Prop where
  name : g.name = f.name
  role : g.role = f.role
  foundReturn : f.foundReturn = true → g.foundReturn = true
  assigned : f.assigned <+: g.assigned

theorem FunctionState.Extends.refl (f : FunctionState) : f.Extends f :=
  ⟨rfl, rfl, id, List.prefix_refl _⟩

theorem FunctionState.Extends.trans {f g h : FunctionState} (hfg : f.Extends g)
    (hgh : g.Extends h) : f.Extends h where
  name := hgh.name.trans hfg.name
  role := hgh.role.trans hfg.role
  foundReturn hf := hgh.foundReturn (hfg.foundReturn hf)
  assigned := hfg.assigned.trans hgh.assigned

/-- The same class of scope; a function may have done more. -/
inductive ScopeKind.Extends : ScopeKind → ScopeKind → Prop
  | program : Extends .program .program
  | file : Extends .file .file
  | function {f g : FunctionState} (h : f.Extends g) : Extends (.function f) (.function g)

theorem ScopeKind.Extends.refl (k : ScopeKind) : k.Extends k := by
  cases k with
  | program => exact .program
  | file => exact .file
  | function f => exact .function (.refl f)

theorem ScopeKind.Extends.trans {k l m : ScopeKind} (hkl : k.Extends l) (hlm : l.Extends m) :
    k.Extends m := by
  cases hkl with
  | program => exact hlm
  | file => exact hlm
  | function h =>
    cases hlm with
    | function h' => exact .function (h.trans h')

/-- The same scope, with all names it bound still bound. -/
structure Scope.Extends (s t : Scope) : Prop where
  kind : s.kind.Extends t.kind
  parent : t.parent = s.parent
  bound : ∀ name, (s.bindings.find? name).isSome → (t.bindings.find? name).isSome

theorem Scope.Extends.refl (s : Scope) : s.Extends s :=
  ⟨.refl _, rfl, fun _ h => h⟩

theorem Scope.Extends.trans {s t u : Scope} (hst : s.Extends t) (htu : t.Extends u) :
    s.Extends u where
  kind := hst.kind.trans htu.kind
  parent := htu.parent.trans hst.parent
  bound name h := htu.bound name (hst.bound name h)

theorem Scope.Extends.exists_function {f : FunctionState} {bindings : Bindings}
    {parent : Option Nat} {t : Scope} (h : Scope.Extends ⟨.function f, bindings, parent⟩ t) :
    ∃ g bindings', t = ⟨.function g, bindings', parent⟩ ∧ f.Extends g := by
  obtain ⟨kind, bindings', parent'⟩ := t
  obtain ⟨hkind, rfl, -⟩ := h
  cases hkind with
  | function h => exact ⟨_, _, rfl, h⟩

theorem Scope.extends_bind (s : Scope) (name : String) (type : TypeInst) (origin : Origin) :
    s.Extends (s.bind name type origin) where
  kind := .refl _
  parent := rfl
  bound other h := by
    rw [Scope.bind, Bindings.find?_insert]
    split
    · rfl
    · exact h

theorem Scope.extends_bindParams (params : List Node) (args : List TypeInst) (s : Scope) :
    s.Extends (Env.bindParams params args s) := by
  induction params, args, s using Env.bindParams.induct with
  | case1 param params arg args s ih =>
    rw [Env.bindParams]
    refine Scope.Extends.trans ?_ ih
    split
    · exact s.extends_bind _ _ _
    · exact .refl s
  | case2 params args s h =>
    rw [Env.bindParams]
    · exact .refl s
    · exact h

/-! ### Framed states -/

namespace Env

/-- What a visit may change. -/
structure Framed (env env' : Env) : Prop where
  length : env'.scopes.length = env.scopes.length
  current : env'.current = env.current
  others : ∀ i, i ≠ env.current → env'.scopes[i]? = env.scopes[i]?
  here : ∀ s, env.currentScope? = some s → ∃ s', env'.currentScope? = some s' ∧ s.Extends s'
  errors : env.errors <+: env'.errors
  log : ∃ events, Balanced events ∧ env'.log = env.log ++ events

namespace Framed

theorem of_scopes_eq {env env' : Env} (hscopes : env'.scopes = env.scopes)
    (hcurrent : env'.current = env.current) (herrors : env.errors <+: env'.errors)
    (hlog : ∃ events, Balanced events ∧ env'.log = env.log ++ events) : env.Framed env' where
  length := by rw [hscopes]
  current := hcurrent
  others i _ := by rw [hscopes]
  here s hs := ⟨s, by rwa [currentScope?, hscopes, hcurrent], .refl s⟩
  errors := herrors
  log := hlog

theorem of_eq {env env' : Env} (hscopes : env'.scopes = env.scopes)
    (hcurrent : env'.current = env.current) (herrors : env'.errors = env.errors)
    (hlog : env'.log = env.log) : env.Framed env' :=
  of_scopes_eq hscopes hcurrent (herrors ▸ List.prefix_refl _)
    ⟨[], .nil, hlog.trans (List.append_nil _).symm⟩

theorem refl (env : Env) : env.Framed env := of_eq rfl rfl rfl rfl

theorem trans {a b c : Env} (hab : a.Framed b) (hbc : b.Framed c) : a.Framed c where
  length := hbc.length.trans hab.length
  current := hbc.current.trans hab.current
  others i hi := (hbc.others i (hab.current ▸ hi)).trans (hab.others i hi)
  here s hs := by
    obtain ⟨t, ht, hst⟩ := hab.here s hs
    obtain ⟨u, hu, htu⟩ := hbc.here t ht
    exact ⟨u, hu, hst.trans htu⟩
  errors := hab.errors.trans hbc.errors
  log := by
    obtain ⟨events, hevents, hb⟩ := hab.log
    obtain ⟨events', hevents', hc⟩ := hbc.log
    exact ⟨events ++ events', hevents.append hevents', by rw [hc, hb, List.append_assoc]⟩

end Framed

/-! ### Steps -/

variable (env : Env)

theorem framed_note {e : Event} (henter : ∀ name, e ≠ .enteringFunction name)
    (hexit : ∀ name, e ≠ .exitingFunction name) : env.Framed (env.note e) :=
  .of_scopes_eq rfl rfl (List.prefix_refl _) ⟨[e], .other henter hexit .nil, rfl⟩

theorem framed_report (d : Diagnostic) : env.Framed (env.report d) :=
  .of_scopes_eq rfl rfl (List.prefix_append _ _) ⟨[], .nil, (List.append_nil _).symm⟩

theorem framed_modifyScope {f : Scope → Scope} (h : ∀ s : Scope, s.Extends (f s)) :
    env.Framed (env.modifyScope f) where
  length := List.length_modify ..
  current := rfl
  others i hi := by
    rw [modifyScope, List.getElem?_modify]
    simp [hi.symm]
  here s hs := by
    refine ⟨f s, ?_, h s⟩
    rw [currentScope?] at hs ⊢
    rw [modifyScope, List.getElem?_modify, hs]
    simp
  errors := List.prefix_refl _
  log := ⟨[], .nil, (List.append_nil _).symm⟩

theorem framed_bind (name : String) (type : TypeInst) (origin : Origin) :
    env.Framed (env.bind name type origin) :=
  env.framed_modifyScope fun s => s.extends_bind name type origin

theorem framed_modifyFunction {g : FunctionState → FunctionState}
    (h : ∀ f : FunctionState, f.Extends (g f)) : env.Framed (env.modifyFunction g) := by
  refine env.framed_modifyScope fun s => ?_
  split
  · rename_i f hkind
    exact ⟨hkind ▸ .function (h f), rfl, fun _ h => h⟩
  · exact .refl s

theorem framed_foundReturn :
    env.Framed (env.modifyFunction fun f => { f with foundReturn := true }) :=
  env.framed_modifyFunction fun _ => ⟨rfl, rfl, fun _ => rfl, List.prefix_refl _⟩

theorem framed_assigned (field : String) :
    env.Framed (env.modifyFunction fun f => { f with assigned := f.assigned ++ [field] }) :=
  env.framed_modifyFunction fun _ => ⟨rfl, rfl, id, List.prefix_append _ _⟩

theorem framed_setExports (body : List Node) : env.Framed (env.setExports body) := by
  unfold setExports
  split
  · exact .of_eq rfl rfl rfl rfl
  · exact .refl env

theorem framed_bindSignatures (signatures : List (String × TypeExpr)) :
    ∀ env : Env, env.Framed (bindSignatures signatures env) := by
  induction signatures with
  | nil => exact Framed.refl
  | cons signature signatures ih =>
    intro env
    obtain ⟨name, type⟩ := signature
    have hinstantiate : env.Framed (env.instantiate type).2 := .of_eq rfl rfl rfl rfl
    exact (hinstantiate.trans (framed_bind _ name _ .header)).trans (ih _)

theorem framed_announceHeader : env.Framed env.announceHeader := by
  have hcount : env.Framed env.countLoad := .of_eq rfl rfl rfl rfl
  have hloading := hcount.trans
    (env.countLoad.framed_note (e := .loadingHeader (Header.fileName env.fileName)) nofun nofun)
  unfold announceHeader
  dsimp only
  split
  · exact hloading.trans (framed_note _ nofun nofun)
  · exact hloading

theorem framed_loadHeader : env.Framed env.loadHeader := by
  have hannounce := env.framed_announceHeader
  rw [loadHeader_eq]
  split
  · rename_i header _
    have hbind := framed_bindSignatures header.signatures env.announceHeader
    exact (hannounce.trans hbind).trans (.of_eq rfl rfl rfl rfl)
  · rename_i e _
    have hlog : Balanced [.headerFailed (Header.fileName env.fileName) e.message] :=
      .other nofun nofun .nil
    exact hannounce.trans (.of_scopes_eq rfl rfl (List.prefix_append _ _) ⟨_, hlog, rfl⟩)

/-! ### Functions -/

theorem enterFunction_scopes (name : String) (params : List Node) (type : TypeInst) :
    ∃ s, (env.enterFunction name params type).scopes = env.scopes ++ [s] ∧
      Scope.Extends ⟨.function (.start name (signature type).2), [], some env.current⟩ s :=
  ⟨_, rfl, Scope.extends_bindParams _ _ _⟩

variable {env}

/-- The way out of a function takes off the scope that the way in put on. -/
theorem Framed.exitFunction {env' : Env} {name : String} {params : List Node} {type : TypeInst}
    (h : (env.enterFunction name params type).Framed env') :
    ∃ f, FunctionState.Extends (.start name (signature type).2) f ∧ env'.exitFunction =
      (some f, { env'.note (.exitingFunction name) with
        scopes := env.scopes, current := env.current }) := by
  obtain ⟨s, hscopes, hs⟩ := env.enterFunction_scopes name params type
  have hcurrent : env'.current = env.scopes.length := h.current
  have hlength : env'.scopes.length = env.scopes.length + 1 := by
    rw [h.length, hscopes, List.length_append, List.length_singleton]
  -- the scope of the function is still the last one
  have hlast : (env.enterFunction name params type).currentScope? = some s := by
    rw [currentScope?, hscopes]
    exact List.getElem?_concat_length ..
  obtain ⟨s', hs', hextends⟩ := h.here s hlast
  obtain ⟨f, bindings, rfl, hf⟩ := (hs.trans hextends).exists_function
  -- and the others are as they were
  have hothers : env'.scopes.dropLast = env.scopes := by
    refine List.ext_getElem? fun i => ?_
    rw [List.getElem?_dropLast, hlength, Nat.add_sub_cancel]
    split
    · rename_i hi
      rw [h.others i (Nat.ne_of_lt hi), hscopes, List.getElem?_append_left hi]
    · rename_i hi
      exact (List.getElem?_eq_none (Nat.le_of_not_lt hi)).symm
  have hname : f.name = name := hf.name
  refine ⟨f, hf, ?_⟩
  rw [Env.exitFunction, if_pos (by rw [hcurrent, hlength]), hs', ← hothers, ← hname]
  rfl

theorem Framed.of_exitFunction {env' : Env} {name : String} {params : List Node} {type : TypeInst}
    (h : (env.enterFunction name params type).Framed env') : env.Framed env'.exitFunction.2 := by
  obtain ⟨f, -, hexit⟩ := h.exitFunction
  obtain ⟨inside, hinside, hlog⟩ := h.log
  have hcall : Balanced (.enteringFunction name :: (inside ++ [.exitingFunction name])) :=
    .call hinside .nil
  have hevents : env'.log ++ [.exitingFunction name] =
      env.log ++ (.enteringFunction name :: (inside ++ [.exitingFunction name])) := by
    rw [hlog]
    simp [enterFunction, note]
  rw [hexit]
  exact .of_scopes_eq rfl rfl h.errors ⟨_, hcall, hevents⟩

/-! ### Visits -/

/-- A visit may change only what `Framed` says. -/
def framing : Visit.Contract where
  inv _ := True
  rel := Framed
  fault _ := True
  refl := Framed.refl
  trans := Framed.trans

theorem framing_steps : Visit.Steps framing (fun _ => True) fun _ => True where
  children _ _ _ _ := trivial
  literal _ _ := trivial
  lookup _ _ _ _ _ _ _ _ := trivial
  function _ _ _ _ := trivial
  compare _ _ _ _ _ _ := trivial
  report _ _ _ _ env _ := ⟨trivial, env.framed_report _⟩
  skipFunction _ env _ := ⟨trivial, env.framed_note nofun nofun⟩
  skipNode _ env _ := ⟨trivial, env.framed_note nofun nofun⟩
  bind env _ name t _ _ _ _ _ := ⟨trivial, env.framed_bind name t _⟩
  foundReturn _ _ _ _ env _ := ⟨trivial, env.framed_foundReturn⟩
  assigned _ _ _ _ _ field _ _ _ _ env _ := ⟨trivial, env.framed_assigned field⟩
  setExports _ body _ _ env _ := ⟨trivial, env.framed_setExports body⟩
  loadHeader env _ _ _ _ _ _ := ⟨trivial, env.framed_loadHeader⟩
  enterFunction _ _ _ _ _ _ _ _ _ _ _ _ _ _ _ := trivial
  exitFunction _ _ _ _ _ _ _ h := ⟨trivial, h.of_exitFunction⟩

/-- **A visit is framed and balanced, also when a fault ends it.** -/
theorem framed_visit (env : Env) (n : Node) : env.Framed (env.visit n).2 :=
  (framing_steps.visit (Node.all_of_forall (fun _ => trivial) n) env trivial).2.1

end Env

end SigCheck
