import SigCheck.Proofs.Similar
import SigCheck.Proofs.Visiting

/-!
# Corresponding states

Two checks of one program may bind its names to different types and still do the same.  A
`Correspondence` says which types may stand for each other, in what names the two have to agree, and
what is asked of the headers they load.  `Env.Rel` extends it to the states of the two checks: the
same scopes with corresponding bindings, and diagnostics that are the same up to the texts of
corresponding types.

Each operation on states has its lemma here: from corresponding states it leads to corresponding
states.  Only the loading of the header is left out, since what it does depends on the headers.
-/

namespace SigCheck

/-! ### Lists -/

section lists

variable {τ σ : Type} {R : τ → σ → Prop} {ts : List τ} {us : List σ}

theorem forall₂_getElem? (h : List.Forall₂ R ts us) (i : Nat) : Option.Rel R ts[i]? us[i]? := by
  induction h generalizing i with
  | nil => exact .none
  | cons ht _ ih =>
    cases i with
    | zero => exact .some ht
    | succ i => simpa using ih i

theorem forall₂_modify {g : τ → τ} {g' : σ → σ} (hg : ∀ t u, R t u → R (g t) (g' u))
    (h : List.Forall₂ R ts us) (i : Nat) : List.Forall₂ R (ts.modify i g) (us.modify i g') := by
  induction h generalizing i with
  | nil => simp
  | cons ht hts ih =>
    cases i with
    | zero => exact .cons (hg _ _ ht) hts
    | succ i => exact .cons ht (ih i)

theorem forall₂_dropLast (h : List.Forall₂ R ts us) : List.Forall₂ R ts.dropLast us.dropLast := by
  rw [List.dropLast_eq_take, List.dropLast_eq_take, h.length_eq]
  exact List.forall₂_take _ h

end lists

/-! ### Bindings, functions and scopes -/

/-- The bindings have the same origin, and types related by `R`. -/
structure Binding.Rel (R : TypeInst → TypeInst → Prop) (b b' : Binding) : Prop where
  type : R b.type b'.type
  origin : b.origin = b'.origin

/-- The functions give types related by `R`. -/
inductive Role.Rel (R : TypeInst → TypeInst → Prop) : Role → Role → Prop
  | plain {result result'} (h : R result result') : Rel R (.plain result) (.plain result')
  | constructor {receiver receiver'} (h : R receiver receiver') :
      Rel R (.constructor receiver) (.constructor receiver')

/-- The functions give types related by `R`, and their bodies have been seen to do the same. -/
structure FunctionState.Rel (R : TypeInst → TypeInst → Prop) (f f' : FunctionState) : Prop where
  name : f.name = f'.name
  role : Role.Rel R f.role f'.role
  foundReturn : f.foundReturn = f'.foundReturn
  assigned : f.assigned = f'.assigned

/-- The scopes are of the same class, and their functions are related. -/
inductive ScopeKind.Rel (R : TypeInst → TypeInst → Prop) : ScopeKind → ScopeKind → Prop
  | program : Rel R .program .program
  | file : Rel R .file .file
  | function {f f'} (h : FunctionState.Rel R f f') : Rel R (.function f) (.function f')

/-- The scopes agree in what the names among `names` stand for, up to types related by `R`. -/
structure Scope.Rel (R : TypeInst → TypeInst → Prop) (names : String → Prop) (s s' : Scope) :
    Prop where
  kind : ScopeKind.Rel R s.kind s'.kind
  find? : ∀ name, names name →
    Option.Rel (Binding.Rel R) (s.bindings.find? name) (s'.bindings.find? name)
  parent : s.parent = s'.parent

section scopes

variable {R : TypeInst → TypeInst → Prop} {names : String → Prop}

theorem FunctionState.Rel.start (name : String) {result result' : TypeInst}
    (h : R result result') : Rel R (.start name result) (.start name result') := by
  refine ⟨rfl, ?_, rfl, rfl⟩
  unfold FunctionState.start
  dsimp only
  split
  · exact .constructor h
  · exact .plain h

theorem FunctionState.Rel.receiver? {f f' : FunctionState} (h : Rel R f f') :
    Option.Rel R f.receiver? f'.receiver? := by
  unfold FunctionState.receiver?
  have hrole := h.role
  generalize f.role = role, f'.role = role' at hrole
  cases hrole with
  | plain h => exact .none
  | constructor h => exact .some h

theorem FunctionState.Rel.isConstructor {f f' : FunctionState} (h : Rel R f f') :
    f.isConstructor = f'.isConstructor := by
  unfold FunctionState.isConstructor
  have hreceiver := h.receiver?
  generalize f.receiver? = receiver, f'.receiver? = receiver' at hreceiver
  cases hreceiver <;> rfl

namespace Scope

variable {s s' : Scope}

theorem Rel.function? (h : Rel R names s s') :
    Option.Rel (FunctionState.Rel R) s.function? s'.function? := by
  unfold Scope.function?
  have hkind := h.kind
  generalize s.kind = kind, s'.kind = kind' at hkind
  cases hkind with
  | function h => exact .some h
  | _ => exact .none

theorem Rel.bind (h : Rel R names s s') (name : String) {type type' : TypeInst}
    (htype : R type type') (origin : Origin) :
    Rel R names (s.bind name type origin) (s'.bind name type' origin) := by
  refine ⟨h.kind, fun other hother => ?_, h.parent⟩
  unfold Scope.bind
  rw [Bindings.find?_insert, Bindings.find?_insert]
  split
  · exact .some ⟨htype, rfl⟩
  · exact h.find? other hother

theorem Rel.bindParams (h : Rel R names s s') (params : List Node) {args args' : List TypeInst}
    (hargs : List.Forall₂ R args args') :
    Rel R names (Env.bindParams params args s) (Env.bindParams params args' s') := by
  induction params generalizing s s' args args' with
  | nil => exact h
  | cons param params ih =>
    cases hargs with
    | nil => exact h
    | cons harg hargs =>
      unfold Env.bindParams
      refine ih ?_ hargs
      split
      · exact h.bind _ harg .parameter
      · exact h

theorem rel_program (hrequire : R requireType requireType) (hmodule : R moduleType moduleType) :
    Rel R names program program := by
  have hempty : Rel R names ⟨.program, [], none⟩ ⟨.program, [], none⟩ :=
    ⟨.program, fun _ _ => .none, rfl⟩
  exact (hempty.bind "require" hrequire .requireFunction).bind "module" hmodule .moduleObject

theorem lookupWithin_rel {scopes scopes' : List Scope} {name : String}
    (h : List.Forall₂ (Rel R names) scopes scopes') (hname : names name) (n i : Nat) :
    Option.Rel (Binding.Rel R) (lookupWithin scopes name n i) (lookupWithin scopes' name n i) := by
  induction n generalizing i with
  | zero => exact .none
  | succ n ih =>
    unfold lookupWithin
    have hscope := forall₂_getElem? h i
    generalize scopes[i]? = s, scopes'[i]? = s' at hscope
    cases hscope with
    | none => exact .none
    | @some s s' hscope =>
      have hbinding := hscope.find? name hname
      dsimp only
      generalize s.bindings.find? name = b, s'.bindings.find? name = b' at hbinding
      cases hbinding with
      | some hb => exact .some hb
      | none =>
        dsimp only
        rw [hscope.parent]
        cases s'.parent with
        | none => exact .none
        | some parent => exact ih parent

end Scope

end scopes

/-! ### Diagnostics -/

/-- The diagnostics are of the same kind with the same details, up to the texts of types related
by `R`. -/
inductive DiagnosticKind.Rel (R : TypeInst → TypeInst → Prop) :
    DiagnosticKind → DiagnosticKind → Prop
  | refl (kind : DiagnosticKind) : Rel R kind kind
  | typeClassMismatch {expected expected' actual actual' : TypeInst} (h : R expected expected')
      (h' : R actual actual') :
      Rel R (.typeClassMismatch expected.text actual.text)
        (.typeClassMismatch expected'.text actual'.text)
  | nonExistentField (field : String) {t t' : TypeInst} (h : R t t') :
      Rel R (.nonExistentField field t.text) (.nonExistentField field t'.text)
  | nonVoidReturnType (expected func : String) {t t' : TypeInst} (h : R t t') :
      Rel R (.nonVoidReturnType expected t.text func) (.nonVoidReturnType expected t'.text func)
  | missingReturnStatement (actual func : String) {t t' : TypeInst} (h : R t t') :
      Rel R (.missingReturnStatement t.text actual func)
        (.missingReturnStatement t'.text actual func)
  | callingNewOnPlainFunction (func : String) {t t' : TypeInst} (h : R t t') :
      Rel R (.callingNewOnPlainFunction func t.text) (.callingNewOnPlainFunction func t'.text)
  | constructorMustBePascalCase (func : String) {t t' : TypeInst} (h : R t t') :
      Rel R (.constructorMustBePascalCase func t.text) (.constructorMustBePascalCase func t'.text)
  | constructorThisTypeMustBeObject (func : String) {t t' : TypeInst} (h : R t t') :
      Rel R (.constructorThisTypeMustBeObject func t.text)
        (.constructorThisTypeMustBeObject func t'.text)
  | returnStatementInConstructor (func : String) {t t' : TypeInst} (h : R t t') :
      Rel R (.returnStatementInConstructor func t.text)
        (.returnStatementInConstructor func t'.text)
  | unionFieldAccess (field : String) {t t' : TypeInst} (h : R t t') :
      Rel R (.unionFieldAccess field t.text) (.unionFieldAccess field t'.text)

/-- The diagnostics are about the same location, and the same up to the texts of types related
by `R`. -/
structure Diagnostic.Rel (R : TypeInst → TypeInst → Prop) (d d' : Diagnostic) : Prop where
  kind : DiagnosticKind.Rel R d.kind d'.kind
  loc : d.loc = d'.loc

/-! ### States -/

/-- What the loading of a header depends on. -/
structure Setting where
  fileName : String
  loader : Loader
  loads : Nat
  nextInstance : Nat

/-- Which states of two checks correspond. -/
structure Correspondence where
  /-- The program that both check. -/
  root : Node
  /-- The types that stand for each other. -/
  type : TypeInst → TypeInst → Prop
  /-- The names whose bindings correspond. -/
  names : String → Prop
  setting : Setting → Setting → Prop

namespace Env

/-- What the loading of the header depends on. -/
def setting (env : Env) : Setting := ⟨env.fileName, env.loader, env.loads, env.nextInstance⟩

/-- The states are the same up to corresponding types. -/
structure Rel (C : Correspondence) (env env' : Env) : Prop where
  root : env.root = C.root
  root' : env'.root = C.root
  scopes : List.Forall₂ (Scope.Rel C.type C.names) env.scopes env'.scopes
  current : env.current = env'.current
  errors : List.Forall₂ (Diagnostic.Rel C.type) env.errors env'.errors
  fatal : env.fatal = env'.fatal
  exports : env.exports = env'.exports
  log : env.log = env'.log
  setting : C.setting env.setting env'.setting

theorem rel_start {C : Correspondence} {fileName fileName' : String} {loader loader' : Loader}
    (hrequire : C.type Scope.requireType Scope.requireType)
    (hmodule : C.type Scope.moduleType Scope.moduleType)
    (hsetting : C.setting ⟨fileName, loader, 0, 1⟩ ⟨fileName', loader', 0, 1⟩) :
    Rel C (start C.root fileName loader) (start C.root fileName' loader') where
  root := rfl
  root' := rfl
  scopes := .cons (Scope.rel_program hrequire hmodule) (.cons ⟨.file, fun _ _ => .none, rfl⟩ .nil)
  current := rfl
  errors := .nil
  fatal := rfl
  exports := rfl
  log := rfl
  setting := hsetting

theorem signature_rel {S : Nat → Nat → Prop} {R : TypeInst → TypeInst → Prop}
    (hR : Ty.Similarity S R) {type type' : TypeInst} (h : R type type') :
    List.Forall₂ R (signature type).1 (signature type').1 ∧
      R (signature type).2 (signature type').2 := by
  unfold signature
  have hshape := hR type type' h
  generalize type.shape = s, type'.shape = s' at hshape
  cases hshape with
  | function hargs hreceiver hresult => exact ⟨hargs, hresult⟩
  | _ => exact ⟨.nil, h⟩

namespace Rel

variable {C : Correspondence} {env env' : Env} (h : Rel C env env')
include h

theorem note (event : Event) : Rel C (env.note event) (env'.note event) where
  __ := h
  log := congrArg (· ++ [event]) h.log

theorem report {d d' : Diagnostic} (hd : Diagnostic.Rel C.type d d') :
    Rel C (env.report d) (env'.report d') where
  __ := h
  errors := List.rel_append h.errors (.cons hd .nil)

theorem lookup {name : String} (hname : C.names name) :
    Option.Rel (Binding.Rel C.type) (env.lookup name) (env'.lookup name) := by
  unfold Env.lookup Scope.lookup
  rw [h.current, h.scopes.length_eq]
  exact Scope.lookupWithin_rel h.scopes hname _ _

theorem currentScope? :
    Option.Rel (Scope.Rel C.type C.names) env.currentScope? env'.currentScope? := by
  unfold Env.currentScope?
  rw [h.current]
  exact forall₂_getElem? h.scopes _

theorem currentFunction? :
    Option.Rel (FunctionState.Rel C.type) env.currentFunction? env'.currentFunction? := by
  unfold Env.currentFunction?
  have hscope := h.currentScope?
  generalize env.currentScope? = s, env'.currentScope? = s' at hscope
  cases hscope with
  | none => exact .none
  | some hscope => exact hscope.function?

theorem modifyScope {g g' : Scope → Scope}
    (hg : ∀ s s', Scope.Rel C.type C.names s s' → Scope.Rel C.type C.names (g s) (g' s')) :
    Rel C (env.modifyScope g) (env'.modifyScope g') := by
  unfold Env.modifyScope
  rw [h.current]
  exact { h with scopes := forall₂_modify hg h.scopes _, current := rfl }

theorem bind (name : String) {type type' : TypeInst} (htype : C.type type type')
    (origin : Origin) : Rel C (env.bind name type origin) (env'.bind name type' origin) :=
  h.modifyScope fun _ _ hs => hs.bind name htype origin

theorem modifyFunction {g : FunctionState → FunctionState}
    (hg : ∀ f f', FunctionState.Rel C.type f f' → FunctionState.Rel C.type (g f) (g f')) :
    Rel C (env.modifyFunction g) (env'.modifyFunction g) := by
  refine h.modifyScope ?_
  rintro ⟨kind, bindings, parent⟩ ⟨kind', bindings', parent'⟩ ⟨hkind, hfind, hparent⟩
  cases hkind with
  | program => exact ⟨.program, hfind, hparent⟩
  | file => exact ⟨.file, hfind, hparent⟩
  | function hf => exact ⟨.function (hg _ _ hf), hfind, hparent⟩

theorem announceHeader (hfile : env.fileName = env'.fileName)
    (hpath : env.loader.path? (Header.fileName env.fileName) =
      env'.loader.path? (Header.fileName env.fileName))
    (hsetting : C.setting env.countLoad.setting env'.countLoad.setting) :
    Rel C env.announceHeader env'.announceHeader := by
  unfold Env.announceHeader
  rw [← hfile]
  generalize Header.fileName env.fileName = name at hpath
  have hcount : Rel C env.countLoad env'.countLoad := { h with setting := hsetting }
  have hnote := hcount.note (.loadingHeader name)
  have hpath' : (env.countLoad.note (.loadingHeader name)).loader.path? name =
      (env'.countLoad.note (.loadingHeader name)).loader.path? name := hpath
  dsimp only
  rw [hpath']
  split
  · exact hnote.note _
  · exact hnote

theorem setExports (body : List Node) : Rel C (env.setExports body) (env'.setExports body) := by
  unfold Env.setExports
  split
  · exact { h with exports := rfl }
  · exact h

theorem enterFunction {S : Nat → Nat → Prop} (hsimilar : Ty.Similarity S C.type) (name : String)
    (params : List Node) {type type' : TypeInst} (htype : C.type type type') :
    Rel C (env.enterFunction name params type) (env'.enterFunction name params type') := by
  obtain ⟨hargs, hresult⟩ := signature_rel hsimilar htype
  have hscope : Scope.Rel C.type C.names
      ⟨.function (.start name (signature type).2), [], some env.current⟩
      ⟨.function (.start name (signature type').2), [], some env'.current⟩ :=
    ⟨.function (.start name hresult), fun _ _ => .none, congrArg some h.current⟩
  exact {
    h.note (.enteringFunction name) with
    scopes := List.rel_append h.scopes (.cons (hscope.bindParams params hargs) .nil)
    current := h.scopes.length_eq }

theorem exitFunction :
    Option.Rel (FunctionState.Rel C.type) env.exitFunction.1 env'.exitFunction.1 ∧
      Rel C env.exitFunction.2 env'.exitFunction.2 := by
  unfold Env.exitFunction
  rw [h.current, h.scopes.length_eq]
  split
  · have hscope := h.currentScope?
    generalize env.currentScope? = s, env'.currentScope? = s' at hscope
    cases hscope with
    | none => exact ⟨.none, h⟩
    | @some s s' hscope =>
      obtain ⟨kind, bindings, parent⟩ := s
      obtain ⟨kind', bindings', parent'⟩ := s'
      obtain ⟨hkind, -, rfl⟩ := hscope
      cases hkind with
      | program => exact ⟨.none, h⟩
      | file => exact ⟨.none, h⟩
      | @function f f' hf =>
        refine ⟨.some hf, ?_⟩
        dsimp only
        rw [hf.name]
        exact { h.note (.exitingFunction f'.name) with
          scopes := forall₂_dropLast h.scopes
          current := rfl }
  · exact ⟨.none, h⟩

end Rel

end Env

end SigCheck
