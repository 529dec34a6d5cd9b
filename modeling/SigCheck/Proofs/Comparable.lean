import Mathlib.Logic.Function.Iterate
import SigCheck.Proofs.Visiting

/-!
# Headers that every type can be compared with

A fault of a comparison either lies in the declared type alone, which is of a shape or has a name
that nothing is compared with, or comes from the two types together.  Faults of the first sort
cannot happen if the declared type is `Ty.Comparable`: it is made of literals with known names,
generic types, functions and objects (`Ty.Comparable.compareBy`).

The types that a check declares and infers are the types of literals, the type of `module`, and
parts of the types in the header.  So the header decides alone: if its types are comparable and the
program does not use `require`, whose type is not, then no check of the program ends in a fault of
the first sort (`Env.fault_of_comparable_header`).  `Env.Comparable` is what a check keeps.
-/

namespace SigCheck

variable {ι τ σ : Type} {names names' : List String}

/-- The fault lies in the declared type alone. -/
def Fault.inDeclared : Fault → Bool
  | unsupportedParent _ | nonBuiltinLiteral _ | unknownBuiltin _ => true
  | builtinMismatch _ _ | genericArity _ _ | functionArgs _ _ | objectFields _ _ => false

/-! ### Comparable types -/

/-- A shape that something is compared with, if names are among `names`. -/
def Shape.Comparable (names : List String) : Shape ι τ → Prop
  | .literal name builtin => builtin = true ∧ name ∈ names
  | .generic _ _ | .function _ _ _ | .object _ _ => True
  | .value _ | .union _ | .intersection _ | .tuple _ => False

/-- All parts of the type have comparable shapes. -/
inductive Ty.Comparable (names : List String) : Ty ι → Prop
  | intro {t : Ty ι} (hshape : t.shape.Comparable names)
      (hchildren : ∀ c ∈ t.shape.children, Comparable names c) : Comparable names t

/-- The names of types that a header may use. -/
def comparableNames : List String := ["String", "Number", "Object", "Array", "void"]

/-- The names of types that a check may use: also that of the exports of a module. -/
def usedNames : List String := Ty.moduleExports :: comparableNames

namespace Ty

theorem Comparable.children {t c : Ty ι} (h : t.Comparable names) (hc : c ∈ t.shape.children) :
    c.Comparable names := by
  cases h with
  | intro _ hchildren => exact hchildren c hc

theorem Comparable.mono (hnames : names ⊆ names') {t : Ty ι} (h : t.Comparable names) :
    t.Comparable names' := by
  induction h with
  | @intro t hshape _ ih =>
    refine .intro ?_ ih
    obtain ⟨shape, label, optional, raw⟩ := t
    cases shape with
    | literal name builtin => exact ⟨hshape.1, hnames hshape.2⟩
    | _ => exact hshape

theorem comparable_literal {name : String} (hbuiltin : isBuiltinName name = true)
    (hname : name ∈ names) : (literal name : Ty ι).Comparable names :=
  .intro ⟨hbuiltin, hname⟩ nofun

end Ty

/-! ### Faults of comparisons -/

/-- The verdict is no fault that lies in the declared type. -/
def Verdict.Covered (v : Verdict ι) : Prop := ∀ f, v = .fault f → f.inDeclared = false

namespace Verdict

variable {v w : Verdict ι}

theorem covered_compatible : (compatible : Verdict ι).Covered := nofun

theorem covered_mismatch (expected actual : Ty ι) : (mismatch expected actual).Covered := nofun

theorem covered_fault {f : Fault} (h : f.inDeclared = false) : (fault f : Verdict ι).Covered := by
  rintro g ⟨⟩
  exact h

theorem Covered.andThen (hv : v.Covered) (hw : w.Covered) : (v.andThen w).Covered := by
  cases v with
  | compatible => exact hw
  | mismatch expected actual => exact covered_mismatch expected actual
  | fault f => exact hv

theorem Covered.reportedAs (hv : v.Covered) (expected actual : Ty ι) :
    (v.reportedAs expected actual).Covered := by
  cases v with
  | compatible => exact covered_compatible
  | mismatch _ _ => exact covered_mismatch expected actual
  | fault f => exact hv

theorem covered_all_zipWith {α β : Type} {g : α → β → Verdict ι} {as : List α}
    (h : ∀ a ∈ as, ∀ b, (g a b).Covered) (bs : List β) : (all (List.zipWith g as bs)).Covered := by
  induction as generalizing bs with
  | nil => exact covered_compatible
  | cons a as ih =>
    obtain ⟨ha, has⟩ := List.forall_mem_cons.1 h
    cases bs with
    | nil => exact covered_compatible
    | cons b bs => exact (ha b).andThen (ih has bs)

end Verdict

namespace Ty

open Verdict

variable {parent child : Ty ι}

theorem covered_compareLiteral {name : String} (hname : name ∈ usedNames) :
    (compareLiteral parent name true child).Covered := by
  unfold compareLiteral
  rw [if_neg (by simp)]
  split
  · exact covered_compatible
  · rename_i hexports
    split
    · exact covered_mismatch parent child
    · rename_i actual _
      split
      · split
        · exact covered_compatible
        · exact covered_fault rfl
      · rename_i hnot
        -- all other names have been asked for
        have hstring : name = "String" ∨ name = "Number" := by
          simp only [usedNames, comparableNames, List.mem_cons, List.not_mem_nil, or_false] at hname
          grind
        rw [if_pos hstring]
        split
        · exact covered_compatible
        · exact covered_mismatch parent child

theorem covered_compareGeneric {base : Comparison ι} {params : List (Comparison ι)}
    (hbase : ∀ u, (base u).Covered) (hparams : ∀ c ∈ params, ∀ u, (c u).Covered) :
    (compareGeneric parent base params child).Covered := by
  unfold compareGeneric
  split
  · refine (hbase _).andThen ?_
    split
    · exact (covered_all_zipWith hparams _).reportedAs parent child
    · exact covered_fault rfl
  · exact covered_mismatch parent child

theorem covered_compareFunction {args : List (Comparison ι)} {receiver : Option (Comparison ι)}
    {result : Comparison ι} (hargs : ∀ c ∈ args, ∀ u, (c u).Covered)
    (hreceiver : ∀ c ∈ receiver, ∀ u, (c u).Covered) (hresult : ∀ u, (result u).Covered) :
    (compareFunction parent args receiver result child).Covered := by
  unfold compareFunction
  split
  · refine (hresult _).andThen (Covered.andThen ?_ ?_)
    · unfold compareReceivers
      split
      · exact hreceiver _ rfl _
      · exact covered_compatible
      · exact covered_mismatch parent child
    · split
      · exact covered_all_zipWith hargs _
      · exact covered_fault rfl
  · exact covered_mismatch parent child

theorem covered_compareObject {sameInstance : ι → ι → Bool} {id : ι}
    {fields : List (Field (Comparison ι))} (hfields : ∀ f ∈ fields, ∀ u, (f.type u).Covered) :
    (compareObject sameInstance parent id fields child).Covered := by
  unfold compareObject
  split
  · split
    · exact covered_compatible
    · split
      · exact covered_all_zipWith (fun f hf f' => hfields f hf f'.type) _
      · exact covered_fault rfl
  · exact covered_mismatch parent child

/-- Comparing with a comparable type gives no fault that lies in this type. -/
theorem Comparable.compareBy {t : Ty ι} (h : t.Comparable usedNames)
    (sameInstance : ι → ι → Bool) : ∀ u, (compareBy sameInstance t u).Covered := by
  induction h with
  | @intro t hshape _ ih =>
    intro u
    rw [Ty.compareBy, fold_eq]
    obtain ⟨shape, label, optional, raw⟩ := t
    cases shape with
    | literal name builtin =>
      obtain ⟨rfl, hname⟩ := hshape
      exact covered_compareLiteral hname
    | generic base params =>
      refine covered_compareGeneric (ih base (List.mem_cons_self ..)) ?_
      intro c hc
      obtain ⟨t, ht, rfl⟩ := List.mem_map.1 hc
      exact ih t (List.mem_cons_of_mem _ ht)
    | function args receiver result =>
      refine covered_compareFunction ?_ ?_ (ih result (by simp [Shape.children]))
      · intro c hc
        obtain ⟨t, ht, rfl⟩ := List.mem_map.1 hc
        exact ih t (by simp [Shape.children, ht])
      · intro c hc
        obtain ⟨t, ht, rfl⟩ := Option.map_eq_some_iff.1 hc
        exact ih t (by simp [Shape.children, ht])
    | object id fields =>
      refine covered_compareObject ?_
      intro c hc
      obtain ⟨f, hf, rfl⟩ := List.mem_map.1 hc
      exact ih f.type (List.mem_map_of_mem hf)
    | value _ | union _ | intersection _ | tuple _ => exact hshape.elim

end Ty

/-! ### Types taken into use -/

/-- The result is one that a step of the list gives, from some state. -/
theorem exists_of_mem_mapM {α β : Type} {g : α → StateM Nat β} {as : List α} {k : Nat} {b : β}
    (h : b ∈ ((as.mapM g).run k).1) : ∃ a ∈ as, ∃ k', b = ((g a).run k').1 := by
  induction as generalizing k with
  | nil => cases h
  | cons a as ih =>
    rw [List.mapM_cons] at h
    rcases List.mem_cons.1 h with rfl | h
    · exact ⟨a, List.mem_cons_self .., k, rfl⟩
    · obtain ⟨a', ha', k', rfl⟩ := ih h
      exact ⟨a', List.mem_cons_of_mem _ ha', k', rfl⟩

namespace Shape

variable {s : Shape Unit (StateM Nat τ)} {k : Nat}

theorem comparable_number (h : s.Comparable names) : (s.number.run k).1.Comparable names := by
  cases s with
  | literal name builtin => exact h
  | generic base params => trivial
  | function args receiver result => cases receiver <;> trivial
  | object id fields => trivial
  | value _ | union _ | intersection _ | tuple _ => exact h.elim

theorem exists_of_mem_children_number {c : τ} (hc : c ∈ (s.number.run k).1.children) :
    ∃ m ∈ s.children, ∃ k', c = (m.run k').1 := by
  cases s with
  | literal name builtin => cases hc
  | value text => cases hc
  | generic base params =>
    rcases List.mem_cons.1 hc with rfl | hc
    · exact ⟨base, List.mem_cons_self .., k, rfl⟩
    · obtain ⟨m, hm, hk⟩ := exists_of_mem_mapM hc
      exact ⟨m, List.mem_cons_of_mem _ hm, hk⟩
  | function args receiver result =>
    -- arguments come first in the numbering, and the receiver first among the smaller types
    have hargs : c ∈ ((args.mapM id).run k).1 →
        ∃ m ∈ (function args receiver result : Shape Unit _).children, ∃ k', c = (m.run k').1 := by
      intro hc
      obtain ⟨m, hm, hk⟩ := exists_of_mem_mapM hc
      exact ⟨m, by simp [children, show m ∈ args from hm], hk⟩
    cases receiver with
    | none =>
      rcases List.mem_append.1 hc with hc | hc
      · exact hargs hc
      · exact ⟨result, by simp [children], _, List.mem_singleton.1 hc⟩
    | some receiver =>
      rcases List.mem_append.1 hc with hc | hc
      · rcases List.mem_cons.1 hc with rfl | hc
        · exact ⟨receiver, by simp [children], _, rfl⟩
        · exact hargs hc
      · exact ⟨result, by simp [children], _, List.mem_singleton.1 hc⟩
  | object id fields =>
    obtain ⟨f, hf, rfl⟩ := List.mem_map.1 hc
    obtain ⟨m, hm, k', rfl⟩ := exists_of_mem_mapM hf
    exact ⟨m.type, List.mem_map_of_mem hm, k', rfl⟩
  | union members => exact exists_of_mem_mapM hc
  | intersection members => exact exists_of_mem_mapM hc
  | tuple items => exact exists_of_mem_mapM hc

theorem comparable_map {g : σ → τ} {s : Shape ι σ} :
    (s.map g).Comparable names ↔ s.Comparable names := by
  cases s <;> rfl

end Shape

/-- A comparable type stays comparable when it is taken into use. -/
theorem Ty.Comparable.number {t : TypeExpr} (h : t.Comparable names) (k : Nat) :
    (t.number.run k).1.Comparable names := by
  induction h generalizing k with
  | @intro t hshape _ ih =>
    rw [Ty.number, Ty.fold_eq]
    refine .intro (Shape.comparable_number (Shape.comparable_map.2 hshape)) ?_
    intro c hc
    obtain ⟨m, hm, k', rfl⟩ := Shape.exists_of_mem_children_number hc
    rw [Shape.children_map] at hm
    obtain ⟨d, hd, rfl⟩ := List.mem_map.1 hm
    exact ih d hd k'

/-! ### States -/

/-- All types that the scope binds are comparable, except that of `require`, and so is the type that
its function gives. -/
structure Scope.Comparable (s : Scope) : Prop where
  bound : ∀ name b, s.bindings.find? name = some b → name ≠ "require" →
    b.type.Comparable usedNames
  role : ∀ f ∈ s.function?, f.role.type.Comparable usedNames

/-- The program does not use `require`, and the types of the header and in all scopes are
comparable. -/
structure Env.Comparable (env : Env) : Prop where
  program : env.root.All fun n => n.ownName? ≠ some "require"
  header : ∀ asked header, env.loader.load asked (Header.fileName env.fileName) = .ok header →
    ∀ signature ∈ header.signatures, signature.2.Comparable comparableNames
  scopes : ∀ s ∈ env.scopes, s.Comparable

namespace Scope

variable {s : Scope}

theorem Comparable.bind (h : s.Comparable) {name : String} {type : TypeInst}
    (htype : type.Comparable usedNames) (origin : Origin) :
    (s.bind name type origin).Comparable where
  bound other b hb hother := by
    rw [Scope.bind, Bindings.find?_insert] at hb
    split at hb
    · cases hb
      exact htype
    · exact h.bound other b hb hother
  role := h.role

theorem comparable_bindParams (params : List Node) (args : List TypeInst) (s : Scope)
    (hs : s.Comparable) (hargs : ∀ t ∈ args, t.Comparable usedNames) :
    (Env.bindParams params args s).Comparable := by
  induction params, args, s using Env.bindParams.induct with
  | case1 param params arg args s ih =>
    rw [Env.bindParams]
    obtain ⟨harg, hargs⟩ := List.forall_mem_cons.1 hargs
    refine ih ?_ hargs
    split
    · exact hs.bind harg .parameter
    · exact hs
  | case2 params args s h =>
    rw [Env.bindParams]
    · exact hs
    · exact h

theorem comparable_of_lookup {scopes : List Scope} (hscopes : ∀ s ∈ scopes, s.Comparable)
    {name : String} (hname : name ≠ "require") {i : Nat} {b : Binding}
    (h : lookup scopes name i = some b) : b.type.Comparable usedNames := by
  rw [lookup] at h
  generalize scopes.length = n at h
  induction n generalizing i with
  | zero => cases h
  | succ n ih =>
    rw [lookupWithin] at h
    split at h
    · cases h
    · rename_i s hs
      split at h
      · rename_i b' hb'
        cases h
        exact (hscopes s (List.mem_of_getElem? hs)).bound name b hb' hname
      · obtain ⟨parent, -, h⟩ := Option.bind_eq_some_iff.1 h
        exact ih h

end Scope

namespace Env

variable {env : Env}

theorem comparable_start {root : Node} {fileName : String} {loader : Loader}
    (hprogram : root.All fun n => n.ownName? ≠ some "require")
    (hheader : ∀ asked header, loader.load asked (Header.fileName fileName) = .ok header →
      ∀ signature ∈ header.signatures, signature.2.Comparable comparableNames) :
    (start root fileName loader).Comparable where
  program := hprogram
  header := hheader
  scopes s hs := by
    have hfile : Scope.file.Comparable := ⟨nofun, nofun⟩
    have hexports : (Ty.literal Ty.moduleExports : TypeInst).Comparable usedNames :=
      Ty.comparable_literal rfl (List.mem_cons_self ..)
    have hmodule : Scope.moduleType.Comparable usedNames :=
      .intro trivial (List.forall_mem_singleton.2 hexports)
    -- the type of `require` is not comparable, but no other name stands for it
    have hrequire : ((⟨.program, [], none⟩ : Scope).bind "require" Scope.requireType
        .requireFunction).Comparable := by
      refine ⟨fun name b hb hname => ?_, nofun⟩
      rw [Scope.bind, Bindings.find?_insert, if_neg hname] at hb
      cases hb
    simp only [start, List.mem_cons, List.not_mem_nil, or_false] at hs
    rcases hs with rfl | rfl
    · exact hrequire.bind hmodule .moduleObject
    · exact hfile

theorem Comparable.modifyScope (h : env.Comparable) {g : Scope → Scope}
    (hg : ∀ s : Scope, s.Comparable → (g s).Comparable) : (env.modifyScope g).Comparable where
  program := h.program
  header := h.header
  scopes s hs := by
    obtain ⟨i, hi⟩ := List.getElem?_of_mem hs
    rw [Env.modifyScope, List.getElem?_modify] at hi
    obtain ⟨t, ht, rfl⟩ := Option.map_eq_some_iff.1 hi
    have htcomparable := h.scopes t (List.mem_of_getElem? ht)
    split
    · exact hg t htcomparable
    · exact htcomparable

theorem Comparable.bind (h : env.Comparable) {type : TypeInst}
    (htype : type.Comparable usedNames) (name : String) (origin : Origin) :
    (env.bind name type origin).Comparable :=
  h.modifyScope fun _ hs => hs.bind htype origin

theorem Comparable.modifyFunction (h : env.Comparable) {g : FunctionState → FunctionState}
    (hg : ∀ f, (g f).role = f.role) : (env.modifyFunction g).Comparable := by
  refine h.modifyScope fun s hs => ?_
  split
  · rename_i f hkind
    refine ⟨hs.bound, ?_⟩
    rintro g' ⟨⟩
    rw [hg]
    exact hs.role f (by simp [Scope.function?, hkind])
  · exact hs

theorem Comparable.instantiate (h : env.Comparable) {type : TypeExpr}
    (htype : type.Comparable names) :
    (env.instantiate type).1.Comparable names ∧ (env.instantiate type).2.Comparable :=
  ⟨htype.number env.nextInstance, h.program, h.header, h.scopes⟩

theorem Comparable.bindSignatures {signatures : List (String × TypeExpr)}
    (hsignatures : ∀ signature ∈ signatures, signature.2.Comparable comparableNames)
    (h : env.Comparable) : (bindSignatures signatures env).Comparable := by
  induction signatures generalizing env with
  | nil => exact h
  | cons signature signatures ih =>
    obtain ⟨htype, hrest⟩ := List.forall_mem_cons.1 hsignatures
    obtain ⟨hinstance, henv⟩ := h.instantiate htype
    exact ih hrest (henv.bind (hinstance.mono (List.subset_cons_self ..)) signature.1 .header)

theorem Comparable.loadHeader (h : env.Comparable) : env.loadHeader.Comparable := by
  have hannounce : env.announceHeader.Comparable := by
    unfold announceHeader
    dsimp only
    split
    · exact ⟨h.program, h.header, h.scopes⟩
    · exact ⟨h.program, h.header, h.scopes⟩
  rw [loadHeader_eq]
  split
  · rename_i header hheader
    have hbind := hannounce.bindSignatures (h.header env.loads header hheader)
    exact ⟨hbind.program, hbind.header, hbind.scopes⟩
  · exact ⟨hannounce.program, hannounce.header, hannounce.scopes⟩

theorem comparable_signature {type : TypeInst} (h : type.Comparable usedNames) :
    (∀ t ∈ (signature type).1, t.Comparable usedNames) ∧
      (signature type).2.Comparable usedNames := by
  unfold signature
  split
  · rename_i args receiver result hshape
    exact ⟨fun t ht => h.children (by simp [hshape, Shape.children, ht]),
      h.children (by simp [hshape, Shape.children])⟩
  · exact ⟨List.forall_mem_nil _, h⟩

theorem Comparable.enterFunction (h : env.Comparable) (name : String) (params : List Node)
    {type : TypeInst} (htype : type.Comparable usedNames) :
    (env.enterFunction name params type).Comparable where
  program := h.program
  header := h.header
  scopes s hs := by
    obtain ⟨hargs, hresult⟩ := comparable_signature htype
    have hstart : (FunctionState.start name (signature type).2).role.type.Comparable usedNames := by
      rw [FunctionState.type_start]
      exact hresult
    rcases List.mem_append.1 hs with hs | hs
    · exact h.scopes s hs
    · rw [List.mem_singleton.1 hs]
      refine Scope.comparable_bindParams params _ _ ⟨nofun, ?_⟩ hargs
      rintro f ⟨⟩
      exact hstart

theorem Comparable.exitFunction (h : env.Comparable) : env.exitFunction.2.Comparable := by
  unfold Env.exitFunction
  split
  · split
    · exact ⟨h.program, h.header, fun s hs => h.scopes s (List.dropLast_subset _ hs)⟩
    · exact h
  · exact h

/-! ### Checks -/

/-- Steps keep all types comparable, and end in no fault that lies in a declared type. -/
def comparing : Visit.Contract where
  inv := Comparable
  rel _ _ := True
  fault f := f.inDeclared = false
  refl _ := trivial
  trans _ _ := trivial

theorem comparing_steps : Visit.Steps comparing (fun n => n.ownName? ≠ some "require")
    fun t => t.Comparable usedNames where
  children _ h _ hc := h.children hc
  literal name hname := by
    simp only [List.mem_cons, List.not_mem_nil, or_false] at hname
    rcases hname with rfl | rfl | rfl <;> exact Ty.comparable_literal (by decide) (by decide)
  lookup env n name henv hn hname b hb :=
    Scope.comparable_of_lookup henv.scopes (fun h => hn (h ▸ hname)) hb
  function env henv f hf := by
    obtain ⟨s, hs, hf⟩ := Option.bind_eq_some_iff.1 hf
    exact (henv.scopes s (List.mem_of_getElem? hs)).role f hf
  compare t u f ht _ hf := ht.compareBy _ u f hf
  report _ _ _ _ _ henv := ⟨⟨henv.program, henv.header, henv.scopes⟩, trivial⟩
  skipFunction _ _ henv := ⟨⟨henv.program, henv.header, henv.scopes⟩, trivial⟩
  skipNode _ _ henv := ⟨⟨henv.program, henv.header, henv.scopes⟩, trivial⟩
  bind _ _ name _ henv _ _ ht _ := ⟨henv.bind ht name _, trivial⟩
  foundReturn _ _ _ _ _ henv := ⟨henv.modifyFunction fun _ => rfl, trivial⟩
  assigned _ _ _ _ _ _ _ _ _ _ _ henv := ⟨henv.modifyFunction fun _ => rfl, trivial⟩
  setExports _ body _ _ env henv := by
    refine ⟨?_, trivial⟩
    unfold setExports
    split
    · exact ⟨henv.program, henv.header, henv.scopes⟩
    · exact henv
  loadHeader _ _ _ henv _ _ _ := ⟨henv.loadHeader, trivial⟩
  enterFunction _ _ name params _ _ _ _ henv _ _ _ ht _ _ := henv.enterFunction name params ht
  exitFunction _ _ _ _ _ _ henv' _ := ⟨henv'.exitFunction, trivial⟩

theorem Comparable.check (h : env.Comparable) :
    env.check.2.Comparable ∧ ∀ f, env.check.1 = .error f → f.inDeclared = false := by
  obtain ⟨hinv, -, hfault⟩ := comparing_steps.visit h.program env h
  refine ⟨hinv, fun f hf => ?_⟩
  change Except.map _ (env.visit env.root).1 = .error f at hf
  split at hfault
  · rename_i t ht
    cases (congrArg (Except.map fun _ => ()) ht).symm.trans hf
  · rename_i f' hf'
    cases (congrArg (Except.map fun _ => ()) hf').symm.trans hf
    exact hfault

/-- **The header alone decides whether a check can meet a type that nothing is compared with.** -/
theorem fault_of_comparable_header (root : Node) (fileName : String) (loader : Loader)
    (hheader : ∀ asked header, loader.load asked (Header.fileName fileName) = .ok header →
      ∀ signature ∈ header.signatures, signature.2.Comparable comparableNames)
    (hprogram : root.All fun n => n.ownName? ≠ some "require") (passes : Nat) (f : Fault)
    (hf : ((fun env => env.check.2)^[passes] (start root fileName loader)).check.1 = .error f) :
    f.inDeclared = false := by
  have hpasses := Function.Iterate.rec Comparable (comparable_start hprogram hheader)
    (fun _ h => h.check.1) passes
  exact hpasses.check.2 f hf

/-- A node at the start of its file. -/
def firstNode (kind : NodeKind Node) : Node := ⟨⟨⟨1, 0⟩, ⟨1, 0⟩⟩, kind⟩

/-- A function `make` that returns a number. -/
def makeProgram : Node :=
  firstNode (.program [firstNode (.functionDeclaration "make" [firstNode (.identifier "name")]
    (firstNode (.returnStatement (some (firstNode (.literal (some "1")))))))])

/-- The one header that declares `make : (String) => Object`. -/
def makeLoader : Loader where
  load _ _ := .ok ⟨[.assigns ⟨"make",
    .ofShape (.function [.literal "String"] none (.literal "Object"))⟩]⟩
  path? _ := none

theorem fault_of_comparable_header_make :
    (∀ asked header, makeLoader.load asked (Header.fileName "make.js") = .ok header →
      ∀ signature ∈ header.signatures, signature.2.Comparable comparableNames) ∧
    (makeProgram.All fun n => n.ownName? ≠ some "require") ∧
    ((fun env => env.check.2)^[1] (start makeProgram "make.js" makeLoader)).check.1 =
      .error (.builtinMismatch "Object" "Number") ∧
    (Fault.builtinMismatch "Object" "Number").inDeclared = false := by
  have hheader : ∀ asked header, makeLoader.load asked (Header.fileName "make.js") = .ok header →
      ∀ signature ∈ header.signatures, signature.2.Comparable comparableNames := by
    rintro asked header ⟨⟩
    refine List.forall_mem_singleton.2 (.intro trivial ?_)
    refine List.forall_mem_cons.2 ⟨?_, List.forall_mem_singleton.2 ?_⟩
    · exact Ty.comparable_literal (by decide) (by decide)
    · exact Ty.comparable_literal (by decide) (by decide)
  have hprogram : makeProgram.All fun n => n.ownName? ≠ some "require" := by
    refine .intro (by decide) (List.forall_mem_singleton.2 (.intro (by decide) ?_))
    refine List.forall_mem_cons.2 ⟨.intro (by decide) nofun, List.forall_mem_singleton.2 ?_⟩
    exact .intro (by decide) (List.forall_mem_singleton.2 (.intro (by decide) nofun))
  have hfault : ((fun env => env.check.2)^[1] (start makeProgram "make.js" makeLoader)).check.1 =
      .error (.builtinMismatch "Object" "Number") := rfl
  exact ⟨hheader, hprogram, hfault,
    fault_of_comparable_header makeProgram "make.js" makeLoader hheader hprogram 1 _ hfault⟩

end Env

end SigCheck
