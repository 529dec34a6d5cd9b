import SigCheck.Proofs.Frame
import SigCheck.Proofs.Sessions

/-!
# The stack of scopes

Scopes name their parents by place, so nothing but the way the operations work keeps a parent from
being missing, or the links from going round in a circle.  `Env.Stacked` says that the scopes are a
stack: the scope of the program, that of the file, and then only functions, each with the scope
before it as its parent; the last scope is the current one.

* What leaves the frame (`Env.Framed`) leaves a stack, entering a function puts one scope on it, and
  leaving a function takes the last one off or does nothing.  So the scopes are a stack after any
  operations, however they are mixed (`Env.Stacked.perform`), and at every node of every visit.
* On a stack the search for a name meets only scopes that exist, ends, and finds the binding in the
  last scope that has one (`Env.Stacked.finds`, `Env.Stacked.lookup_eq`).

What is known of the functions on the stack is a parameter, so that it can be more where less can
happen: a visit enters a constructor only if its receiver is an object with fields.
-/

namespace SigCheck

/-! ### Functions -/

namespace FunctionState

/-- The function is a constructor if its name is that of one.  A constructor has a receiver and no
result, a plain function a result and no receiver. -/
structure Classified (f : FunctionState) : Prop where
  named : f.isConstructor = isConstructorName f.name
  receiver : f.receiver?.isSome = f.isConstructor
  result : f.result?.isSome = !f.isConstructor

/-- If the function is a constructor, its receiver is an object with fields. -/
def ReceivesObject (f : FunctionState) : Prop := ∀ t ∈ f.receiver?, t.isNonEmptyObject = true

/-- What the body of a function does makes no difference to the property. -/
def Stable (P : FunctionState → Prop) : Prop := ∀ f g : FunctionState, f.Extends g → P f → P g

variable {f g : FunctionState}

theorem Extends.receiver?_eq (h : f.Extends g) : g.receiver? = f.receiver? := by
  unfold receiver?
  rw [h.role]

theorem Extends.result?_eq (h : f.Extends g) : g.result? = f.result? := by
  unfold result?
  rw [h.role]

theorem stable_classified : Stable Classified := by
  intro f g h hf
  have hconstructor : g.isConstructor = f.isConstructor :=
    congrArg Option.isSome h.receiver?_eq
  refine ⟨?_, rfl, ?_⟩
  · rw [hconstructor, h.name]
    exact hf.named
  · rw [hconstructor, h.result?_eq]
    exact hf.result

theorem stable_receivesObject : Stable ReceivesObject := by
  intro f g h hf t ht
  rw [h.receiver?_eq] at ht
  exact hf t ht

theorem classified_start (name : String) (result : TypeInst) : (start name result).Classified := by
  by_cases h : isConstructorName name = true
  · refine ⟨?_, rfl, ?_⟩ <;> simp [isConstructor, receiver?, result?, start, h]
  · refine ⟨?_, rfl, ?_⟩ <;> simp [isConstructor, receiver?, result?, start, h]

theorem receivesObject_start {name : String} {result : TypeInst}
    (h : isConstructorName name = true → result.isNonEmptyObject = true) :
    (start name result).ReceivesObject := by
  intro t ht
  by_cases hname : isConstructorName name = true
  · have hrole : (start name result).role = .constructor result := if_pos hname
    rw [receiver?, hrole] at ht
    cases ht
    exact h hname
  · have hrole : (start name result).role = .plain result := if_neg hname
    rw [receiver?, hrole] at ht
    cases ht

end FunctionState

/-! ### Scopes on a stack -/

namespace Scope

/-- The scope stands at the place `i` of a stack whose functions satisfy `P`. -/
inductive StandsAt (P : FunctionState → Prop) : Nat → Scope → Prop
  | program {bindings : Bindings} : StandsAt P 0 ⟨.program, bindings, none⟩
  | file {bindings : Bindings} : StandsAt P 1 ⟨.file, bindings, some 0⟩
  | function {i : Nat} {f : FunctionState} {bindings : Bindings} (h : P f) :
      StandsAt P (i + 2) ⟨.function f, bindings, some (i + 1)⟩

variable {P : FunctionState → Prop} {i : Nat} {s t : Scope}

theorem StandsAt.extends (hP : FunctionState.Stable P) (h : s.StandsAt P i) (hst : s.Extends t) :
    t.StandsAt P i := by
  obtain ⟨kind, bindings, parent⟩ := t
  obtain ⟨hkind, hparent, -⟩ := hst
  dsimp only at hkind hparent
  subst hparent
  cases h with
  | program => cases hkind; exact .program
  | file => cases hkind; exact .file
  | function hf =>
    cases hkind with
    | function hfg => exact .function (hP _ _ hfg hf)

theorem StandsAt.parent_eq (h : s.StandsAt P i) :
    s.parent = if i = 0 then none else some (i - 1) := by
  cases h <;> rfl

/-- The search for a name from a place on, from each scope to its parent, meets only scopes that
exist, and ends with the result. -/
inductive Finds (scopes : List Scope) (name : String) : Option Nat → Option Binding → Prop
  | nowhere : Finds scopes name none none
  | here {i : Nat} {s : Scope} {b : Binding} (hs : scopes[i]? = some s)
      (hb : s.bindings.find? name = some b) : Finds scopes name (some i) (some b)
  | outside {i : Nat} {s : Scope} {result : Option Binding} (hs : scopes[i]? = some s)
      (hb : s.bindings.find? name = none) (h : Finds scopes name s.parent result) :
      Finds scopes name (some i) result

section lookup

variable {scopes : List Scope}
  (hscopes : ∀ (i : Nat) (s : Scope), scopes[i]? = some s → s.StandsAt P i) (name : String)
include hscopes

/-- On a stack, the search goes down place by place. -/
theorem lookupWithin_succ {n : Nat} (hs : scopes[i]? = some s) :
    lookupWithin scopes name (n + 1) i =
      (s.bindings.find? name).or (if i = 0 then none else lookupWithin scopes name n (i - 1)) := by
  have hparent := (hscopes i s hs).parent_eq
  simp only [lookupWithin, hs, hparent]
  cases s.bindings.find? name with
  | some b => rfl
  | none =>
    by_cases hi : i = 0
    · simp [hi]
    · simp [hi]

theorem finds_lookupWithin {n : Nat} (hi : i < scopes.length) (hn : i < n) :
    Finds scopes name (some i) (lookupWithin scopes name n i) := by
  induction n generalizing i with
  | zero => omega
  | succ n ih =>
    have hs := List.getElem?_eq_getElem hi
    rw [lookupWithin_succ hscopes name hs]
    cases hb : (scopes[i]).bindings.find? name with
    | some b => exact .here hs hb
    | none =>
      refine .outside hs hb ?_
      rw [(hscopes _ _ hs).parent_eq]
      by_cases hzero : i = 0
      · rw [if_pos hzero, if_pos hzero]
        exact .nowhere
      · rw [if_neg hzero, if_neg hzero]
        exact ih (by omega) (by omega)

omit hscopes in
theorem findSome?_take_succ (hs : scopes[i]? = some s) :
    (scopes.take (i + 1)).reverse.findSome? (·.bindings.find? name) =
      (s.bindings.find? name).or ((scopes.take i).reverse.findSome? (·.bindings.find? name)) := by
  rw [List.take_add_one, hs, Option.toList_some, List.reverse_append, List.reverse_singleton,
    List.singleton_append, List.findSome?_cons]
  cases s.bindings.find? name <;> rfl

/-- On a stack, a name stands for what it is bound to in the last scope that binds it. -/
theorem lookupWithin_eq {n : Nat} (hi : i < scopes.length) (hn : i < n) :
    lookupWithin scopes name n i =
      (scopes.take (i + 1)).reverse.findSome? (·.bindings.find? name) := by
  induction n generalizing i with
  | zero => omega
  | succ n ih =>
    have hs := List.getElem?_eq_getElem hi
    rw [lookupWithin_succ hscopes name hs, findSome?_take_succ name hs]
    by_cases hzero : i = 0
    · simp [hzero]
    · rw [if_neg hzero, ih (by omega) (by omega), Nat.sub_add_cancel (by omega)]

end lookup

end Scope

/-! ### Stacks -/

namespace Env

/-- The scopes are a stack whose functions satisfy `P`, and the last scope is the current one. -/
structure Stacked (P : FunctionState → Prop) (env : Env) : Prop where
  stands : ∀ (i : Nat) (s : Scope), env.scopes[i]? = some s → s.StandsAt P i
  length : 2 ≤ env.scopes.length
  current : env.current + 1 = env.scopes.length

variable {P : FunctionState → Prop} {env env' : Env}

theorem stacked_start (P : FunctionState → Prop) (root : Node) (fileName : String)
    (loader : Loader) : (start root fileName loader).Stacked P where
  stands i s hs := by
    match i, hs with
    | 0, hs =>
      cases hs
      exact .program
    | 1, hs =>
      cases hs
      exact .file
  length := le_rfl
  current := rfl

theorem Stacked.framed (hP : FunctionState.Stable P) (h : env.Stacked P)
    (hframed : env.Framed env') : env'.Stacked P where
  stands i s hs := by
    by_cases hi : i = env.current
    · subst hi
      have hlt : env.current < env.scopes.length := by
        have := h.current
        omega
      have hcurrent := List.getElem?_eq_getElem hlt
      obtain ⟨s', hs', hextends⟩ := hframed.here _ hcurrent
      rw [currentScope?, hframed.current, hs] at hs'
      cases hs'
      exact (h.stands _ _ hcurrent).extends hP hextends
    · rw [hframed.others i hi] at hs
      exact h.stands i s hs
  length := by
    rw [hframed.length]
    exact h.length
  current := by
    rw [hframed.current, hframed.length]
    exact h.current

theorem Stacked.enterFunction (hP : FunctionState.Stable P) (h : env.Stacked P) {name : String}
    (params : List Node) {type : TypeInst} (hstart : P (.start name (signature type).2)) :
    (env.enterFunction name params type).Stacked P := by
  obtain ⟨s, hscopes, hs⟩ := env.enterFunction_scopes name params type
  obtain ⟨i, hlength⟩ : ∃ i, env.scopes.length = i + 2 := ⟨env.scopes.length - 2, by
    have := h.length
    omega⟩
  have hcurrent : env.current = i + 1 := by
    have := h.current
    omega
  refine ⟨?_, ?_, ?_⟩
  · intro j t ht
    rw [hscopes, List.getElem?_append] at ht
    split at ht
    · exact h.stands j t ht
    · obtain ⟨rfl, rfl⟩ : j = i + 2 ∧ t = s := by
        rw [List.getElem?_singleton] at ht
        split at ht
        · exact ⟨by omega, (Option.some.inj ht).symm⟩
        · cases ht
      rw [hcurrent] at hs
      exact (Scope.StandsAt.function hstart).extends hP hs
  · rw [hscopes, List.length_append]
    omega
  · rw [hscopes, List.length_append]
    rfl

theorem Stacked.exitFunction (h : env.Stacked P) : env.exitFunction.2.Stacked P := by
  unfold Env.exitFunction
  split
  · rename_i hlast
    split
    · rename_i f bindings parent hs
      have hstands := h.stands env.current _ hs
      -- a function stands behind the scopes of the program and of the file
      obtain ⟨i, hi, rfl⟩ : ∃ i, env.current = i + 2 ∧ parent = some (i + 1) := by
        generalize env.current = place at hstands
        cases hstands
        exact ⟨_, rfl, rfl⟩
      have hlength : env.scopes.dropLast.length = i + 2 := by
        rw [List.length_dropLast]
        omega
      refine ⟨fun j s hs => h.stands j s ?_, ?_, hlength.symm⟩
      · rw [List.getElem?_dropLast] at hs
        split at hs
        · exact hs
        · cases hs
      · exact hlength ▸ Nat.le_add_left 2 i
    · exact h
  · exact h

/-- On a stack, the search for a name ends with what the name stands for. -/
theorem Stacked.finds (h : env.Stacked P) (name : String) :
    Scope.Finds env.scopes name (some env.current) (env.lookup name) := by
  have hcurrent := h.current
  exact Scope.finds_lookupWithin h.stands name (by omega) (by omega)

theorem Stacked.lookup_eq (h : env.Stacked P) (name : String) :
    env.lookup name = env.scopes.reverse.findSome? (·.bindings.find? name) := by
  have hcurrent := h.current
  have hlookup := Scope.lookupWithin_eq h.stands name (i := env.current)
    (n := env.scopes.length) (by omega) (by omega)
  rw [hcurrent, List.take_length] at hlookup
  exact hlookup

theorem Stacked.parent_lt (h : env.Stacked P) {s : Scope} (hs : s ∈ env.scopes) {i : Nat}
    (hi : s.parent = some i) : i < env.scopes.length := by
  obtain ⟨j, hj⟩ := List.getElem?_of_mem hs
  obtain ⟨hlt, -⟩ := List.getElem?_eq_some_iff.1 hj
  rw [(h.stands j s hj).parent_eq] at hi
  split at hi
  · cases hi
  · cases hi
    omega

/-! ### Operations and visits -/

theorem expect_eq (env : Env) (loc : Location) (declared inferred : TypeInst) :
    (env.expect loc declared inferred).2 = env ∨
      ∃ d, (env.expect loc declared inferred).2 = env.report d := by
  unfold Env.expect Visit.expect
  split
  · exact .inl rfl
  · exact .inr ⟨_, rfl⟩
  · exact .inl rfl

section steps

variable (hP : FunctionState.Stable P) (hstart : ∀ name result,
  (isConstructorName name = true → result.isNonEmptyObject = true) → P (.start name result))
include hP hstart

/-- Every step keeps the scopes a stack. -/
theorem stacked_steps : Visit.Steps (.keeping (Stacked P)) (fun _ => True) fun _ => True where
  children _ _ _ _ := trivial
  literal _ _ := trivial
  lookup _ _ _ _ _ _ _ _ := trivial
  function _ _ _ _ := trivial
  compare _ _ _ _ _ _ := trivial
  report _ _ _ _ env henv := ⟨henv.framed hP (env.framed_report _), trivial⟩
  skipFunction _ env henv := ⟨henv.framed hP (env.framed_note nofun nofun), trivial⟩
  skipNode _ env henv := ⟨henv.framed hP (env.framed_note nofun nofun), trivial⟩
  bind env _ name t henv _ _ _ _ := ⟨henv.framed hP (env.framed_bind name t _), trivial⟩
  foundReturn _ _ _ _ env henv := ⟨henv.framed hP env.framed_foundReturn, trivial⟩
  assigned _ _ _ _ _ field _ _ _ _ env henv :=
    ⟨henv.framed hP (env.framed_assigned field), trivial⟩
  setExports _ body _ _ env henv := ⟨henv.framed hP (env.framed_setExports body), trivial⟩
  loadHeader env _ _ henv _ _ _ := ⟨henv.framed hP env.framed_loadHeader, trivial⟩
  enterFunction env _ name params type args receiver result henv _ _ _ _ hshape hobject := by
    refine henv.enterFunction hP params (hstart name _ ?_)
    rw [signature, hshape]
    exact hobject
  exitFunction _ _ _ _ _ _ henv' _ := ⟨henv'.exitFunction, trivial⟩

theorem Stacked.visit (h : env.Stacked P) (n : Node) : (env.visit n).2.Stacked P :=
  ((stacked_steps hP hstart).visit (Node.all_of_forall (fun _ => trivial) n) env h).1

theorem Stacked.throughout (h : env.Stacked P) (n : Node) :
    Visit.Throughout (Stacked P) n env :=
  (stacked_steps hP hstart).throughout (fun _ henv => henv)
    (Node.all_of_forall (fun _ => trivial) n) h

end steps

theorem Stacked.perform (hP : FunctionState.Stable P)
    (hstart : ∀ name result, P (.start name result)) (h : env.Stacked P) (op : Operation) :
    (env.perform op).Stacked P := by
  cases op with
  | request r =>
    change (env.answer r).2.Stacked P
    rw [snd_answer]
    exact h.visit hP (fun name result _ => hstart name result) _
  | loadHeader => exact h.framed hP env.framed_loadHeader
  | bind name type origin => exact h.framed hP (env.framed_bind name type origin)
  | enterFunction name params type => exact h.enterFunction hP params (hstart name _)
  | exitFunction => exact h.exitFunction
  | expect loc declared inferred =>
    change (env.expect loc declared inferred).2.Stacked P
    rcases env.expect_eq loc declared inferred with heq | ⟨d, heq⟩
    · rw [heq]
      exact h
    · rw [heq]
      exact h.framed hP (env.framed_report d)
  | report d => exact h.framed hP (env.framed_report d)
  | setExports body => exact h.framed hP (env.framed_setExports body)

/-- **The scopes are always a stack**, after any operations in any order and in the middle of a
visit, so every place that a scope names exists, and a name stands for its binding in the last scope
that has one.  If there were only checks and visits, every constructor on the stack has an object
with fields for its receiver. -/
theorem scopes_always_stacked (root : Node) (fileName : String) (loader : Loader) :
    (∀ ops, let env := (start root fileName loader).performAll ops
      env.Stacked FunctionState.Classified ∧
        env.current < env.scopes.length ∧
        (∀ s ∈ env.scopes, ∀ i ∈ s.parent, i < env.scopes.length) ∧
        (∀ name, Scope.Finds env.scopes name (some env.current) (env.lookup name) ∧
          env.lookup name = env.scopes.reverse.findSome? (·.bindings.find? name)) ∧
        ∀ n, Visit.Throughout (Stacked FunctionState.Classified) n env) ∧
    (∀ rs n, Visit.Throughout (Stacked FunctionState.ReceivesObject) n
      ((start root fileName loader).answerAll rs).2) := by
  constructor
  · intro ops
    have hstart := FunctionState.classified_start
    have hstacked := performAll_induction (P := Stacked FunctionState.Classified)
      (fun _ op h => h.perform FunctionState.stable_classified hstart op) ops
      (stacked_start _ root fileName loader)
    have hcurrent := hstacked.current
    exact ⟨hstacked, by omega, fun s hs i hi => hstacked.parent_lt hs hi,
      fun name => ⟨hstacked.finds name, hstacked.lookup_eq name⟩,
      hstacked.throughout FunctionState.stable_classified fun name result _ => hstart name result⟩
  · intro rs n
    have hstacked := answerAll_induction (P := Stacked FunctionState.ReceivesObject)
      (fun _ n h => h.visit FunctionState.stable_receivesObject
        (fun _ _ => FunctionState.receivesObject_start) n) rs
      (stacked_start _ root fileName loader)
    exact hstacked.throughout FunctionState.stable_receivesObject
      (fun _ _ => FunctionState.receivesObject_start) n

/-- An exit without an entry, and then a constructor that is entered with a type that is no function
type. -/
def pointOperations : List Operation :=
  [.exitFunction, .enterFunction "Point" [] (.literal "Number"),
    .bind "x" (.literal "String") .localVariable]

theorem scopes_always_stacked_point :
    let env := (start ⟨.unknown, .program []⟩ "point.js" noHeaders).performAll pointOperations
    env.Stacked FunctionState.Classified ∧ env.current = 2 ∧
      (∃ s ∈ env.scopes, s.parent = some 1 ∧ 1 < env.scopes.length) ∧
      env.scopes.reverse.findSome? (·.bindings.find? "x") =
        some ⟨.literal "String", .localVariable⟩ := by
  intro env
  obtain ⟨hstacked, -, hparents, hlookup, -⟩ :=
    (scopes_always_stacked ⟨.unknown, .program []⟩ "point.js" noHeaders).1 pointOperations
  have hlength : env.scopes.length = 3 := rfl
  have hmem : env.scopes[2] ∈ env.scopes := List.getElem_mem _
  have hx : env.lookup "x" = some ⟨.literal "String", .localVariable⟩ := rfl
  exact ⟨hstacked, rfl, ⟨_, hmem, rfl, hparents _ hmem 1 rfl⟩, (hlookup "x").2.symm.trans hx⟩

end Env

end SigCheck
