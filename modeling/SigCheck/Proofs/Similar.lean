import Mathlib.Data.List.Forall2
import SigCheck.Ty.Compare
import SigCheck.Ty.Instance

/-!
# Similar types

Two shapes are related if they differ only in the identities of objects, in the smaller types and in
the optional marks of fields; `Shape.Rel` says how the identities and the smaller types may differ.
A relation of types is a *similarity* if related types have related shapes, whatever their labels,
optional marks and references (`Ty.Similarity`).

Nothing the checker asks of types can tell similar ones apart.  In particular comparisons of similar
types have the same verdict, with similar types in the place of a mismatch (`Ty.compareBy_rel`),
if the related identities are the same instances on both sides; and taking related types into use
gives related types (`Shape.Rel.number`).
-/

namespace SigCheck

variable {ι κ α τ σ τ' σ' : Type}

/-- The fields have the same key, and types related by `R`. -/
structure Field.Rel (R : τ → σ → Prop) (f : Field τ) (g : Field σ) : Prop where
  key : f.key = g.key
  type : R f.type g.type

/-- The shapes are the same, with identities related by `S` and smaller types related by `R`. -/
inductive Shape.Rel (S : ι → κ → Prop) (R : τ → σ → Prop) : Shape ι τ → Shape κ σ → Prop
  | literal (name : String) (builtin : Bool) :
      Rel S R (.literal name builtin) (.literal name builtin)
  | value (text : String) : Rel S R (.value text) (.value text)
  | generic {base base' params params'} (hbase : R base base')
      (hparams : List.Forall₂ R params params') :
      Rel S R (.generic base params) (.generic base' params')
  | function {args args' receiver receiver' result result'} (hargs : List.Forall₂ R args args')
      (hreceiver : Option.Rel R receiver receiver') (hresult : R result result') :
      Rel S R (.function args receiver result) (.function args' receiver' result')
  | object {id id' fields fields'} (hid : S id id')
      (hfields : List.Forall₂ (Field.Rel R) fields fields') :
      Rel S R (.object id fields) (.object id' fields')
  | union {members members'} (h : List.Forall₂ R members members') :
      Rel S R (.union members) (.union members')
  | intersection {members members'} (h : List.Forall₂ R members members') :
      Rel S R (.intersection members) (.intersection members')
  | tuple {items items'} (h : List.Forall₂ R items items') : Rel S R (.tuple items) (.tuple items')

/-! ### Lists and shapes -/

theorem forall₂_imp_of_mem {R R' : τ → σ → Prop} {ts : List τ} {us : List σ}
    (h : ∀ t ∈ ts, ∀ u ∈ us, R t u → R' t u) (hts : List.Forall₂ R ts us) :
    List.Forall₂ R' ts us := by
  induction hts with
  | nil => exact .nil
  | cons ht _ ih =>
    refine .cons (h _ (by simp) _ (by simp) ht) (ih ?_)
    exact fun t ht u hu => h t (by simp [ht]) u (by simp [hu])

theorem forall₂_comp {R : τ → σ → Prop} {R' : σ → α → Prop} {R'' : τ → α → Prop} {ts : List τ}
    {us : List σ} {vs : List α}
    (h : ∀ t ∈ ts, ∀ u ∈ us, ∀ v ∈ vs, R t u → R' u v → R'' t v) (htu : List.Forall₂ R ts us)
    (huv : List.Forall₂ R' us vs) : List.Forall₂ R'' ts vs := by
  induction htu generalizing vs with
  | nil =>
    cases huv
    exact .nil
  | cons ht _ ih =>
    cases huv with
    | cons hu huv =>
      refine .cons (h _ (by simp) _ (by simp) _ (by simp) ht hu) (ih ?_ huv)
      exact fun t ht u hu v hv => h t (by simp [ht]) u (by simp [hu]) v (by simp [hv])

theorem forall₂_map_eq {g : τ → α} {h : σ → α} {ts : List τ} {us : List σ}
    (heq : ts.map g = us.map h) : List.Forall₂ (fun t u => g t = h u) ts us := by
  rwa [← List.forall₂_eq_eq_eq, List.forall₂_map_left_iff, List.forall₂_map_right_iff] at heq

namespace Shape

/-- The identity of an object. -/
def id? : Shape ι τ → Option ι
  | .object id _ => some id
  | _ => none

/-- The shape with no field marked as optional. -/
def required : Shape ι τ → Shape ι τ
  | .object id fields => .object id (fields.map fun f => { f with optional := false })
  | s => s

end Shape

namespace Shape.Rel

variable {S S' : ι → κ → Prop} {R : τ → σ → Prop} {s : Shape ι τ} {s' : Shape κ σ}

theorem imp_of_mem {R' : τ → σ → Prop} (hS : ∀ i ∈ s.id?, ∀ j ∈ s'.id?, S i j → S' i j)
    (hR : ∀ t ∈ s.children, ∀ u ∈ s'.children, R t u → R' t u) (h : Rel S R s s') :
    Rel S' R' s s' := by
  cases h with
  | literal name builtin => exact .literal name builtin
  | value text => exact .value text
  | generic hbase hparams =>
    refine .generic (hR _ (by simp [children]) _ (by simp [children]) hbase)
      (forall₂_imp_of_mem ?_ hparams)
    exact fun t ht u hu => hR t (by simp [children, ht]) u (by simp [children, hu])
  | function hargs hreceiver hresult =>
    refine .function (forall₂_imp_of_mem ?_ hargs) ?_
      (hR _ (by simp [children]) _ (by simp [children]) hresult)
    · exact fun t ht u hu => hR t (by simp [children, ht]) u (by simp [children, hu])
    · cases hreceiver with
      | none => exact .none
      | some h => exact .some (hR _ (by simp [children]) _ (by simp [children]) h)
  | object hid hfields =>
    refine .object (hS _ rfl _ rfl hid) (forall₂_imp_of_mem ?_ hfields)
    rintro f hf g hg ⟨hkey, htype⟩
    exact ⟨hkey, hR _ (List.mem_map_of_mem hf) _ (List.mem_map_of_mem hg) htype⟩
  | union h => exact .union (forall₂_imp_of_mem hR h)
  | intersection h => exact .intersection (forall₂_imp_of_mem hR h)
  | tuple h => exact .tuple (forall₂_imp_of_mem hR h)

theorem exists_of_mem_children (h : Rel S R s s') {t : τ} (ht : t ∈ s.children) :
    ∃ u ∈ s'.children, R t u := by
  have hlist : ∀ {ts : List τ} {us : List σ}, List.Forall₂ R ts us → t ∈ ts → ∃ u ∈ us, R t u := by
    intro ts us hts
    induction hts with
    | nil => simp
    | cons ht _ ih =>
      rw [List.mem_cons]
      rintro (rfl | hmem)
      · exact ⟨_, by simp, ht⟩
      · obtain ⟨u, hu, hR⟩ := ih hmem
        exact ⟨u, by simp [hu], hR⟩
  refine hlist ?_ ht
  cases h with
  | literal _ _ => exact .nil
  | value _ => exact .nil
  | generic hbase hparams => exact .cons hbase hparams
  | function hargs hreceiver hresult =>
    have hargs' := List.rel_append hargs (.cons hresult .nil)
    cases hreceiver with
    | none => exact hargs'
    | some h => exact .cons h hargs'
  | object hid hfields =>
    rw [children, children, List.forall₂_map_left_iff, List.forall₂_map_right_iff]
    exact hfields.imp fun _ _ hf => hf.type
  | union h => exact h
  | intersection h => exact h
  | tuple h => exact h

/-- Shapes that a change of identities and smaller types makes the same, optional marks aside, are
related. -/
theorem of_map_eq {g : ι → κ} {h : τ → σ} {s s' : Shape ι τ}
    (heq : ((s.map h).mapId g).required = ((s'.map h).mapId g).required) :
    Rel (fun i j => g i = g j) (fun t u => h t = h u) s s' := by
  cases s <;> cases s' <;>
    simp only [Shape.map, mapId, required, literal.injEq, value.injEq, generic.injEq,
      function.injEq, object.injEq, union.injEq, intersection.injEq, tuple.injEq,
      reduceCtorEq] at heq
  case literal.literal =>
    obtain ⟨rfl, rfl⟩ := heq
    exact .literal _ _
  case value.value =>
    subst heq
    exact .value _
  case generic.generic => exact .generic heq.1 (forall₂_map_eq heq.2)
  case function.function args receiver result args' receiver' result' =>
    obtain ⟨hargs, hreceiver, hresult⟩ := heq
    refine .function (forall₂_map_eq hargs) ?_ hresult
    cases receiver <;> cases receiver' <;> simp at hreceiver
    · exact .none
    · exact .some hreceiver
  case object.object =>
    obtain ⟨hid, hfields⟩ := heq
    rw [List.map_map, List.map_map] at hfields
    refine .object hid ((forall₂_map_eq hfields).imp fun f f' hf => ?_)
    simp only [Function.comp_apply, Field.mk.injEq, Field.key_map, Field.type_map] at hf
    exact ⟨hf.1, hf.2.2⟩
  case union.union => exact .union (forall₂_map_eq heq)
  case intersection.intersection => exact .intersection (forall₂_map_eq heq)
  case tuple.tuple => exact .tuple (forall₂_map_eq heq)

theorem map {R' : τ' → σ' → Prop} {g : τ → τ'} {g' : σ → σ'}
    (h : Rel S (fun t u => R' (g t) (g' u)) s s') : Rel S R' (s.map g) (s'.map g') := by
  have hlist : ∀ {ts : List τ} {us : List σ}, List.Forall₂ (fun t u => R' (g t) (g' u)) ts us →
      List.Forall₂ R' (ts.map g) (us.map g') := by
    intro ts us hts
    rwa [List.forall₂_map_left_iff, List.forall₂_map_right_iff]
  cases h with
  | literal name builtin => exact .literal name builtin
  | value text => exact .value text
  | generic hbase hparams => exact .generic hbase (hlist hparams)
  | function hargs hreceiver hresult =>
    refine .function (hlist hargs) ?_ hresult
    cases hreceiver with
    | none => exact .none
    | some h => exact .some h
  | object hid hfields =>
    refine .object hid ?_
    rw [List.forall₂_map_left_iff, List.forall₂_map_right_iff]
    exact hfields.imp fun _ _ hf => ⟨hf.key, hf.type⟩
  | union h => exact .union (hlist h)
  | intersection h => exact .intersection (hlist h)
  | tuple h => exact .tuple (hlist h)

end Shape.Rel

/-! ### Similarities -/

namespace Ty

/-- Related types have related shapes. -/
def Similarity (S : ι → κ → Prop) (R : Ty ι → Ty κ → Prop) : Prop :=
  ∀ t u, R t u → Shape.Rel S R t.shape u.shape

namespace Similarity

variable {S : ι → κ → Prop} {R : Ty ι → Ty κ → Prop} (hR : Similarity S R) {t : Ty ι} {u : Ty κ}
include hR

theorem literalName? (h : R t u) : t.literalName? = u.literalName? := by
  unfold Ty.literalName?
  have hshape := hR t u h
  generalize t.shape = s, u.shape = s' at hshape
  cases hshape <;> rfl

theorem isVoid (h : R t u) : t.isVoid = u.isVoid := by
  rw [Ty.isVoid, Ty.isVoid, hR.literalName? h]

theorem isNonEmptyObject (h : R t u) : t.isNonEmptyObject = u.isNonEmptyObject := by
  unfold Ty.isNonEmptyObject
  have hshape := hR t u h
  generalize t.shape = s, u.shape = s' at hshape
  cases hshape with
  | object hid hfields => cases hfields <;> rfl
  | _ => rfl

theorem field? (h : R t u) (key : String) :
    Option.Rel (Field.Rel R) (t.field? key) (u.field? key) := by
  unfold Ty.field?
  have hshape := hR t u h
  generalize t.shape = s, u.shape = s' at hshape
  cases hshape with
  | object hid hfields =>
    dsimp only
    induction hfields with
    | nil => exact .none
    | @cons f g fs gs hf hfields ih =>
      rw [List.find?_cons, List.find?_cons, hf.key]
      split
      · exact .some hf
      · exact ih
  | _ => exact .none

end Similarity

end Ty

/-! ### Verdicts -/

/-- The verdicts are the same, with the types of a mismatch related by `R`. -/
inductive Verdict.Rel (R : Ty ι → Ty κ → Prop) : Verdict ι → Verdict κ → Prop
  | compatible : Rel R .compatible .compatible
  | mismatch {expected actual expected' actual'} (h : R expected expected')
      (h' : R actual actual') : Rel R (.mismatch expected actual) (.mismatch expected' actual')
  | fault (f : Fault) : Rel R (.fault f) (.fault f)

namespace Verdict

variable {R : Ty ι → Ty κ → Prop} {v w : Verdict ι} {v' w' : Verdict κ}

theorem Rel.andThen (hv : Rel R v v') (hw : Rel R w w') : Rel R (v.andThen w) (v'.andThen w') := by
  cases hv with
  | compatible => exact hw
  | mismatch h h' => exact .mismatch h h'
  | fault f => exact .fault f

theorem Rel.reportedAs {expected actual : Ty ι} {expected' actual' : Ty κ} (hv : Rel R v v')
    (h : R expected expected') (h' : R actual actual') :
    Rel R (v.reportedAs expected actual) (v'.reportedAs expected' actual') := by
  cases hv with
  | compatible => exact .compatible
  | mismatch _ _ => exact .mismatch h h'
  | fault f => exact .fault f

theorem rel_all_zipWith {α' β β' : Type} {A : α → α' → Prop} {B : β → β' → Prop}
    {g : α → β → Verdict ι} {g' : α' → β' → Verdict κ}
    (h : ∀ a a' b b', A a a' → B b b' → Rel R (g a b) (g' a' b')) {as : List α} {as' : List α'}
    {bs : List β} {bs' : List β'} (has : List.Forall₂ A as as') (hbs : List.Forall₂ B bs bs') :
    Rel R (all (List.zipWith g as bs)) (all (List.zipWith g' as' bs')) := by
  induction has generalizing bs bs' with
  | nil => exact .compatible
  | cons ha _ ih =>
    cases hbs with
    | nil => exact .compatible
    | cons hb hbs => exact (h _ _ _ _ ha hb).andThen (ih hbs)

end Verdict

/-! ### Comparisons -/

namespace Ty

open Verdict

/-- The verdict on an inferred type, given the comparisons with the parts of the declared one. -/
def compareShape (sameInstance : ι → ι → Bool) (parent : Ty ι) (shape : Shape ι (Comparison ι))
    (child : Ty ι) : Verdict ι :=
  match shape with
  | .literal name builtin => compareLiteral parent name builtin child
  | .generic base params => compareGeneric parent base params child
  | .function args receiver result => compareFunction parent args receiver result child
  | .object id fields => compareObject sameInstance parent id fields child
  | .value _ | .union _ | .intersection _ | .tuple _ =>
    fault (.unsupportedParent parent.shape.title)

theorem compareBy_eq (sameInstance : ι → ι → Bool) (parent child : Ty ι) :
    compareBy sameInstance parent child =
      compareShape sameInstance parent (parent.shape.map (compareBy sameInstance)) child := by
  rw [compareBy, fold_eq]
  rfl

/-- The comparisons give related verdicts on related types. -/
abbrev ComparisonRel (R : Ty ι → Ty κ → Prop) (c : Comparison ι) (c' : Comparison κ) : Prop :=
  ∀ t t', R t t' → Rel R (c t) (c' t')

section compare

variable {S : ι → κ → Prop} {R : Ty ι → Ty κ → Prop} (hR : Similarity S R) {parent child : Ty ι}
  {parent' child' : Ty κ} (hparent : R parent parent') (hchild : R child child')
include hR hparent hchild

theorem compareLiteral_rel (name : String) (builtin : Bool) :
    Rel R (compareLiteral parent name builtin child)
      (compareLiteral parent' name builtin child') := by
  unfold compareLiteral
  rw [hR.literalName? hchild]
  split
  · exact .fault _
  · split
    · exact .compatible
    · split
      · exact .mismatch hparent hchild
      · split
        · split
          · exact .compatible
          · exact .fault _
        · split
          · split
            · exact .compatible
            · exact .mismatch hparent hchild
          · exact .fault _

theorem compareGeneric_rel {base : Comparison ι} {base' : Comparison κ}
    {params : List (Comparison ι)} {params' : List (Comparison κ)}
    (hbase : ComparisonRel R base base') (hparams : List.Forall₂ (ComparisonRel R) params params') :
    Rel R (compareGeneric parent base params child)
      (compareGeneric parent' base' params' child') := by
  unfold compareGeneric
  have hshape := hR child child' hchild
  generalize child.shape = s, child'.shape = s' at hshape
  cases hshape with
  | generic hbase' hparams' =>
    dsimp only
    refine (hbase _ _ hbase').andThen ?_
    rw [hparams.length_eq, hparams'.length_eq]
    split
    · refine Rel.reportedAs ?_ hparent hchild
      exact rel_all_zipWith (fun _ _ _ _ hc => hc _ _) hparams hparams'
    · exact .fault _
  | _ => exact .mismatch hparent hchild

theorem compareFunction_rel {args : List (Comparison ι)} {args' : List (Comparison κ)}
    {receiver : Option (Comparison ι)} {receiver' : Option (Comparison κ)} {result : Comparison ι}
    {result' : Comparison κ} (hargs : List.Forall₂ (ComparisonRel R) args args')
    (hreceiver : Option.Rel (ComparisonRel R) receiver receiver')
    (hresult : ComparisonRel R result result') :
    Rel R (compareFunction parent args receiver result child)
      (compareFunction parent' args' receiver' result' child') := by
  unfold compareFunction
  have hshape := hR child child' hchild
  generalize child.shape = s, child'.shape = s' at hshape
  cases hshape with
  | function hargs' hreceiver' hresult' =>
    dsimp only
    refine (hresult _ _ hresult').andThen (Rel.andThen ?_ ?_)
    · cases hreceiver with
      | none =>
        cases hreceiver' with
        | none => exact .compatible
        | some _ => exact .mismatch hparent hchild
      | some hcompare =>
        cases hreceiver' with
        | none => exact .mismatch hparent hchild
        | some h => exact hcompare _ _ h
    · rw [hargs.length_eq, hargs'.length_eq]
      split
      · exact rel_all_zipWith (fun _ _ _ _ hc => hc _ _) hargs hargs'
      · exact .fault _
  | _ => exact .mismatch hparent hchild

theorem compareObject_rel {same : ι → ι → Bool} {same' : κ → κ → Bool}
    (hsame : ∀ i i' j j', S i i' → S j j' → same i j = same' i' j') {id : ι} {id' : κ}
    (hid : S id id') {fields : List (Field (Comparison ι))} {fields' : List (Field (Comparison κ))}
    (hfields : List.Forall₂ (Field.Rel (ComparisonRel R)) fields fields') :
    Rel R (compareObject same parent id fields child)
      (compareObject same' parent' id' fields' child') := by
  unfold compareObject
  have hshape := hR child child' hchild
  generalize child.shape = s, child'.shape = s' at hshape
  cases hshape with
  | object hchildId hchildFields =>
    dsimp only
    rw [hsame _ _ _ _ hid hchildId, hfields.length_eq, hchildFields.length_eq]
    split
    · exact .compatible
    · split
      · exact rel_all_zipWith (fun _ _ _ _ hf hg => hf.type _ _ hg.type) hfields hchildFields
      · exact .fault _
  | _ => exact .mismatch hparent hchild

end compare

/-- **Similar types have the same verdicts.** -/
theorem compareBy_rel {S : ι → κ → Prop} {R : Ty ι → Ty κ → Prop} (hR : Similarity S R)
    {same : ι → ι → Bool} {same' : κ → κ → Bool}
    (hsame : ∀ i i' j j', S i i' → S j j' → same i j = same' i' j') {parent : Ty ι}
    {parent' : Ty κ} (hparent : R parent parent') :
    ComparisonRel R (compareBy same parent) (compareBy same' parent') := by
  induction parent using Ty.induction generalizing parent' with
  | step parent ih _ =>
    intro child child' hchild
    rw [compareBy_eq, compareBy_eq]
    -- the comparisons with the smaller types are related, so the shapes that hold them are
    have hshape : Shape.Rel S (ComparisonRel R) (parent.shape.map (compareBy same))
        (parent'.shape.map (compareBy same')) :=
      ((hR parent parent' hparent).imp_of_mem (fun _ _ _ _ h => h)
        fun c hc _ _ h => ih c hc h).map
    generalize parent.shape.map _ = s, parent'.shape.map _ = s' at hshape
    have htitle : parent.shape.title = parent'.shape.title := by
      have hshape := hR parent parent' hparent
      generalize parent.shape = s, parent'.shape = s' at hshape
      cases hshape <;> rfl
    cases hshape with
    | literal name builtin => exact compareLiteral_rel hR hparent hchild name builtin
    | generic hbase hparams => exact compareGeneric_rel hR hparent hchild hbase hparams
    | function hargs hreceiver hresult =>
      exact compareFunction_rel hR hparent hchild hargs hreceiver hresult
    | object hid hfields => exact compareObject_rel hR hparent hchild hsame hid hfields
    | value _ | union _ | intersection _ | tuple _ =>
      simp only [compareShape, htitle]
      exact .fault _

end Ty

/-! ### Taking types into use -/

/-- The two computations give related results and states from related states. -/
def StateRel (Q : Nat → Nat → Prop) (R : τ → σ → Prop) (m : StateM Nat τ) (m' : StateM Nat σ) :
    Prop :=
  ∀ k k', Q k k' → R (m.run k).1 (m'.run k').1 ∧ Q (m.run k).2 (m'.run k').2

namespace StateRel

variable {Q : Nat → Nat → Prop} {R : τ → σ → Prop} {R' : τ' → σ' → Prop}

theorem pure {a : τ} {b : σ} (h : R a b) : StateRel Q R (pure a) (pure b) :=
  fun _ _ hk => ⟨h, hk⟩

theorem bind {m : StateM Nat τ} {m' : StateM Nat σ} {f : τ → StateM Nat τ'}
    {f' : σ → StateM Nat σ'} (hm : StateRel Q R m m')
    (hf : ∀ a b, R a b → StateRel Q R' (f a) (f' b)) : StateRel Q R' (m >>= f) (m' >>= f') := by
  intro k k' hk
  obtain ⟨hR, hQ⟩ := hm k k' hk
  exact hf _ _ hR _ _ hQ

theorem map {m : StateM Nat τ} {m' : StateM Nat σ} {f : τ → τ'} {f' : σ → σ'}
    (hm : StateRel Q R m m') (hf : ∀ a b, R a b → R' (f a) (f' b)) :
    StateRel Q R' (f <$> m) (f' <$> m') := by
  intro k k' hk
  obtain ⟨hR, hQ⟩ := hm k k' hk
  exact ⟨hf _ _ hR, hQ⟩

theorem mapM {A : α → κ → Prop} {g : α → StateM Nat τ} {g' : κ → StateM Nat σ}
    (hg : ∀ a b, A a b → StateRel Q R (g a) (g' b)) {as : List α} {bs : List κ}
    (h : List.Forall₂ A as bs) : StateRel Q (List.Forall₂ R) (as.mapM g) (bs.mapM g') := by
  induction h with
  | nil => exact .pure .nil
  | cons hab _ ih =>
    rw [List.mapM_cons, List.mapM_cons]
    refine (hg _ _ hab).bind fun t u htu => ih.bind fun ts us hts => ?_
    exact .pure (.cons htu hts)

end StateRel

/-- Numbering related shapes gives related shapes, if numbers are related as the states that give
them are. -/
theorem Shape.Rel.number {Q S : Nat → Nat → Prop} {R : τ → σ → Prop}
    (hQ : ∀ k k', Q k k' → S k k' ∧ Q (k + 1) (k' + 1)) {s : Shape Unit (StateM Nat τ)}
    {s' : Shape Unit (StateM Nat σ)} (h : Shape.Rel (fun _ _ => True) (StateRel Q R) s s') :
    StateRel Q (Shape.Rel S R) s.number s'.number := by
  have hlist : ∀ {ms : List (StateM Nat τ)} {ms' : List (StateM Nat σ)},
      List.Forall₂ (StateRel Q R) ms ms' →
        StateRel Q (List.Forall₂ R) (ms.mapM id) (ms'.mapM id) :=
    StateRel.mapM fun _ _ h => h
  cases h with
  | literal name builtin => exact .pure (.literal name builtin)
  | value text => exact .pure (.value text)
  | generic hbase hparams =>
    exact hbase.bind fun _ _ hb => (hlist hparams).bind fun _ _ hps => .pure (.generic hb hps)
  | function hargs hreceiver hresult =>
    refine (hlist hargs).bind fun _ _ has => ?_
    cases hreceiver with
    | none => exact hresult.bind fun _ _ hr => .pure (.function has .none hr)
    | some hreceiver =>
      refine (hreceiver.map fun _ _ hthis => Option.Rel.some hthis).bind fun _ _ hthis => ?_
      exact hresult.bind fun _ _ hr => .pure (.function has hthis hr)
  | object _ hfields =>
    have hnext : StateRel Q S (getModify (· + 1)) (getModify (· + 1)) := fun k k' hk => hQ k k' hk
    refine hnext.bind fun _ _ hid => ?_
    refine (StateRel.mapM (R := Field.Rel R) ?_ hfields).bind fun _ _ hfs => .pure (.object hid hfs)
    exact fun f g hf => hf.type.bind fun _ _ ht => .pure ⟨hf.key, ht⟩
  | union h => exact (hlist h).bind fun _ _ hs => .pure (.union hs)
  | intersection h => exact (hlist h).bind fun _ _ hs => .pure (.intersection hs)
  | tuple h => exact (hlist h).bind fun _ _ hs => .pure (.tuple hs)

theorem Ty.number_eq (t : TypeExpr) : t.number = do
    let shape ← (t.shape.map Ty.number).number
    return ⟨shape, t.label, t.optional, t.raw.map (Ty.mapId fun _ => 0)⟩ := by
  rw [Ty.number, Ty.fold_eq]

end SigCheck
