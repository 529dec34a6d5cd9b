import SigCheck.Proofs.Compatibility

/-!
# Compatibility of types that share instances

Types may share instances anywhere.  `contents` gives the fields of each instance, and a type that
is `Ty.DrawnFrom contents` uses every instance with its own fields, so that the same instance always
has the same fields.

* Compatibility is transitive, and it is reflexive exactly on the types that all comparisons cover
  (`Ty.compatible_preorder`).
* Taking two types that are the same instance for compatible without looking at them changes no
  verdict but faults (`Ty.compare_eq_of_compareStructurally`).  The step that carries the argument:
  a type compared with its like never gives a mismatch (`Ty.approximates_of_similar`).
-/

namespace SigCheck

variable {ι α β τ σ : Type}

/-! ### Shared instances -/

namespace Ty

/-- Every object in the type has the fields that `contents` gives its instance. -/
inductive DrawnFrom (contents : ι → List (Field (Ty ι))) : Ty ι → Prop
  | intro {t : Ty ι} (hfields : ∀ id fields, t.shape = .object id fields → fields = contents id)
      (hchildren : ∀ c ∈ t.shape.children, DrawnFrom contents c) : DrawnFrom contents t

namespace DrawnFrom

variable {contents : ι → List (Field (Ty ι))} {t u c : Ty ι}

theorem children (h : t.DrawnFrom contents) (hc : c ∈ t.shape.children) : c.DrawnFrom contents := by
  cases h with
  | intro _ hchildren => exact hchildren c hc

theorem literal (name : String) : (Ty.literal name : Ty ι).DrawnFrom contents :=
  .intro nofun (List.forall_mem_nil _)

theorem object {id : ι} {fields : List (Field (Ty ι))} (hfields : fields = contents id)
    (h : ∀ f ∈ fields, f.type.DrawnFrom contents) :
    (ofShape (.object id fields)).DrawnFrom contents := by
  refine .intro ?_ (List.forall_mem_map.2 h)
  rintro _ _ ⟨⟩
  exact hfields

theorem fields_eq (ht : t.DrawnFrom contents) (hu : u.DrawnFrom contents) {id : ι}
    {fields fields' : List (Field (Ty ι))} (htshape : t.shape = .object id fields)
    (hushape : u.shape = .object id fields') : fields = fields' := by
  cases ht with
  | intro htfields _ =>
    cases hu with
    | intro hufields _ => rw [htfields id fields htshape, hufields id fields' hushape]

end DrawnFrom

end Ty

/-! ### Transitivity -/

theorem Shape.Fits.trans [DecidableEq ι] {R : τ → τ → Prop} {s s' s'' : Shape ι τ}
    (hR : ∀ t ∈ s.children, ∀ u ∈ s'.children, ∀ v ∈ s''.children, R t u → R u v → R t v)
    (hshared : ∀ id fields fields', s = .object id fields → s' = .object id fields' →
      fields = fields')
    (hshared' : ∀ id fields fields', s' = .object id fields → s'' = .object id fields' →
      fields = fields')
    (h : s.Fits (· == ·) R s') (h' : s'.Fits (· == ·) R s'') : s.Fits (· == ·) R s'' := by
  cases h with
  | exports _ => exact .exports _
  | literal hname _ =>
    cases h' with
    | exports _ => exact .exports _
    | literal _ builtin => exact .literal hname builtin
  | generic hbase hparams =>
    cases h' with
    | generic hbase' hparams' =>
      simp only [children, List.forall_mem_cons] at hR
      refine .generic (hR.1.1.1 hbase hbase') (forall₂_comp ?_ hparams hparams')
      exact fun t ht u hu => ((hR.2 t ht).2 u hu).2
  | function hargs hreceiver hresult =>
    cases h' with
    | function hargs' hreceiver' hresult' =>
      refine .function (forall₂_comp ?_ hargs hargs') ?_ ?_
      · intro t ht u hu v hv
        exact hR t (by simp [children, ht]) u (by simp [children, hu]) v (by simp [children, hv])
      · cases hreceiver with
        | none =>
          cases hreceiver'
          exact .none
        | some h =>
          cases hreceiver' with
          | some h' =>
            exact .some (hR _ (by simp [children]) _ (by simp [children]) _ (by simp [children])
              h h')
      · exact hR _ (by simp [children]) _ (by simp [children]) _ (by simp [children])
          hresult hresult'
  | @shared i j hij fields fields' =>
    -- the first two are one instance, so what fits the one fits the other
    obtain rfl : i = j := by simpa using hij
    obtain rfl : fields = fields' := hshared _ _ _ rfl rfl
    cases h' with
    | shared h' _ _ => exact .shared h' _ _
    | object _ _ hfields' => exact .object _ _ hfields'
  | @object fields fields' i j hfields =>
    cases h' with
    | @shared _ k hjk _ fields'' =>
      obtain rfl : j = k := by simpa using hjk
      obtain rfl : fields' = fields'' := hshared' _ _ _ rfl rfl
      exact .object _ _ hfields
    | object _ _ hfields' =>
      refine .object _ _ (forall₂_comp ?_ hfields hfields')
      intro f hf g hg f' hf'
      exact hR _ (List.mem_map_of_mem hf) _ (List.mem_map_of_mem hg) _ (List.mem_map_of_mem hf')

namespace Ty

open Verdict

/-- Compatibility is transitive, whatever instances the types share. -/
theorem compatible_trans [DecidableEq ι] {contents : ι → List (Field (Ty ι))} {a b c : Ty ι}
    (ha : a.DrawnFrom contents) (hb : b.DrawnFrom contents) (hc : c.DrawnFrom contents)
    (hab : compareBy (· == ·) a b = compatible) (hbc : compareBy (· == ·) b c = compatible) :
    compareBy (· == ·) a c = compatible := by
  induction a using Ty.induction generalizing b c with
  | step a ih _ =>
    rw [compareBy_eq_compatible] at hab hbc ⊢
    refine Shape.Fits.trans ?_ ?_ ?_ hab hbc
    · exact fun t ht u hu v hv => ih t ht (ha.children ht) (hb.children hu) (hc.children hv)
    · exact fun id fields fields' => ha.fields_eq hb
    · exact fun id fields fields' => hb.fields_eq hc

end Ty

/-! ### Comparisons without mismatches -/

/-- The verdict is a fault, or it is `w`. -/
def Verdict.Approximates (v w : Verdict ι) : Prop := v = w ∨ ∃ f, v = .fault f

namespace Verdict

variable {v v' w w' : Verdict ι}

theorem Approximates.refl (v : Verdict ι) : v.Approximates v := .inl rfl

theorem Approximates.fault (f : Fault) : (Verdict.fault f).Approximates w := .inr ⟨f, rfl⟩

theorem Approximates.trans {u : Verdict ι} (huv : u.Approximates v) (hvw : v.Approximates w) :
    u.Approximates w := by
  obtain rfl | ⟨f, rfl⟩ := huv
  · exact hvw
  · exact .fault f

theorem Approximates.andThen (hv : v.Approximates v') (hw : w.Approximates w') :
    (v.andThen w).Approximates (v'.andThen w') := by
  obtain rfl | ⟨f, rfl⟩ := hv
  · cases v with
    | compatible => exact hw
    | mismatch expected actual => exact .refl _
    | fault f => exact .fault f
  · exact .fault f

theorem Approximates.andThen_compatible (hv : v.Approximates compatible)
    (hw : w.Approximates compatible) : (v.andThen w).Approximates compatible :=
  hv.andThen hw

theorem Approximates.reportedAs (hv : v.Approximates v') (expected actual : Ty ι) :
    (v.reportedAs expected actual).Approximates (v'.reportedAs expected actual) := by
  obtain rfl | ⟨f, rfl⟩ := hv
  · exact .refl _
  · exact .fault f

theorem approximates_all_zipWith {g g' : α → β → Verdict ι} {as : List α} {bs : List β}
    (h : ∀ a ∈ as, ∀ b ∈ bs, (g a b).Approximates (g' a b)) :
    (all (List.zipWith g as bs)).Approximates (all (List.zipWith g' as bs)) := by
  induction as generalizing bs with
  | nil => exact .refl _
  | cons a as ih =>
    cases bs with
    | nil => exact .refl _
    | cons b bs =>
      refine (h a (by simp) b (by simp)).andThen (ih ?_)
      exact fun a ha b hb => h a (by simp [ha]) b (by simp [hb])

theorem all_zipWith_approximates {g : α → β → Verdict ι} {as : List α} {bs : List β}
    (h : List.Forall₂ (fun a b => (g a b).Approximates compatible) as bs) :
    (all (List.zipWith g as bs)).Approximates compatible := by
  induction h with
  | nil => exact .refl _
  | cons hab _ ih => exact hab.andThen_compatible ih

end Verdict

namespace Ty

open Verdict

variable {same : ι → ι → Bool} {t u : Ty ι}

/-- A comparison of similar types never gives a mismatch. -/
theorem approximates_of_similar {S : ι → ι → Prop} {R : Ty ι → Ty ι → Prop} (hR : Similarity S R)
    (h : R t u) : (compareBy same t u).Approximates compatible := by
  induction t using Ty.induction generalizing u with
  | step t ih _ =>
    have hshape : Shape.Rel S (fun c d => (compareBy same c d).Approximates compatible) t.shape
        u.shape :=
      (hR t u h).imp_of_mem (fun _ _ _ _ h => h) fun c hc _ _ h => ih c hc h
    rw [compareBy_eq]
    generalize ht : t.shape = s, hu : u.shape = s' at hshape
    cases hshape with
    | literal name builtin =>
      have hname : u.literalName? = some name := by simp [literalName?, hu]
      simp only [Shape.map, compareShape, compareLiteral, hname, if_true]
      split_ifs
      · exact .fault _
      · exact .refl _
      · exact .refl _
      · exact .refl _
      · exact .fault _
    | generic hbase hparams =>
      simp only [Shape.map, compareShape, compareGeneric, hu]
      refine hbase.andThen_compatible ?_
      rw [List.length_map, if_pos hparams.length_eq, List.zipWith_map_left]
      exact (all_zipWith_approximates hparams).reportedAs t u
    | function hargs hreceiver hresult =>
      simp only [Shape.map, compareShape, compareFunction, hu]
      refine hresult.andThen_compatible (Approximates.andThen_compatible ?_ ?_)
      · cases hreceiver with
        | none => exact .refl _
        | some h => exact h
      · rw [List.length_map, if_pos hargs.length_eq, List.zipWith_map_left]
        exact all_zipWith_approximates hargs
    | object hid hfields =>
      simp only [Shape.map, compareShape, compareObject, hu]
      split
      · exact .refl _
      · rw [List.length_map, if_pos hfields.length_eq, List.zipWith_map_left]
        exact all_zipWith_approximates (hfields.imp fun _ _ hf => hf.type)
    | value _ | union _ | intersection _ | tuple _ => exact .fault _

end Ty

/-! ### Reflexivity -/

theorem Shape.Comparable.fits {S : ι → ι → Prop} {R : τ → σ → Prop} {s : Shape ι τ} {s' : Shape ι σ}
    (hs : s.Comparable usedNames) (same : ι → ι → Bool) (h : Rel S R s s') : s.Fits same R s' := by
  cases h with
  | literal name builtin =>
    obtain ⟨rfl, hname⟩ := hs
    rcases List.mem_cons.1 hname with rfl | hname
    · exact .exports _
    · exact .literal hname true
  | generic hbase hparams => exact .generic hbase hparams
  | function hargs hreceiver hresult => exact .function hargs hreceiver hresult
  | object _ hfields => exact .object _ _ (hfields.imp fun _ _ hf => hf.type)
  | value _ | union _ | intersection _ | tuple _ => exact hs.elim

/-- Shapes of different instances that fit have names that are compared, and all their parts fit. -/
theorem Shape.Fits.comparable {S : ι → ι → Prop} {R C : τ → σ → Prop} {s : Shape ι τ}
    {s' : Shape ι σ} {same : ι → ι → Bool} (hS : ∀ i j, S i j → same i j = false)
    (h : s.Fits same C s') (hrel : Rel S R s s') :
    s.Comparable usedNames ∧ Rel S (fun t u => R t u ∧ C t u) s s' := by
  cases h with
  | exports s =>
    cases hrel with
    | literal name builtin => exact ⟨⟨rfl, List.mem_cons_self ..⟩, .literal _ _⟩
  | literal hname builtin =>
    cases hrel with
    | literal name builtin => exact ⟨⟨rfl, List.mem_cons_of_mem _ hname⟩, .literal _ _⟩
  | generic hbase hparams =>
    cases hrel with
    | generic hbase' hparams' =>
      exact ⟨trivial, .generic ⟨hbase', hbase⟩ (hparams'.mp (fun _ _ => And.intro) hparams)⟩
  | function hargs hreceiver hresult =>
    cases hrel with
    | function hargs' hreceiver' hresult' =>
      refine ⟨trivial, .function (hargs'.mp (fun _ _ => And.intro) hargs) ?_ ⟨hresult', hresult⟩⟩
      cases hreceiver with
      | none => exact .none
      | some h =>
        cases hreceiver' with
        | some h' => exact .some ⟨h', h⟩
  | shared hsame _ _ =>
    cases hrel with
    | object hid _ => exact absurd hsame (by simp [hS _ _ hid])
  | object _ _ hfields =>
    cases hrel with
    | object hid hfields' =>
      exact ⟨trivial, .object hid (hfields'.mp (fun _ _ hf hC => ⟨hf.key, hf.type, hC⟩) hfields)⟩

namespace Ty

open Verdict

variable {same : ι → ι → Bool} {t u : Ty ι}

/-- Similar types that share no instance are compatible exactly if all comparisons cover them. -/
theorem compatible_iff_comparable {S : ι → ι → Prop} {R : Ty ι → Ty ι → Prop}
    (hR : Similarity S R) (hS : ∀ i j, S i j → same i j = false) (h : R t u) :
    compareBy same t u = compatible ↔ t.Comparable usedNames := by
  induction t using Ty.induction generalizing u with
  | step t ih _ =>
    rw [compareBy_eq_compatible]
    constructor
    · intro hfits
      obtain ⟨hshape, hparts⟩ := hfits.comparable hS (hR t u h)
      refine .intro hshape fun c hc => ?_
      obtain ⟨d, -, hcd, hcompatible⟩ := hparts.exists_of_mem_children hc
      exact (ih c hc hcd).1 hcompatible
    · intro hcomparable
      have hshape : t.shape.Comparable usedNames := by
        cases hcomparable with
        | intro hshape _ => exact hshape
      refine hshape.fits same ((hR t u h).imp_of_mem (fun _ _ _ _ h => h) ?_)
      exact fun c hc d _ hcd => (ih c hc hcd).2 (hcomparable.children hc)

/-- The instances that occur in a type. -/
def instances : Ty ι → List ι := fold fun _ shape _ => shape.id?.toList ++ shape.children.flatten

theorem instances_eq (t : Ty ι) :
    t.instances = t.shape.id?.toList ++ (t.shape.children.map instances).flatten := by
  rw [instances, fold_eq, ← instances, Shape.children_map]
  cases t.shape <;> rfl

/-- The types are the same, but for the instances that occur in them, and share none. -/
def Copy (t u : Ty ι) : Prop := t.erase = u.erase ∧ t.instances.Disjoint u.instances

theorem similarity_copy : Similarity (· ≠ ·) (Copy : Ty ι → Ty ι → Prop) := by
  rintro t u ⟨herase, hdisjoint⟩
  have hshape : ((t.shape.map erase).mapId fun _ => ()).required =
      ((u.shape.map erase).mapId fun _ => ()).required := by
    have h := congrArg (·.shape.required) herase
    rwa [erase, erase, mapId_eq, mapId_eq] at h
  rw [instances_eq t, instances_eq u] at hdisjoint
  refine (Shape.Rel.of_map_eq hshape).imp_of_mem ?_ ?_
  · rintro i hi j hj - rfl
    exact hdisjoint (List.mem_append_left _ (Option.mem_toList.2 hi))
      (List.mem_append_left _ (Option.mem_toList.2 hj))
  · intro c hc d hd hcd
    refine ⟨hcd, fun i hi hj => ?_⟩
    have hi' := List.mem_flatten_of_mem (List.mem_map_of_mem hc) hi
    have hj' := List.mem_flatten_of_mem (List.mem_map_of_mem hd) hj
    exact hdisjoint (List.mem_append_right _ hi') (List.mem_append_right _ hj')

/-- **Compatibility is a preorder** on the types that all comparisons cover. -/
theorem compatible_preorder :
    (∀ (contents : Nat → List (Field TypeInst)) (a b c : TypeInst), a.DrawnFrom contents →
      b.DrawnFrom contents → c.DrawnFrom contents → a.compare b = .compatible →
        b.compare c = .compatible → a.compare c = .compatible) ∧
    ∀ t t' : TypeInst, t.Copy t' → (∀ expected actual, t.compare t' ≠ .mismatch expected actual) ∧
      (t.compare t' = .compatible ↔ t.Comparable usedNames) := by
  refine ⟨fun _ _ _ _ => compatible_trans, fun t t' hcopy => ⟨?_, ?_⟩⟩
  · intro expected actual hmismatch
    have happroximates : (t.compare t').Approximates compatible :=
      approximates_of_similar similarity_copy hcopy
    rw [hmismatch] at happroximates
    rcases happroximates with h | ⟨f, h⟩ <;> cases h
  · refine compatible_iff_comparable similarity_copy (fun i j hij => ?_) hcopy
    simpa using hij

/-- A record whose one field is a pair. -/
def pairRecord : TypeInst :=
  .ofShape (.object 1 [⟨"pair", false, .ofShape (.tuple [.literal "Number"])⟩])

/-- A record around the one instance of `pairRecord`. -/
def pairHolder (id : Nat) : TypeInst := .ofShape (.object id [⟨"content", false, pairRecord⟩])

/-- The fields of `pairRecord`, which has the number 1, and of the records around it. -/
def pairContents : Nat → List (Field TypeInst)
  | 1 => [⟨"pair", false, .ofShape (.tuple [.literal "Number"])⟩]
  | _ => [⟨"content", false, pairRecord⟩]

/-- A record with one field, which is a string. -/
def stringRecord (id : Nat) (key : String) : TypeInst :=
  .ofShape (.object id [⟨key, false, .literal "String"⟩])

/-- The holders of one pair are compatible although nothing is compared with a pair, and a record of
a string is compatible with its copies. -/
theorem compatible_preorder_records :
    ((∀ id, 1 < id → (pairHolder id).DrawnFrom pairContents) ∧
      (pairHolder 2).compare (pairHolder 3) = .compatible ∧
      (pairHolder 3).compare (pairHolder 4) = .compatible ∧
      (pairHolder 2).compare (pairHolder 4) = .compatible) ∧
    (stringRecord 1 "a").Copy (stringRecord 2 "a") ∧ (stringRecord 1 "a").Comparable usedNames ∧
      (stringRecord 1 "a").compare (stringRecord 2 "a") = .compatible := by
  have hpair : pairRecord.DrawnFrom pairContents := by
    refine .object rfl (List.forall_mem_singleton.2 (.intro nofun ?_))
    exact List.forall_mem_singleton.2 (.literal "Number")
  have hdrawn : ∀ id, 1 < id → (pairHolder id).DrawnFrom pairContents := by
    intro id hid
    refine .object ?_ (List.forall_mem_singleton.2 hpair)
    unfold pairContents
    split
    · omega
    · rfl
  have hcopy : (stringRecord 1 "a").Copy (stringRecord 2 "a") := by
    refine ⟨rfl, fun i hi hj => ?_⟩
    cases (List.mem_singleton.1 hi).symm.trans (List.mem_singleton.1 hj)
  have hcomparable : (stringRecord 1 "a").Comparable usedNames :=
    .intro trivial (List.forall_mem_singleton.2 (comparable_literal (by decide) (by decide)))
  have htrans := compatible_preorder.1 pairContents _ _ _ (hdrawn 2 (by omega))
    (hdrawn 3 (by omega)) (hdrawn 4 (by omega)) rfl rfl
  exact ⟨⟨hdrawn, rfl, rfl, htrans⟩, hcopy, hcomparable,
    (compatible_preorder.2 _ _ hcopy).2.2 hcomparable⟩

/-! ### The same instance -/

/-- The verdict on an inferred type if no two types are taken for the same instance, so that all
fields are compared. -/
def compareStructurally (parent child : Ty ι) : Verdict ι :=
  compareBy (fun _ _ => false) parent child

theorem similarity_eq : Similarity (· = ·) ((· = ·) : Ty ι → Ty ι → Prop) := by
  rintro t u rfl
  have h : Shape.Rel (fun i j => id i = id j) (fun c d => id c = id d) t.shape t.shape :=
    .of_map_eq rfl
  exact h

/-- A comparison that is made of others is a fault more often if one of those is. -/
theorem compareShape_approximates {parent child : Ty ι} {s : Shape ι τ} {g g' : τ → Comparison ι}
    (h : ∀ c ∈ s.children, ∀ d ∈ child.shape.children, (g c d).Approximates (g' c d)) :
    (compareShape same parent (s.map g) child).Approximates
      (compareShape same parent (s.map g') child) := by
  cases s with
  | literal name builtin => exact .refl _
  | generic base params =>
    simp only [Shape.map, compareShape, compareGeneric, List.length_map, List.zipWith_map_left]
    split
    · rename_i base' params' hchild
      simp only [hchild, Shape.children, List.forall_mem_cons] at h
      refine Approximates.andThen h.1.1 ?_
      split
      · refine (approximates_all_zipWith fun c hc d hd => ?_).reportedAs parent child
        exact (h.2 c hc).2 d hd
      · exact .refl _
    · exact .refl _
  | function args receiver result =>
    simp only [Shape.map, compareShape, compareFunction, List.length_map, List.zipWith_map_left]
    split
    · rename_i args' receiver' result' hchild
      rw [hchild] at h
      refine Approximates.andThen (h _ (by simp [Shape.children]) _ (by simp [Shape.children]))
        (Approximates.andThen ?_ ?_)
      · cases receiver <;> cases receiver'
        · exact .refl _
        · exact .refl _
        · exact .refl _
        · exact h _ (by simp [Shape.children]) _ (by simp [Shape.children])
      · split
        · refine approximates_all_zipWith fun c hc d hd => ?_
          exact h c (by simp [Shape.children, hc]) d (by simp [Shape.children, hd])
        · exact .refl _
    · exact .refl _
  | object id fields =>
    simp only [Shape.map, compareShape, compareObject, List.length_map, List.zipWith_map_left]
    split
    · rename_i id' fields' hchild
      rw [hchild] at h
      split
      · exact .refl _
      · split
        · refine approximates_all_zipWith fun f hf f' hf' => ?_
          exact h _ (List.mem_map_of_mem hf) _ (List.mem_map_of_mem hf')
        · exact .refl _
    · exact .refl _
  | value _ | union _ | intersection _ | tuple _ => exact .refl _

/-- The shortcut: where the same instance is looked at, every field is compared with itself. -/
theorem compareShape_approximates_same [DecidableEq ι] {parent child : Ty ι}
    {s : Shape ι (Ty ι)} (hshared : ∀ id fields fields', s = .object id fields →
      child.shape = .object id fields' → fields = fields') :
    (compareShape (fun _ _ => false) parent (s.map (compareBy same)) child).Approximates
      (compareShape (· == ·) parent (s.map (compareBy same)) child) := by
  cases s with
  | object i fields =>
    simp only [Shape.map, compareShape, compareObject, List.length_map, List.zipWith_map_left]
    split
    · rename_i j fields' hchild
      rw [if_neg Bool.false_ne_true]
      by_cases hij : i = j
      · subst hij
        obtain rfl : fields = fields' := hshared _ _ _ rfl hchild
        rw [if_pos rfl, if_pos (beq_self_eq_true i)]
        refine all_zipWith_approximates (List.forall₂_same.2 fun f _ => ?_)
        exact approximates_of_similar similarity_eq rfl
      · rw [if_neg (show ¬(i == j) = true by simp [hij])]
        exact .refl _
    · exact .refl _
  | _ => exact .refl _

theorem compareStructurally_approximates [DecidableEq ι] {contents : ι → List (Field (Ty ι))}
    {parent child : Ty ι} (hparent : parent.DrawnFrom contents)
    (hchild : child.DrawnFrom contents) :
    (compareStructurally parent child).Approximates (compareBy (· == ·) parent child) := by
  induction parent using Ty.induction generalizing child with
  | step parent ih _ =>
    rw [compareStructurally, compareBy_eq, compareBy_eq]
    have hparts : (compareShape (fun _ _ => false) parent
        (parent.shape.map (compareBy fun _ _ => false)) child).Approximates
          (compareShape (fun _ _ => false) parent (parent.shape.map (compareBy (· == ·))) child) :=
      compareShape_approximates fun c hc d hd =>
        ih c hc (hparent.children hc) (hchild.children hd)
    refine hparts.trans (compareShape_approximates_same ?_)
    exact fun id fields fields' => hparent.fields_eq hchild

end Ty

/-- What a verdict says about a place in a program: nothing, a diagnostic, or a fault. -/
def Verdict.outcome (v : Verdict ι) (loc : Location) : Except Fault (Option Diagnostic) :=
  match v with
  | compatible => .ok none
  | mismatch expected actual => .ok (some ⟨.typeClassMismatch expected.text actual.text, loc⟩)
  | fault f => .error f

/-- An expectation reports what the verdict says. -/
theorem Visit.expect_eq (loc : Location) (declared inferred : TypeInst) :
    expect loc declared inferred = match (declared.compare inferred).outcome loc with
      | .ok none => return
      | .ok (some d) => modify (·.report d)
      | .error f => throw f := by
  unfold expect
  cases declared.compare inferred <;> rfl

namespace Ty

/-- **Taking the same instance for compatible with itself hides and changes no mismatch.** -/
theorem compare_eq_of_compareStructurally (contents : Nat → List (Field TypeInst)) (loc : Location)
    (parent child : TypeInst) (hparent : parent.DrawnFrom contents)
    (hchild : child.DrawnFrom contents) (r : Option Diagnostic)
    (h : (parent.compareStructurally child).outcome loc = .ok r) :
    (parent.compare child).outcome loc = .ok r ∧
      ∀ env : Env, env.expect loc parent child = (.ok (), r.elim env env.report) := by
  have happroximates : (parent.compareStructurally child).Approximates (parent.compare child) :=
    compareStructurally_approximates hparent hchild
  have houtcome : (parent.compare child).outcome loc = .ok r := by
    obtain heq | ⟨f, hf⟩ := happroximates
    · rwa [← heq]
    · rw [hf] at h
      cases h
  refine ⟨houtcome, fun env => ?_⟩
  unfold Env.expect
  rw [Visit.expect_eq, houtcome]
  cases r <;> rfl

/-- A record of a part, which is always the same instance, and a name. -/
def partRecord (id : Nat) (name : String) : TypeInst :=
  .ofShape (.object id [⟨"part", false, stringRecord 1 "code"⟩, ⟨"name", false, .literal name⟩])

/-- The fields of the part, which has the number 1, and of two records with it. -/
def partContents : Nat → List (Field TypeInst)
  | 1 => [⟨"code", false, .literal "String"⟩]
  | 2 => [⟨"part", false, stringRecord 1 "code"⟩, ⟨"name", false, .literal "String"⟩]
  | _ => [⟨"part", false, stringRecord 1 "code"⟩, ⟨"name", false, .literal "Number"⟩]

theorem compare_eq_of_compareStructurally_part :
    (partRecord 2 "String").DrawnFrom partContents ∧
    (partRecord 3 "Number").DrawnFrom partContents ∧
    ((partRecord 2 "String").compareStructurally (partRecord 3 "Number")).outcome ⟨⟨1, 0⟩, ⟨1, 0⟩⟩ =
      .ok (some ⟨.typeClassMismatch "String" "Number", ⟨⟨1, 0⟩, ⟨1, 0⟩⟩⟩) ∧
    ((partRecord 2 "String").compare (partRecord 3 "Number")).outcome ⟨⟨1, 0⟩, ⟨1, 0⟩⟩ =
      .ok (some ⟨.typeClassMismatch "String" "Number", ⟨⟨1, 0⟩, ⟨1, 0⟩⟩⟩) := by
  have hpart : (stringRecord 1 "code").DrawnFrom partContents :=
    .object rfl (List.forall_mem_singleton.2 (.literal "String"))
  have hparent : (partRecord 2 "String").DrawnFrom partContents :=
    .object rfl (List.forall_mem_cons.2 ⟨hpart, List.forall_mem_singleton.2 (.literal "String")⟩)
  have hchild : (partRecord 3 "Number").DrawnFrom partContents :=
    .object rfl (List.forall_mem_cons.2 ⟨hpart, List.forall_mem_singleton.2 (.literal "Number")⟩)
  exact ⟨hparent, hchild, rfl,
    (compare_eq_of_compareStructurally partContents _ _ _ hparent hchild _ rfl).1⟩

end Ty

end SigCheck
