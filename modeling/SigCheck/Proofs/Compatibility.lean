import SigCheck.Proofs.Comparable
import SigCheck.Proofs.Similar

/-!
# Compatible types

`Shape.Fits` says when an inferred type is compatible with a declared one, one level at a time
(`Ty.compareBy_eq_compatible`).  All laws of compatibility start from it.

The first one is about object types.  They are compatible place by place, whatever their keys, so a
field can be looked up by its key only if the key has the same place in both
(`Ty.compatible_objects`).
-/

namespace SigCheck

variable {ι α β τ σ : Type}

/-! ### One level of a comparison -/

/-- The shape of an inferred type fits a declared one: names that are compared are equal, objects
are the same instance, and otherwise smaller types are related by `R` place by place. -/
inductive Shape.Fits (same : ι → ι → Bool) (R : τ → σ → Prop) : Shape ι τ → Shape ι σ → Prop
  | exports (s : Shape ι σ) : Fits same R (.literal Ty.moduleExports true) s
  | literal {name : String} (hname : name ∈ comparableNames) (builtin : Bool) :
      Fits same R (.literal name true) (.literal name builtin)
  | generic {base base' params params'} (hbase : R base base')
      (hparams : List.Forall₂ R params params') :
      Fits same R (.generic base params) (.generic base' params')
  | function {args args' receiver receiver' result result'} (hargs : List.Forall₂ R args args')
      (hreceiver : Option.Rel R receiver receiver') (hresult : R result result') :
      Fits same R (.function args receiver result) (.function args' receiver' result')
  | shared {id id'} (h : same id id' = true) (fields fields') :
      Fits same R (.object id fields) (.object id' fields')
  | object {fields fields'} (id id') (hfields : List.Forall₂ (R ·.type ·.type) fields fields') :
      Fits same R (.object id fields) (.object id' fields')

namespace Verdict

variable {v w : Verdict ι}

theorem andThen_eq_compatible : v.andThen w = compatible ↔ v = compatible ∧ w = compatible := by
  cases v <;> simp [andThen]

theorem reportedAs_eq_compatible {expected actual : Ty ι} :
    v.reportedAs expected actual = compatible ↔ v = compatible := by
  cases v <;> simp [reportedAs]

theorem all_zipWith_eq_compatible {g : α → β → Verdict ι} {as : List α} {bs : List β}
    (h : as.length = bs.length) :
    all (List.zipWith g as bs) = compatible ↔
      List.Forall₂ (fun a b => g a b = compatible) as bs := by
  induction as generalizing bs with
  | nil =>
    cases bs with
    | nil => simp [all]
    | cons b bs => cases h
  | cons a as ih =>
    cases bs with
    | nil => cases h
    | cons b bs =>
      rw [List.zipWith_cons_cons, all, andThen_eq_compatible, ih (Nat.succ.inj h),
        List.forall₂_cons]

theorem ite_length_eq_compatible {g : α → β → Verdict ι} {as : List α} {bs : List β} {f : Fault}
    (hv : as.length = bs.length → (v = compatible ↔ all (List.zipWith g as bs) = compatible)) :
    (if as.length = bs.length then v else fault f) = compatible ↔
      List.Forall₂ (fun a b => g a b = compatible) as bs := by
  by_cases h : as.length = bs.length
  · rw [if_pos h, hv h, all_zipWith_eq_compatible h]
  · rw [if_neg h]
    exact ⟨nofun, fun hforall => absurd hforall.length_eq h⟩

end Verdict

namespace Ty

open Verdict

variable {same : ι → ι → Bool} {parent child : Ty ι}

theorem compareLiteral_eq_compatible {name : String} {builtin : Bool} :
    compareLiteral parent name builtin child = compatible ↔ builtin = true ∧
      (name = moduleExports ∨ name ∈ comparableNames ∧ child.literalName? = some name) := by
  unfold compareLiteral
  cases builtin with
  | false => simp
  | true =>
    by_cases hexports : name = moduleExports
    · simp [hexports]
    · have hnames : name ∈ comparableNames ↔
          (name = "Object" ∨ name = "Array" ∨ name = "void") ∨
            name = "String" ∨ name = "Number" := by
        simp only [comparableNames, List.mem_cons, List.not_mem_nil, or_false]
        tauto
      cases child.literalName? with
      | none => simp [hexports]
      | some actual =>
        simp only [hnames, hexports, Option.some.injEq]
        split_ifs <;> simp_all

theorem shape_of_literalName? {t : Ty ι} {name : String} (h : t.literalName? = some name) :
    ∃ builtin, t.shape = .literal name builtin := by
  unfold literalName? at h
  split at h
  · rename_i name' builtin hshape
    exact ⟨builtin, Option.some.inj h ▸ hshape⟩
  · cases h

theorem compareReceivers_eq_compatible {receiver : Option (Comparison ι)}
    {receiver' : Option (Ty ι)} :
    compareReceivers parent child receiver receiver' = compatible ↔
      Option.Rel (fun c t => c t = compatible) receiver receiver' := by
  cases receiver <;> cases receiver' <;> simp [compareReceivers]

theorem compareGeneric_eq_compatible {base : Comparison ι} {params : List (Comparison ι)} :
    compareGeneric parent base params child = compatible ↔ ∃ base' params',
      child.shape = .generic base' params' ∧ base base' = compatible ∧
        List.Forall₂ (fun c t => c t = compatible) params params' := by
  unfold compareGeneric
  cases hchild : child.shape with
  | generic base' params' =>
    simp only [andThen_eq_compatible, Shape.generic.injEq]
    rw [ite_length_eq_compatible fun _ => reportedAs_eq_compatible]
    exact ⟨fun h => ⟨_, _, ⟨rfl, rfl⟩, h⟩, fun ⟨_, _, ⟨hbase, hparams⟩, h⟩ => hbase ▸ hparams ▸ h⟩
  | _ => simp

theorem compareFunction_eq_compatible {args : List (Comparison ι)}
    {receiver : Option (Comparison ι)} {result : Comparison ι} :
    compareFunction parent args receiver result child = compatible ↔ ∃ args' receiver' result',
      child.shape = .function args' receiver' result' ∧
        List.Forall₂ (fun c t => c t = compatible) args args' ∧
        Option.Rel (fun c t => c t = compatible) receiver receiver' ∧
        result result' = compatible := by
  unfold compareFunction
  cases hchild : child.shape with
  | function args' receiver' result' =>
    simp only [andThen_eq_compatible, compareReceivers_eq_compatible, Shape.function.injEq]
    rw [ite_length_eq_compatible fun _ => Iff.rfl]
    constructor
    · rintro ⟨hresult, hreceiver, hargs⟩
      exact ⟨_, _, _, ⟨rfl, rfl, rfl⟩, hargs, hreceiver, hresult⟩
    · rintro ⟨_, _, _, ⟨rfl, rfl, rfl⟩, hargs, hreceiver, hresult⟩
      exact ⟨hresult, hreceiver, hargs⟩
  | _ => simp

theorem compareObject_eq_compatible {id : ι} {fields : List (Field (Comparison ι))} :
    compareObject same parent id fields child = compatible ↔ ∃ id' fields',
      child.shape = .object id' fields' ∧ (same id id' = true ∨
        List.Forall₂ (fun f g => f.type g.type = compatible) fields fields') := by
  unfold compareObject
  cases hchild : child.shape with
  | object id' fields' =>
    simp only [Shape.object.injEq]
    by_cases hsame : same id id' = true
    · rw [if_pos hsame]
      exact ⟨fun _ => ⟨_, _, ⟨rfl, rfl⟩, .inl hsame⟩, fun _ => rfl⟩
    · rw [if_neg hsame, ite_length_eq_compatible fun _ => Iff.rfl]
      constructor
      · exact fun h => ⟨_, _, ⟨rfl, rfl⟩, .inr h⟩
      · rintro ⟨_, _, ⟨rfl, rfl⟩, h⟩
        exact h.resolve_left hsame
  | _ => simp

/-- Types are compatible if their shapes fit and so do, in turn, the smaller types. -/
theorem compareBy_eq_compatible : compareBy same parent child = compatible ↔
    parent.shape.Fits same (fun t u => compareBy same t u = compatible) child.shape := by
  rw [compareBy_eq]
  cases hparent : parent.shape with
  | literal name builtin =>
    simp only [Shape.map, compareShape, compareLiteral_eq_compatible]
    constructor
    · rintro ⟨rfl, rfl | ⟨hname, hchild⟩⟩
      · exact .exports _
      · obtain ⟨builtin, hchild⟩ := shape_of_literalName? hchild
        rw [hchild]
        exact .literal hname builtin
    · intro h
      generalize hchild : child.shape = s at h
      cases h with
      | exports s => exact ⟨rfl, .inl rfl⟩
      | literal hname builtin => exact ⟨rfl, .inr ⟨hname, by simp [literalName?, hchild]⟩⟩
  | generic base params =>
    simp only [Shape.map, compareShape, compareGeneric_eq_compatible, List.forall₂_map_left_iff]
    constructor
    · rintro ⟨base', params', hchild, hbase, hparams⟩
      rw [hchild]
      exact .generic hbase hparams
    · intro h
      generalize hchild : child.shape = s at h
      cases h with
      | generic hbase hparams => exact ⟨_, _, rfl, hbase, hparams⟩
  | function args receiver result =>
    simp only [Shape.map, compareShape, compareFunction_eq_compatible, List.forall₂_map_left_iff]
    constructor
    · rintro ⟨args', receiver', result', hchild, hargs, hreceiver, hresult⟩
      rw [hchild]
      refine .function hargs ?_ hresult
      cases receiver with
      | none =>
        cases hreceiver
        exact .none
      | some receiver =>
        cases hreceiver with
        | some h => exact .some h
    · intro h
      generalize hchild : child.shape = s at h
      cases h with
      | function hargs hreceiver hresult =>
        refine ⟨_, _, _, rfl, hargs, ?_, hresult⟩
        cases hreceiver with
        | none => exact .none
        | some h => exact .some h
  | object id fields =>
    simp only [Shape.map, compareShape, compareObject_eq_compatible, List.forall₂_map_left_iff]
    constructor
    · rintro ⟨id', fields', hchild, hsame | hfields⟩
      · rw [hchild]
        exact .shared hsame _ _
      · rw [hchild]
        exact .object _ _ hfields
    · intro h
      generalize hchild : child.shape = s at h
      cases h with
      | shared hsame _ _ => exact ⟨_, _, rfl, .inl hsame⟩
      | object _ _ hfields => exact ⟨_, _, rfl, .inr hfields⟩
  | value _ | union _ | intersection _ | tuple _ =>
    constructor
    · intro h
      cases h
    · intro h
      cases h

end Ty

/-! ### Fields of compatible objects -/

theorem exists_find?_of_place {R : Field τ → Field σ → Prop} {fields : List (Field τ)}
    {fields' : List (Field σ)} (h : List.Forall₂ R fields fields') {key : String}
    (hplace : (fields.map (·.key)).idxOf key = (fields'.map (·.key)).idxOf key) {f : Field τ}
    (hf : fields.find? (·.key == key) = some f) :
    ∃ g, fields'.find? (·.key == key) = some g ∧ R f g := by
  induction h with
  | nil => cases hf
  | @cons f' g fields fields' hR _ ih =>
    simp only [List.map_cons, List.idxOf_cons, List.find?_cons] at hplace hf ⊢
    cases hkey : f'.key == key <;> cases hkey' : g.key == key <;>
      simp only [hkey, hkey', cond_true, cond_false] at hplace hf ⊢
    · exact ih (Nat.succ.inj hplace) hf
    · cases hplace
    · cases hplace
    · cases hf
      exact ⟨g, rfl, hR⟩

/-- The access to a field is accepted exactly if the object has the field. -/
theorem Visit.run_member_eq_some {loc : Location} {key : String} {object t : TypeInst} {env : Env} :
    (member loc key object).run env = (.ok (some t), env) ↔
      ∃ f, object.field? key = some f ∧ f.type = t := by
  have hnone : ∀ {v : Typed} {env' : Env}, v.run env = (.ok none, env') → object.field? key = none →
      (v.run env = (.ok (some t), env) ↔ ∃ f, object.field? key = some f ∧ f.type = t) := by
    intro v env' hv hfield
    rw [hv, hfield]
    exact ⟨nofun, nofun⟩
  unfold member
  split
  · rename_i members hshape
    exact hnone rfl (by simp [Ty.field?, hshape])
  · split
    · rename_i f hfield
      rw [hfield]
      constructor
      · rintro ⟨⟩
        exact ⟨f, rfl, rfl⟩
      · rintro ⟨_, ⟨⟩, rfl⟩
        rfl
    · rename_i hfield
      exact hnone rfl hfield
  · rename_i hunion hobject
    refine hnone rfl ?_
    unfold Ty.field?
    split
    · rename_i id fields hshape
      exact absurd hshape (hobject id fields)
    · rfl

namespace Ty

/-- Objects that are not the same instance are compatible place by place. -/
theorem compareBy_object_eq_compatible {same : ι → ι → Bool} {parent child : Ty ι} {id id' : ι}
    {fields fields' : List (Field (Ty ι))} (hparent : parent.shape = .object id fields)
    (hchild : child.shape = .object id' fields') (hid : same id id' = false) :
    compareBy same parent child = .compatible ↔
      List.Forall₂ (fun f g => compareBy same f.type g.type = .compatible) fields fields' := by
  rw [compareBy_eq_compatible, hparent, hchild]
  constructor
  · intro h
    cases h with
    | shared hsame => exact absurd hsame (by simp [hid])
    | object _ _ h => exact h
  · exact fun h => .object _ _ h

/-- **Object types are compatible place by place**, and so a key that has the same place in both
gives compatible fields. -/
theorem compatible_objects (parent child : TypeInst) (id id' : Nat)
    (fields fields' : List (Field TypeInst)) (hparent : parent.shape = .object id fields)
    (hchild : child.shape = .object id' fields') (hid : id ≠ id') :
    (parent.compare child = .compatible ↔
      List.Forall₂ (fun f g => f.type.compare g.type = .compatible) fields fields') ∧
    (parent.compare child = .compatible → ∀ key,
      (Visit.keys parent).idxOf key = (Visit.keys child).idxOf key →
      (∀ f, parent.field? key = some f →
        ∃ g, child.field? key = some g ∧ f.type.compare g.type = .compatible) ∧
      ∀ loc env t, (Visit.member loc key parent).run env = (.ok (some t), env) →
        ∃ u, (Visit.member loc key child).run env = (.ok (some u), env) ∧
          t.compare u = .compatible) := by
  have hfields : parent.compare child = .compatible ↔
      List.Forall₂ (fun f g => f.type.compare g.type = .compatible) fields fields' :=
    compareBy_object_eq_compatible hparent hchild (by simpa using hid)
  refine ⟨hfields, fun hcompatible key hplace => ?_⟩
  have hfield : ∀ f, parent.field? key = some f →
      ∃ g, child.field? key = some g ∧ f.type.compare g.type = .compatible := by
    simp only [Visit.keys, hparent, hchild] at hplace
    simp only [field?, hparent, hchild]
    exact fun f hf => exists_find?_of_place (hfields.1 hcompatible) hplace hf
  refine ⟨hfield, fun loc env t ht => ?_⟩
  obtain ⟨f, hf, rfl⟩ := Visit.run_member_eq_some.1 ht
  obtain ⟨g, hg, hcompatible⟩ := hfield f hf
  exact ⟨g.type, Visit.run_member_eq_some.2 ⟨g, hg, rfl⟩, hcompatible⟩

/-- A record of a string and a number, with the given keys. -/
def entryRecord (id : Nat) (key key' : String) : TypeInst :=
  .ofShape (.object id [⟨key, false, .literal "String"⟩, ⟨key', false, .literal "Number"⟩])

/-- Two records with one key in common, which can be looked up in both. -/
theorem compatible_objects_entries :
    (entryRecord 1 "name" "size").compare (entryRecord 2 "name" "age") = .compatible ∧
      (∃ g, (entryRecord 2 "name" "age").field? "name" = some g ∧
        (Ty.literal "String" : TypeInst).compare g.type = .compatible) ∧
      (entryRecord 2 "name" "age").field? "size" = none := by
  have h := compatible_objects (entryRecord 1 "name" "size") (entryRecord 2 "name" "age") 1 2 _ _
    rfl rfl (by decide)
  exact ⟨rfl, (h.2 rfl "name" rfl).1 _ rfl, rfl⟩

/-- Keys are not compared, so a field of the declared type may be missing. -/
theorem not_forall_field_of_compatible :
    ¬∀ (parent child : TypeInst) (id id' : Nat) (fields fields' : List (Field TypeInst)),
      parent.shape = .object id fields → child.shape = .object id' fields' → id ≠ id' →
      parent.compare child = .compatible → ∀ key f, parent.field? key = some f →
        ∃ g, child.field? key = some g ∧ f.type.compare g.type = .compatible := by
  intro h
  obtain ⟨g, hg, -⟩ := h (entryRecord 1 "name" "size") (entryRecord 2 "name" "age") 1 2 _ _ rfl rfl
    (by decide) rfl "size" _ rfl
  cases hg

end Ty

end SigCheck
