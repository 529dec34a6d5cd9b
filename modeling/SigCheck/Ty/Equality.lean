import SigCheck.Ty

/-!
# Equality of types

`Ty.same` compares two types part by part: shapes, labels, optional marks, the references they were
expanded from and the identities of their object types.  It decides equality (`Ty.same_iff`); to
compare types in use whatever their instances, compare them after `Ty.erase`.
-/

namespace SigCheck

variable {ι κ τ : Type}

namespace Shape

/-- Two lists agree, element by element, under tests for the elements of the first. -/
def allAgree : List (τ → Bool) → List τ → Bool
  | [], [] => true
  | test :: tests, t :: ts => test t && allAgree tests ts
  | _, _ => false

/-- Two lists of fields agree, under tests for the types of the first. -/
def fieldsAgree : List (Field (τ → Bool)) → List (Field τ) → Bool
  | [], [] => true
  | f :: fs, g :: gs => f.key == g.key && f.optional == g.optional && f.type g.type &&
    fieldsAgree fs gs
  | _, _ => false

/-- Two types that may be missing agree, under a test for the first. -/
def optionAgrees : Option (τ → Bool) → Option τ → Bool
  | none, none => true
  | some test, some t => test t
  | _, _ => false

/-- Two shapes agree, under tests for the smaller types of the first. -/
def agrees [DecidableEq ι] : Shape ι (τ → Bool) → Shape ι τ → Bool
  | literal name builtin, literal name' builtin' => name == name' && builtin == builtin'
  | value text, value text' => text == text'
  | generic base params, generic base' params' => base base' && allAgree params params'
  | function args receiver result, function args' receiver' result' =>
    allAgree args args' && optionAgrees receiver receiver' && result result'
  | object id fields, object id' fields' => decide (id = id') && fieldsAgree fields fields'
  | union members, union members' => allAgree members members'
  | intersection members, intersection members' => allAgree members members'
  | tuple items, tuple items' => allAgree items items'
  | _, _ => false

variable {test : τ → τ → Bool}

theorem allAgree_iff {ts us : List τ} (h : ∀ t ∈ ts, ∀ u, test t u = true ↔ t = u) :
    allAgree (ts.map test) us = true ↔ ts = us := by
  induction ts generalizing us with
  | nil => cases us <;> simp [allAgree]
  | cons t ts ih =>
    cases us with
    | nil => simp [allAgree]
    | cons u us =>
      simp only [List.map_cons, allAgree, Bool.and_eq_true, List.cons.injEq]
      rw [h t (by simp), ih fun t' ht' => h t' (by simp [ht'])]

theorem fieldsAgree_iff {fs gs : List (Field τ)}
    (h : ∀ t ∈ fs.map (·.type), ∀ u, test t u = true ↔ t = u) :
    fieldsAgree (fs.map (·.map test)) gs = true ↔ fs = gs := by
  induction fs generalizing gs with
  | nil => cases gs <;> simp [fieldsAgree]
  | cons f fs ih =>
    cases gs with
    | nil => simp [fieldsAgree]
    | cons g gs =>
      simp only [List.map_cons, fieldsAgree, Bool.and_eq_true, List.cons.injEq, Field.key_map,
        Field.optional_map, Field.type_map, beq_iff_eq]
      rw [h f.type (by simp), ih fun t ht => h t (List.mem_cons_of_mem _ ht)]
      obtain ⟨_, _, _⟩ := f
      obtain ⟨_, _, _⟩ := g
      simp [and_assoc]

theorem optionAgrees_iff {t u : Option τ} (h : ∀ t' ∈ t.toList, ∀ u, test t' u = true ↔ t' = u) :
    optionAgrees (t.map test) u = true ↔ t = u := by
  cases t <;> cases u <;> simp_all [optionAgrees]

theorem agrees_iff [DecidableEq ι] {s s' : Shape ι τ}
    (h : ∀ t ∈ s.children, ∀ u, test t u = true ↔ t = u) :
    agrees (s.map test) s' = true ↔ s = s' := by
  cases s <;> cases s' <;>
    simp only [children, List.mem_append, List.mem_cons, List.not_mem_nil, or_false] at h <;>
    simp only [map, agrees, Bool.and_eq_true, beq_iff_eq, decide_eq_true_eq, literal.injEq,
      value.injEq, generic.injEq, function.injEq, object.injEq, union.injEq, intersection.injEq,
      tuple.injEq, reduceCtorEq, Bool.false_eq_true]
  case generic.generic base params base' params' =>
    rw [h base (.inl rfl), allAgree_iff fun t ht => h t (.inr ht)]
  case function.function args receiver result args' receiver' result' =>
    rw [h result (.inr rfl), allAgree_iff fun t ht => h t (.inl (.inr ht)),
      optionAgrees_iff fun t ht => h t (.inl (.inl ht)), and_assoc]
  case object.object id fields id' fields' => rw [fieldsAgree_iff h]
  case union.union => exact allAgree_iff h
  case intersection.intersection => exact allAgree_iff h
  case tuple.tuple => exact allAgree_iff h

end Shape

namespace Ty

/-- Two types are the same in every part. -/
def same [DecidableEq ι] : Ty ι → Ty ι → Bool :=
  fold fun t shape raw u =>
    t.label == u.label && t.optional == u.optional && Shape.optionAgrees raw u.raw &&
      shape.agrees u.shape

theorem same_iff [DecidableEq ι] {t u : Ty ι} : t.same u = true ↔ t = u := by
  induction t using Ty.induction generalizing u with
  | step t hc hr =>
    rw [same, fold_eq]
    simp only [Bool.and_eq_true, beq_iff_eq]
    have hraw : Shape.optionAgrees (t.raw.map same) u.raw = true ↔ t.raw = u.raw :=
      Shape.optionAgrees_iff fun r hr' u => by
        rw [hr r (by simpa using hr')]
    have hshape : (t.shape.map same).agrees u.shape = true ↔ t.shape = u.shape :=
      Shape.agrees_iff fun c hc' u => by rw [hc c hc']
    change ((t.label = u.label ∧ t.optional = u.optional) ∧
      Shape.optionAgrees (t.raw.map same) u.raw = true) ∧
      (t.shape.map same).agrees u.shape = true ↔ t = u
    rw [hraw, hshape]
    obtain ⟨_, _, _, _⟩ := t
    obtain ⟨_, _, _, _⟩ := u
    simp only [Ty.mk.injEq]
    constructor
    · rintro ⟨⟨⟨rfl, rfl⟩, rfl⟩, rfl⟩
      simp
    · rintro ⟨rfl, rfl, rfl, rfl⟩
      simp

instance [DecidableEq ι] : DecidableEq (Ty ι) := fun _ _ => decidable_of_iff _ same_iff

/-- Changes the identities of the object types in a type. -/
def mapId (g : ι → κ) : Ty ι → Ty κ :=
  fold fun t shape raw => ⟨shape.mapId g, t.label, t.optional, raw⟩

theorem mapId_eq (g : ι → κ) (t : Ty ι) :
    t.mapId g = ⟨(t.shape.map (mapId g)).mapId g, t.label, t.optional, t.raw.map (mapId g)⟩ :=
  fold_eq _ t

/-- The type without its instances. -/
def erase (t : Ty ι) : TypeExpr := t.mapId fun _ => ()

end Ty

end SigCheck
