import SigCheck.Proofs.Sharing

/-!
# Which mismatch is reported

A comparison reports one pair of types, however many do not fit.  `Ty.FailsHere` says when two types
do not fit at their own level, and `Ty.Descends` how a comparison comes from two types to two
smaller ones, past everything that it looks at before.  A comparison never goes down to the
parameters of a generic type for its report: a parameter that does not fit is a failure of the whole
type.

`Ty.FirstFailure` puts the two together, and `Ty.compareBy_eq_mismatch` says that the pair reported
is exactly the one that it leads to.
-/

namespace SigCheck

variable {ι α β : Type}

/-! ### The first place in two lists -/

/-- The lists are of the same length, `a` and `b` stand at the place `i`, and `R` holds at all
places before. -/
structure FirstAt (R : α → β → Prop) (as : List α) (bs : List β) (i : Nat) (a : α) (b : β) :
    Prop where
  length : as.length = bs.length
  left : as[i]? = some a
  right : bs[i]? = some b
  before : ∀ j, j < i → ∀ x, as[j]? = some x → ∀ y, bs[j]? = some y → R x y

theorem firstAt_cons {R : α → β → Prop} {as : List α} {bs : List β} {i : Nat} {a x : α} {b y : β} :
    FirstAt R (x :: as) (y :: bs) i a b ↔
      (i = 0 ∧ a = x ∧ b = y ∧ as.length = bs.length) ∨
        ∃ j, i = j + 1 ∧ R x y ∧ FirstAt R as bs j a b := by
  constructor
  · rintro ⟨hlength, hleft, hright, hbefore⟩
    cases i with
    | zero =>
      exact .inl ⟨rfl, (Option.some.inj hleft).symm, (Option.some.inj hright).symm,
        Nat.succ.inj hlength⟩
    | succ j =>
      refine .inr ⟨j, rfl, hbefore 0 (Nat.succ_pos j) x rfl y rfl, Nat.succ.inj hlength, hleft,
        hright, fun k hk => ?_⟩
      exact hbefore (k + 1) (Nat.succ_lt_succ hk)
  · rintro (⟨rfl, rfl, rfl, hlength⟩ | ⟨j, rfl, hxy, hlength, hleft, hright, hbefore⟩)
    · exact ⟨congrArg Nat.succ hlength, rfl, rfl, fun k hk => absurd hk (Nat.not_lt_zero k)⟩
    · refine ⟨congrArg Nat.succ hlength, hleft, hright, fun k hk => ?_⟩
      cases k with
      | zero =>
        rintro _ ⟨⟩ _ ⟨⟩
        exact hxy
      | succ k => exact hbefore k (Nat.lt_of_succ_lt_succ hk)

namespace Verdict

variable {v w : Verdict ι} {p c : Ty ι}

theorem andThen_eq_mismatch :
    v.andThen w = mismatch p c ↔ v = mismatch p c ∨ v = compatible ∧ w = mismatch p c := by
  cases v <;> simp [andThen]

theorem reportedAs_eq_mismatch {expected actual : Ty ι} :
    v.reportedAs expected actual = mismatch p c ↔
      (∃ p' c', v = mismatch p' c') ∧ p = expected ∧ c = actual := by
  cases v <;> simp [reportedAs, eq_comm]

theorem all_zipWith_eq_mismatch {g : α → β → Verdict ι} {as : List α} {bs : List β}
    (h : as.length = bs.length) :
    all (List.zipWith g as bs) = mismatch p c ↔
      ∃ i a b, FirstAt (fun x y => g x y = compatible) as bs i a b ∧ g a b = mismatch p c := by
  induction as generalizing bs with
  | nil =>
    constructor
    · intro h
      cases h
    · rintro ⟨i, a, b, hfirst, -⟩
      cases hfirst.left
  | cons x as ih =>
    cases bs with
    | nil => cases h
    | cons y bs =>
      have hlength := Nat.succ.inj h
      rw [List.zipWith_cons_cons, all, andThen_eq_mismatch, ih hlength]
      simp only [firstAt_cons]
      constructor
      · rintro (hxy | ⟨hxy, i, a, b, hfirst, hab⟩)
        · exact ⟨0, x, y, .inl ⟨rfl, rfl, rfl, hlength⟩, hxy⟩
        · exact ⟨i + 1, a, b, .inr ⟨i, rfl, hxy, hfirst⟩, hab⟩
      · rintro ⟨i, a, b, ⟨-, rfl, rfl, -⟩ | ⟨j, -, hxy, hfirst⟩, hab⟩
        · exact .inl hab
        · exact .inr ⟨hxy, j, a, b, hfirst, hab⟩

/-- Lists that are compared only if they have the same length. -/
theorem ite_length_eq_mismatch {g : α → β → Verdict ι} {as : List α} {bs : List β} {f : Fault} :
    (if as.length = bs.length then all (List.zipWith g as bs) else fault f) = mismatch p c ↔
      ∃ i a b, FirstAt (fun x y => g x y = compatible) as bs i a b ∧ g a b = mismatch p c := by
  by_cases h : as.length = bs.length
  · rw [if_pos h, all_zipWith_eq_mismatch h]
  · rw [if_neg h]
    constructor
    · intro hfault
      cases hfault
    · rintro ⟨i, a, b, hfirst, -⟩
      exact absurd hfirst.length h

end Verdict

/-! ### Failures and the way to them -/

/-- A comparison with a declared type of this shape asks for an inferred type of the same class. -/
def Shape.asksForClass {τ : Type} : Shape ι τ → Bool
  | .literal name builtin => builtin && name != Ty.moduleExports
  | .generic _ _ | .function _ _ _ | .object _ _ => true
  | .value _ | .union _ | .intersection _ | .tuple _ => false

namespace Ty

variable (same : ι → ι → Bool)

/-- The inferred type is compatible with the declared one. -/
abbrev Accepts (parent child : Ty ι) : Prop := compareBy same parent child = .compatible

/-- The two types do not fit at their own level. -/
inductive FailsHere (parent child : Ty ι) : Prop
  /-- They are of different classes. -/
  | kind (hparent : parent.shape.asksForClass = true)
      (h : parent.shape.title ≠ child.shape.title)
  /-- A string for a number, or the other way round. -/
  | name {name actual : String} {builtin : Bool} (hparent : parent.shape = .literal name true)
      (hname : name = "String" ∨ name = "Number") (hchild : child.shape = .literal actual builtin)
      (h : actual ≠ name)
  /-- Only one of two functions has a receiver. -/
  | receiver {args args' : List (Ty ι)} {receiver receiver' : Option (Ty ι)}
      {result result' : Ty ι} (hparent : parent.shape = .function args receiver result)
      (hchild : child.shape = .function args' receiver' result')
      (hresult : Accepts same result result') (h : receiver.isSome ≠ receiver'.isSome)
  /-- A parameter of a generic type is reported, and nothing before it fails. -/
  | parameter {base base' p c expected actual : Ty ι} {params params' : List (Ty ι)} {i : Nat}
      (hparent : parent.shape = .generic base params)
      (hchild : child.shape = .generic base' params') (hbase : Accepts same base base')
      (hfirst : FirstAt (Accepts same) params params' i p c)
      (h : compareBy same p c = .mismatch expected actual)

/-- The comparison of two types comes to the comparison of two smaller ones, since all that it looks
at before fits. -/
inductive Descends (parent child : Ty ι) : Ty ι → Ty ι → Prop
  | base {base base' : Ty ι} {params params' : List (Ty ι)}
      (hparent : parent.shape = .generic base params)
      (hchild : child.shape = .generic base' params') : Descends parent child base base'
  | result {args args' : List (Ty ι)} {receiver receiver' : Option (Ty ι)} {result result' : Ty ι}
      (hparent : parent.shape = .function args receiver result)
      (hchild : child.shape = .function args' receiver' result') :
      Descends parent child result result'
  | receiver {args args' : List (Ty ι)} {receiver receiver' result result' : Ty ι}
      (hparent : parent.shape = .function args (some receiver) result)
      (hchild : child.shape = .function args' (some receiver') result')
      (hresult : Accepts same result result') : Descends parent child receiver receiver'
  | argument {args args' : List (Ty ι)} {receiver receiver' : Option (Ty ι)}
      {result result' arg arg' : Ty ι} (i : Nat)
      (hparent : parent.shape = .function args receiver result)
      (hchild : child.shape = .function args' receiver' result')
      (hresult : Accepts same result result')
      (hreceiver : Option.Rel (Accepts same) receiver receiver')
      (hfirst : FirstAt (Accepts same) args args' i arg arg') : Descends parent child arg arg'
  | field {id id' : ι} {fields fields' : List (Field (Ty ι))} {f f' : Field (Ty ι)} (i : Nat)
      (hparent : parent.shape = .object id fields) (hchild : child.shape = .object id' fields')
      (hid : same id id' = false)
      (hfirst : FirstAt (Accepts same ·.type ·.type) fields fields' i f f') :
      Descends parent child f.type f'.type

/-- The comparison of two types leads to two types that do not fit. -/
inductive FirstFailure : Ty ι → Ty ι → Ty ι → Ty ι → Prop
  | here {parent child : Ty ι} (h : FailsHere same parent child) :
      FirstFailure parent child parent child
  | down {parent child t u p c : Ty ι} (hdown : Descends same parent child t u)
      (h : FirstFailure t u p c) : FirstFailure parent child p c

section levels

open Verdict

variable {same} {parent child p c : Ty ι}

/-! ### One level of a comparison -/

theorem compareBy_generic {base : Ty ι} {params : List (Ty ι)}
    (h : parent.shape = .generic base params) :
    compareBy same parent child =
      compareGeneric parent (compareBy same base) (params.map (compareBy same)) child := by
  rw [compareBy_eq, h]
  rfl

theorem compareBy_function {args : List (Ty ι)} {receiver : Option (Ty ι)} {result : Ty ι}
    (h : parent.shape = .function args receiver result) :
    compareBy same parent child = compareFunction parent (args.map (compareBy same))
      (receiver.map (compareBy same)) (compareBy same result) child := by
  rw [compareBy_eq, h]
  rfl

theorem compareBy_object {id : ι} {fields : List (Field (Ty ι))}
    (h : parent.shape = .object id fields) :
    compareBy same parent child =
      compareObject same parent id (fields.map (·.map (compareBy same))) child := by
  rw [compareBy_eq, h]
  rfl

theorem compareBy_literal {name : String} {builtin : Bool}
    (h : parent.shape = .literal name builtin) :
    compareBy same parent child = compareLiteral parent name builtin child := by
  rw [compareBy_eq, h]
  rfl

theorem literalName?_eq_none : child.literalName? = none ↔ child.shape.title ≠ "typeLiteral" := by
  unfold literalName?
  cases child.shape <;> simp [Shape.title]

theorem compareReceivers_eq_mismatch {receiver receiver' : Option (Ty ι)} :
    compareReceivers parent child (receiver.map (compareBy same)) receiver' = mismatch p c ↔
      (receiver.isSome ≠ receiver'.isSome ∧ p = parent ∧ c = child) ∨
        ∃ t u, receiver = some t ∧ receiver' = some u ∧ compareBy same t u = mismatch p c := by
  cases receiver <;> cases receiver' <;> simp [compareReceivers, eq_comm]

theorem compareReceivers_map_eq_compatible {receiver receiver' : Option (Ty ι)} :
    compareReceivers parent child (receiver.map (compareBy same)) receiver' = compatible ↔
      Option.Rel (Accepts same) receiver receiver' := by
  cases receiver <;> cases receiver' <;> simp [compareReceivers]

/-- Two types that fail at their own level are reported themselves. -/
theorem FailsHere.compareBy_eq (h : FailsHere same parent child) :
    compareBy same parent child = mismatch parent child := by
  cases h with
  | kind hparent h =>
    cases hshape : parent.shape with
    | literal name builtin =>
      rw [hshape] at hparent h
      obtain ⟨rfl, hname⟩ : builtin = true ∧ name ≠ moduleExports := by
        simpa [Shape.asksForClass] using hparent
      have hchild : child.literalName? = none := literalName?_eq_none.2 (Ne.symm h)
      rw [compareBy_literal hshape]
      simp [compareLiteral, hname, hchild]
    | generic base params =>
      rw [compareBy_generic hshape, compareGeneric]
      split
      · rename_i hchild
        rw [hshape, hchild] at h
        exact absurd rfl h
      · rfl
    | function args receiver result =>
      rw [compareBy_function hshape, compareFunction]
      split
      · rename_i hchild
        rw [hshape, hchild] at h
        exact absurd rfl h
      · rfl
    | object id fields =>
      rw [compareBy_object hshape, compareObject]
      split
      · rename_i hchild
        rw [hshape, hchild] at h
        exact absurd rfl h
      · rfl
    | value _ | union _ | intersection _ | tuple _ =>
      rw [hshape] at hparent
      cases hparent
  | @name name actual builtin hparent hname hchild h =>
    have hactual : child.literalName? = some actual := by simp [literalName?, hchild]
    rw [compareBy_literal hparent]
    rcases hname with rfl | rfl <;> simp [compareLiteral, hactual, h, moduleExports]
  | receiver hparent hchild hresult h =>
    rw [compareBy_function hparent, compareFunction, hchild]
    dsimp only
    rw [hresult, andThen, andThen_eq_mismatch]
    exact .inl (compareReceivers_eq_mismatch.2 (.inl ⟨h, rfl, rfl⟩))
  | parameter hparent hchild hbase hfirst h =>
    rw [compareBy_generic hparent, compareGeneric, hchild]
    dsimp only
    rw [hbase, andThen, List.length_map, if_pos hfirst.length, List.zipWith_map_left,
      reportedAs_eq_mismatch]
    have hparam := (all_zipWith_eq_mismatch hfirst.length).2 ⟨_, _, _, hfirst, h⟩
    exact ⟨⟨_, _, hparam⟩, rfl, rfl⟩

/-- What is reported of the types that a comparison comes to is reported. -/
theorem Descends.compareBy_eq {t u : Ty ι} (hdown : Descends same parent child t u)
    (h : compareBy same t u = mismatch p c) : compareBy same parent child = mismatch p c := by
  cases hdown with
  | base hparent hchild =>
    rw [compareBy_generic hparent, compareGeneric, hchild]
    exact andThen_eq_mismatch.2 (.inl h)
  | result hparent hchild =>
    rw [compareBy_function hparent, compareFunction, hchild]
    exact andThen_eq_mismatch.2 (.inl h)
  | receiver hparent hchild hresult =>
    rw [compareBy_function hparent, compareFunction, hchild]
    dsimp only
    rw [hresult, andThen, andThen_eq_mismatch]
    exact .inl (compareReceivers_eq_mismatch.2 (.inr ⟨_, _, rfl, rfl, h⟩))
  | argument i hparent hchild hresult hreceiver hfirst =>
    rw [compareBy_function hparent, compareFunction, hchild]
    dsimp only
    rw [hresult, andThen, compareReceivers_map_eq_compatible.2 hreceiver, andThen, List.length_map,
      List.zipWith_map_left, ite_length_eq_mismatch]
    exact ⟨i, _, _, hfirst, h⟩
  | field i hparent hchild hid hfirst =>
    rw [compareBy_object hparent, compareObject, hchild]
    dsimp only
    rw [if_neg (by simp [hid]), List.length_map, List.zipWith_map_left, ite_length_eq_mismatch]
    exact ⟨i, _, _, hfirst, h⟩

/-- The two types fail at their own level, or their comparison comes to what is reported of smaller
ones. -/
abbrev FailsOrDescends (same : ι → ι → Bool) (parent child p c : Ty ι) : Prop :=
  (FailsHere same parent child ∧ p = parent ∧ c = child) ∨
    ∃ t u, Descends same parent child t u ∧ compareBy same t u = mismatch p c

theorem failsOrDescends_literal {name : String} {builtin : Bool}
    (hparent : parent.shape = .literal name builtin)
    (h : compareBy same parent child = mismatch p c) : FailsOrDescends same parent child p c := by
  rw [compareBy_literal hparent, compareLiteral] at h
  cases hactual : child.literalName? with
  | none =>
    rw [hactual] at h
    dsimp only at h
    split_ifs at h with hbuiltin hexports
    obtain rfl : builtin = true := by simpa using hbuiltin
    obtain ⟨rfl, rfl⟩ := Verdict.mismatch.inj h
    refine .inl ⟨.kind (by simpa [hparent, Shape.asksForClass] using hexports) ?_, rfl, rfl⟩
    rw [hparent]
    exact (literalName?_eq_none.1 hactual).symm
  | some actual =>
    rw [hactual] at h
    dsimp only at h
    split_ifs at h with hbuiltin hexports hfixed hfixedName hname heq
    obtain rfl : builtin = true := by simpa using hbuiltin
    obtain ⟨rfl, rfl⟩ := Verdict.mismatch.inj h
    obtain ⟨builtin', hchild⟩ := shape_of_literalName? hactual
    exact .inl ⟨.name hparent hname hchild heq, rfl, rfl⟩

theorem failsOrDescends_generic {base base' : Ty ι} {params params' : List (Ty ι)}
    (hparent : parent.shape = .generic base params) (hchild : child.shape = .generic base' params')
    (h : compareBy same parent child = mismatch p c) : FailsOrDescends same parent child p c := by
  rw [compareBy_generic hparent, compareGeneric, hchild] at h
  rcases andThen_eq_mismatch.1 h with hbase | ⟨hbase, h⟩
  · exact .inr ⟨base, base', .base hparent hchild, hbase⟩
  · rw [List.length_map, List.zipWith_map_left] at h
    split_ifs at h with hlength
    obtain ⟨⟨p', c', hparams⟩, rfl, rfl⟩ := reportedAs_eq_mismatch.1 h
    obtain ⟨i, t, u, hfirst, hparam⟩ := (all_zipWith_eq_mismatch hlength).1 hparams
    exact .inl ⟨.parameter hparent hchild hbase hfirst hparam, rfl, rfl⟩

theorem failsOrDescends_function {args args' : List (Ty ι)} {receiver receiver' : Option (Ty ι)}
    {result result' : Ty ι} (hparent : parent.shape = .function args receiver result)
    (hchild : child.shape = .function args' receiver' result')
    (h : compareBy same parent child = mismatch p c) : FailsOrDescends same parent child p c := by
  rw [compareBy_function hparent, compareFunction, hchild] at h
  rcases andThen_eq_mismatch.1 h with hresult | ⟨hresult, h⟩
  · exact .inr ⟨result, result', .result hparent hchild, hresult⟩
  rcases andThen_eq_mismatch.1 h with hreceiver | ⟨hreceiver, h⟩
  · rcases compareReceivers_eq_mismatch.1 hreceiver with ⟨hone, rfl, rfl⟩ | ⟨t, u, rfl, rfl, htu⟩
    · exact .inl ⟨.receiver hparent hchild hresult hone, rfl, rfl⟩
    · exact .inr ⟨t, u, .receiver hparent hchild hresult, htu⟩
  · rw [List.length_map, List.zipWith_map_left, ite_length_eq_mismatch] at h
    obtain ⟨i, t, u, hfirst, h⟩ := h
    have hreceivers := compareReceivers_map_eq_compatible.1 hreceiver
    exact .inr ⟨t, u, .argument i hparent hchild hresult hreceivers hfirst, h⟩

theorem failsOrDescends_object {id id' : ι} {fields fields' : List (Field (Ty ι))}
    (hparent : parent.shape = .object id fields) (hchild : child.shape = .object id' fields')
    (h : compareBy same parent child = mismatch p c) : FailsOrDescends same parent child p c := by
  rw [compareBy_object hparent, compareObject, hchild] at h
  dsimp only at h
  split at h
  · cases h
  · rename_i hid
    rw [List.length_map, List.zipWith_map_left, ite_length_eq_mismatch] at h
    obtain ⟨i, f, f', hfirst, h⟩ := h
    exact .inr ⟨f.type, f'.type, .field i hparent hchild (Bool.eq_false_iff.2 hid) hfirst, h⟩

/-- What is reported fails at its own level, or it is what is reported of smaller types. -/
theorem failsOrDescends (h : compareBy same parent child = mismatch p c) :
    FailsOrDescends same parent child p c := by
  by_cases hkind : parent.shape.asksForClass = true → parent.shape.title = child.shape.title
  · cases hparent : parent.shape with
    | literal name builtin => exact failsOrDescends_literal hparent h
    | generic base params =>
      rw [hparent] at hkind
      cases hchild : child.shape with
      | generic base' params' => exact failsOrDescends_generic hparent hchild h
      | _ => simp [hchild, Shape.asksForClass, Shape.title] at hkind
    | function args receiver result =>
      rw [hparent] at hkind
      cases hchild : child.shape with
      | function args' receiver' result' => exact failsOrDescends_function hparent hchild h
      | _ => simp [hchild, Shape.asksForClass, Shape.title] at hkind
    | object id fields =>
      rw [hparent] at hkind
      cases hchild : child.shape with
      | object id' fields' => exact failsOrDescends_object hparent hchild h
      | _ => simp [hchild, Shape.asksForClass, Shape.title] at hkind
    | value _ | union _ | intersection _ | tuple _ =>
      rw [compareBy_eq, hparent] at h
      cases h
  · have hfails : FailsHere same parent child := by
      push Not at hkind
      exact .kind hkind.1 hkind.2
    obtain ⟨rfl, rfl⟩ := Verdict.mismatch.inj (hfails.compareBy_eq.symm.trans h)
    exact .inl ⟨hfails, rfl, rfl⟩

theorem Descends.mem_children {t u : Ty ι} (h : Descends same parent child t u) :
    t ∈ parent.shape.children := by
  cases h with
  | base hparent _ | result hparent _ | receiver hparent _ _ =>
    rw [hparent]
    simp [Shape.children]
  | argument i hparent hchild hresult hreceiver hfirst =>
    rw [hparent]
    simp [Shape.children, List.mem_of_getElem? hfirst.left]
  | field i hparent hchild hid hfirst =>
    rw [hparent]
    exact List.mem_map_of_mem (List.mem_of_getElem? hfirst.left)

/-- A comparison reports the pair that it leads to. -/
theorem compareBy_eq_mismatch :
    compareBy same parent child = mismatch p c ↔ FirstFailure same parent child p c := by
  constructor
  · intro h
    induction parent using Ty.induction generalizing child with
    | step parent ih =>
      rcases failsOrDescends h with ⟨hfails, rfl, rfl⟩ | ⟨t, u, hdown, htu⟩
      · exact .here hfails
      · exact .down hdown (ih t hdown.mem_children htu)
  · intro h
    induction h with
    | here hfails => exact hfails.compareBy_eq
    | down hdown _ ih => exact hdown.compareBy_eq ih

end levels

/-- **The diagnostic about two types names the first pair that does not fit**, and the whole of a
generic type if one of its parameters does not. -/
theorem outcome_eq_first_failure (loc : Location) (parent child : TypeInst) (d : Diagnostic) :
    (parent.compare child).outcome loc = .ok (some d) ↔
      ∃ p c, FirstFailure (· == ·) parent child p c ∧
        d = ⟨.typeClassMismatch p.text c.text, loc⟩ := by
  simp only [← compareBy_eq_mismatch, compare]
  cases compareBy (· == ·) parent child <;> simp [Verdict.outcome, eq_comm, and_assoc]

/-- A function of a string, an array and a number. -/
def mixedFunction (item last : String) : TypeInst :=
  .ofShape (.function
    [.literal "String", .ofShape (.generic (.literal "Array") [.literal item]), .literal last]
    none (.literal "void"))

example (loc : Location) :
    ((mixedFunction "String" "Number").compare (mixedFunction "Number" "String")).outcome loc =
      .ok (some ⟨.typeClassMismatch "Array<String>" "Array<Number>", loc⟩) := rfl

end Ty

end SigCheck
