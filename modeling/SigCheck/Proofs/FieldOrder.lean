import SigCheck.Proofs.Bodies

/-!
# The order of fields in a constructor

A constructor must assign the fields of its receiver in the order in which they are declared.
`Node.fieldsInOrder` lists the fields that the statements of a node assign through `this`, in the
order of a visit and without the bodies of further functions, and `Node.AssignsInPlace` says that
every such assignment is a statement of its own.

A visit to a node of the second kind adds exactly this list to the record of a constructor
(`Visit.advances_fields`): a statement adds what the statements in it add, and everything else adds
nothing.  What is left is the comparison of the record with the declared keys
(`Visit.firstDeviation_eq_none_iff`, `Visit.exists_deviatesAt`), so the diagnostic about
the order of fields is right (`Env.missing_field_iff`).
-/

namespace SigCheck

namespace Node

/-! ### Assignments to fields -/

/-- The field in an assignment `this.field = value`. -/
def assignedField? (n : Node) : Option String :=
  match n.kind with
  | .assignmentExpression _ left _ =>
    match left.member? with
    | some (object, field) => if object.isThis then some field else none
    | none => none
  | _ => none

/-- The field in a statement `this.field = value;`. -/
def statementField? (n : Node) : Option String :=
  match n.kind with
  | .expressionStatement expression => expression.assignedField?
  | _ => none

/-- The node is an assignment to a field of `this`. -/
def AssignsField (n : Node) : Prop := n.assignedField? ≠ none

/-- The fields that the statements of a node assign, in the order of a visit. -/
def fieldsInOrder (n : Node) : List String :=
  n.statementField?.toList ++ n.kind.statements.attach.flatMap fun c => fieldsInOrder c.1
termination_by sizeOf n
decreasing_by
  exact sizeOf_lt_of_mem_children (mem_children_of_mem_outer (mem_outer.2 (.inr c.2)))

theorem fieldsInOrder_eq (n : Node) :
    n.fieldsInOrder = n.statementField?.toList ++ n.kind.statements.flatMap fieldsInOrder := by
  rw [fieldsInOrder, List.flatMap_subtype (g := fieldsInOrder) (fun _ _ => rfl),
    List.unattach_attach]

/-- What the node holds of assignments to fields of `this`, outside the bodies of functions, are
statements of their own in statement position. -/
inductive AssignsInPlace : Node → Prop
  | field {n expression : Node} (hkind : n.kind = .expressionStatement expression)
      (hfield : expression.AssignsField)
      (hoperands : ∀ c ∈ expression.kind.operands, ¬c.Has AssignsField) : AssignsInPlace n
  | other {n : Node} (hself : ¬n.AssignsField)
      (hoperands : ∀ c ∈ n.kind.operands, ¬c.Has AssignsField)
      (hstatements : ∀ c ∈ n.kind.statements, AssignsInPlace c) : AssignsInPlace n

theorem eq_of_member? {n object : Node} {field : String} (h : n.member? = some (object, field)) :
    ∃ loc nameLoc, n = ⟨loc, .memberExpression object ⟨nameLoc, .identifier field⟩ false⟩ := by
  obtain ⟨loc, kind⟩ := n
  unfold member? at h
  split at h
  · rename_i object' property hkind
    obtain ⟨name, hname, hpair⟩ := Option.map_eq_some_iff.1 h
    obtain ⟨rfl, rfl⟩ := Prod.mk.inj hpair
    obtain ⟨nameLoc, kind'⟩ := property
    unfold identifierName? at hname
    split at hname
    · rename_i hkind'
      cases hname
      cases hkind'
      cases hkind
      exact ⟨loc, nameLoc, rfl⟩
    · cases hname
  · cases h

/-- The field of an assignment is that of `this` on its left side. -/
theorem eq_of_assignedField? {n : Node} {field : String} (h : n.assignedField? = some field) :
    ∃ loc operator leftLoc thisLoc nameLoc right,
      n = ⟨loc, .assignmentExpression operator ⟨leftLoc, .memberExpression
        ⟨thisLoc, .thisExpression⟩ ⟨nameLoc, .identifier field⟩ false⟩ right⟩ := by
  obtain ⟨loc, kind⟩ := n
  unfold assignedField? at h
  split at h
  · rename_i operator left right hkind
    cases hkind
    split at h
    · rename_i object field' hleft
      obtain ⟨leftLoc, nameLoc, rfl⟩ := eq_of_member? hleft
      obtain ⟨thisLoc, kind'⟩ := object
      cases kind' with
      | thisExpression =>
        cases h
        exact ⟨loc, operator, leftLoc, thisLoc, nameLoc, right, rfl⟩
      | _ => cases h
    · cases h
  · cases h

theorem statementField?_eq_none {n : Node} (h : ∀ c ∈ n.kind.operands, ¬c.Has AssignsField) :
    n.statementField? = none := by
  unfold statementField?
  split
  · rename_i expression hkind
    rw [hkind] at h
    exact not_not.1 fun hfield => h expression (List.mem_singleton_self expression) (.here hfield)
  · rfl

end Node

namespace Visit

/-! ### The record of a constructor -/

/-- The fields recorded so far, of a constructor. -/
abbrev recorded (f : FunctionState) : Option (List String) := f.receiver?.map fun _ => f.assigned

theorem covers_recorded : Covers Node.AssignsField recorded where
  foundReturn _ _ _ _ _ := rfl
  assigned n operator left right object field hkind hleft hthis hn := by
    refine absurd ?_ hn
    simp [Node.AssignsField, Node.assignedField?, hkind, hleft, hthis]

theorem advances_assignField (field : String) :
    Advances recorded (assignField field) (Option.map (· ++ [field])) := by
  refine advances_ask fun env => ?_
  split
  · rename_i f hf
    split
    · refine advances_modifyFunction (fun f => ?_) env
      change f.receiver?.map (fun _ => f.assigned ++ [field]) = (f.receiver?.map _).map _
      rw [Option.map_map]
      rfl
    · -- a plain function records nothing
      rename_i hplain
      intro f' a hfatal hf' _
      obtain rfl : f = f' := Option.some.inj (hf.symm.trans hf')
      have hnone : f.receiver? = none := by simpa [FunctionState.isConstructor] using hplain
      refine ⟨?_, hfatal⟩
      change env.currentFunction?.map recorded = _
      simp [hf, recorded, hnone]
  · rename_i hnone
    intro f a _ hf
    rw [hnone] at hf
    cases hf

theorem advances_assignment {n : Node} {field : String} (hfield : n.assignedField? = some field)
    (hoperands : ∀ c ∈ n.kind.operands, Advances recorded (visit c) id) :
    Advances recorded (visit n) (Option.map (· ++ [field])) := by
  obtain ⟨loc, operator, leftLoc, thisLoc, nameLoc, right, rfl⟩ := Node.eq_of_assignedField? hfield
  obtain ⟨hleft, hright⟩ := List.forall_mem_cons.1 hoperands
  unfold visit walk
  refine Advances.unlessFatal ((advances_assignField field).andThen fun _ => ?_)
  refine hleft.after fun expected => ?_
  refine (hright right (List.mem_singleton_self right)).after fun actual => ?_
  dsimp only
  split
  · exact (advances_expect _ _ _).andThen fun _ => advances_pure _
  · exact advances_pure _

theorem foldl_map_append (ns : List Node) (s : Option (List String)) :
    ns.foldl (fun s n => s.map (· ++ n.fieldsInOrder)) s =
      s.map (· ++ ns.flatMap Node.fieldsInOrder) := by
  induction ns generalizing s with
  | nil => simp
  | cons n ns ih => simp [ih, Function.comp_def]

/-- **A visit adds to the record the fields that the statements of the node assign.** -/
theorem advances_fields {n : Node} (hprogram : n.All Node.NoProgram) (h : n.AssignsInPlace) :
    Advances recorded (visit n) (Option.map (· ++ n.fieldsInOrder)) := by
  have hquiet : ∀ {m : Node}, m.All Node.NoProgram →
      (∀ c ∈ m.kind.operands, ¬c.Has Node.AssignsField) →
      ∀ c ∈ m.kind.operands, Advances recorded (visit c) id := by
    intro m hm hoperands c hc
    have hchild := Node.mem_children_of_mem_outer (Node.mem_outer.2 (.inl hc))
    exact advances_of_not_has covers_recorded (hm.children hchild) (hoperands c hc)
  induction h with
  | @field n expression hkind hfield hoperands =>
    obtain ⟨field, hfield⟩ := Option.ne_none_iff_exists'.1 hfield
    obtain ⟨loc, kind⟩ := n
    obtain rfl : kind = .expressionStatement expression := hkind
    have hchild : expression.All Node.NoProgram := hprogram.children (List.mem_singleton_self _)
    have hfields : Node.fieldsInOrder ⟨loc, .expressionStatement expression⟩ = [field] := by
      simp [Node.fieldsInOrder_eq, Node.statementField?, hfield, NodeKind.statements]
    rw [hfields]
    unfold visit walk
    refine Advances.unlessFatal (Advances.andNothing ?_)
    exact advances_assignment hfield (hquiet hchild hoperands)
  | @other n hself hoperands hstatements ih =>
    have hnone : n.statementField? = none := Node.statementField?_eq_none hoperands
    have hstep : ∀ c ∈ n.kind.statements,
        Advances recorded (visit c) (Option.map (· ++ c.fieldsInOrder)) := by
      intro c hc
      have hchild := Node.mem_children_of_mem_outer (Node.mem_outer.2 (.inr hc))
      exact ih c hc (hprogram.children hchild)
    by_cases hne : n.kind.statements = []
    · -- no statement inside it, and nothing in its other parts
      have hnot : ¬n.Has Node.AssignsField := by
        refine Node.not_has_of_outer hself fun c hc => ?_
        rcases Node.mem_outer.1 hc with hc | hc
        · exact hoperands c hc
        · simp [hne] at hc
      refine (advances_of_not_has covers_recorded hprogram hnot).congr fun s => ?_
      simp [Node.fieldsInOrder_eq, hnone, hne]
    · refine (advances_statement hne (hquiet hprogram hoperands) hstep).congr fun s => ?_
      rw [foldl_map_append, n.fieldsInOrder_eq, hnone]
      rfl

/-! ### The comparison with the declared keys -/

/-- Place `i` is the first at which `fields` do not have the key that `keys` have there, `key`. -/
structure DeviatesAt (keys fields : List String) (i : Nat) (key : String) : Prop where
  declared : keys[i]? = some key
  other : fields[i]? ≠ some key
  before : ∀ j < i, fields[j]? = keys[j]?

theorem DeviatesAt.cons {keys fields : List String} {i : Nat} {key : String}
    (h : DeviatesAt keys fields i key) (first : String) :
    DeviatesAt (first :: keys) (first :: fields) (i + 1) key := by
  refine ⟨h.declared, h.other, fun j hj => ?_⟩
  cases j with
  | zero => rfl
  | succ j => exact h.before j (by omega)

theorem firstDeviation_eq_none_iff {keys fields : List String} :
    firstDeviation keys fields = none ↔ keys <+: fields := by
  fun_induction firstDeviation keys fields with
  | case1 fields => simp
  | case2 key keys => simp
  | case3 keys first fields ih => simpa using ih
  | case4 key keys field fields hne => simp [List.cons_prefix_cons, Ne.symm hne]

theorem exists_deviatesAt {keys fields : List String} (h : ¬keys <+: fields) :
    ∃ i key, DeviatesAt keys fields i key ∧
      firstDeviation keys fields = some (key, fields[i]?) := by
  fun_induction firstDeviation keys fields with
  | case1 fields => exact absurd List.nil_prefix h
  | case2 key keys => exact ⟨0, key, ⟨rfl, by simp, by simp⟩, rfl⟩
  | case3 keys first fields ih =>
    obtain ⟨i, key, hi, hfirst⟩ := ih fun hprefix => h (List.cons_prefix_cons.2 ⟨rfl, hprefix⟩)
    exact ⟨i + 1, key, hi.cons first, hfirst⟩
  | case4 key keys field fields hne =>
    exact ⟨0, key, ⟨rfl, by simpa using hne, by simp⟩, rfl⟩

/-- What is reported about a deviation, in the function that stands at `loc`. -/
def missingField (loc : Location) (name : String) (deviation : String × Option String) :
    Diagnostic :=
  ⟨.missingFieldInConstructor deviation.1 (deviation.2.getD "nothing") name, loc⟩

theorem errors_checkBody_of_constructor {f : FunctionState} {receiver : TypeInst}
    (hrole : f.role = .constructor receiver) (loc : Location) (env : Env) :
    ((checkBody loc f).run env).2.errors = env.errors ++
      ((firstDeviation (keys receiver) f.assigned).map (missingField loc f.name)).toList := by
  unfold checkBody
  rw [hrole]
  dsimp only
  cases firstDeviation (keys receiver) f.assigned with
  | none => exact (List.append_nil _).symm
  | some deviation => rfl

end Visit

namespace Env

/-- **The check of the order of fields is exact.** -/
theorem missing_field_iff (env : Env) (n body : Node) (loc : Location) (name : String)
    (params : List Node) (type : TypeInst) (origin : Origin) (args : List TypeInst)
    (receiver : Option TypeInst) (result : TypeInst) (id : Nat) (fields : List (Field TypeInst))
    (t : Option TypeInst) (hfatal : env.fatal = false) (hdefines : n.Defines loc name params body)
    (hname : isConstructorName name = true) (hlookup : env.lookup name = some ⟨type, origin⟩)
    (hshape : type.shape = .function args receiver result)
    (hresult : result.shape = .object id fields) (hfields : fields ≠ [])
    (hprogram : body.All Node.NoProgram) (hplace : body.AssignsInPlace)
    (hok : ((env.inBody loc name params type).visit body).1 = .ok t) :
    let before := ((env.inBody loc name params type).visit body).2.errors
    let keys := fields.map (·.key)
    let assigned := body.fieldsInOrder
    ((env.visit n).2.errors = before ↔ keys <+: assigned) ∧
      (¬keys <+: assigned ↔ ∃ i key, Visit.DeviatesAt keys assigned i key ∧
        (env.visit n).2.errors = before ++
          [⟨.missingFieldInConstructor key (assigned[i]?.getD "nothing") name, loc⟩]) := by
  intro before keys assigned
  have hobject : result.isNonEmptyObject = true := by
    simp [Ty.isNonEmptyObject, hresult, hfields]
  obtain ⟨f, hf, hfname, hrole, hstate⟩ :=
    Visit.exists_record hfatal hdefines hlookup hshape (fun _ => hobject) hok
  have hconstructor : f.role = .constructor result := by
    rw [hrole]
    simp [FunctionState.start, hname]
  have hkeys : Visit.keys result = keys := by simp [Visit.keys, hresult, keys]
  -- nothing is recorded before the body is visited, so the record is what the visit adds
  have hassigned : f.assigned = assigned := by
    have hadvances := Visit.advances_fields hprogram hplace _ _ t
      (Visit.fatal_inBody.trans hfatal) (currentFunction?_enterFunction ..) hok
    have hview := hf ▸ hadvances.1
    simpa [Visit.recorded, FunctionState.receiver?, hconstructor, FunctionState.start, hname]
      using hview
  have herrors : (env.visit n).2.errors = before ++
      ((Visit.firstDeviation keys assigned).map (Visit.missingField loc name)).toList := by
    rw [hstate, Visit.errors_checkBody_of_constructor hconstructor, errors_exitFunction, hfname,
      hkeys, hassigned]
  have hexact : (env.visit n).2.errors = before ↔ keys <+: assigned := by
    rw [herrors, ← Visit.firstDeviation_eq_none_iff]
    simp
  refine ⟨hexact, fun hnot => ?_, ?_⟩
  · obtain ⟨i, key, hi, hfirst⟩ := Visit.exists_deviatesAt hnot
    refine ⟨i, key, hi, ?_⟩
    rw [herrors, hfirst]
    rfl
  · rintro ⟨i, key, -, hreported⟩ hprefix
    rw [hexact.2 hprefix] at hreported
    simp at hreported

/-- The one header that declares the constructors `Point : (Number) => { x: Number, y: Number }` and
`Mark : (Number) => { z: Number }`. -/
def pointLoader : Loader where
  load _ _ := .ok ⟨[.assigns ⟨"Point", .ofShape (.function [.literal "Number"] none
      (.ofShape (.object () [⟨"x", false, .literal "Number"⟩, ⟨"y", false, .literal "Number"⟩])))⟩,
    .assigns ⟨"Mark", .ofShape (.function [.literal "Number"] none
      (.ofShape (.object () [⟨"z", false, .literal "Number"⟩])))⟩]⟩
  path? _ := none

/-- A variable `size`. -/
def sizeName : Node := ⟨.unknown, .identifier "size"⟩

/-- The statement `this.field = size;`. -/
def setField (field : String) : Node :=
  ⟨.unknown, .expressionStatement ⟨.unknown, .assignmentExpression "=" ⟨.unknown, .memberExpression
    ⟨.unknown, .thisExpression⟩ ⟨.unknown, .identifier field⟩ false⟩ sizeName⟩⟩

/-- A block with a constructor `Mark`, which assigns a field of its own, and two fields that are
assigned, the first one deep inside a loop. -/
def pointBody (first second : String) : Node :=
  ⟨.unknown, .blockStatement
    [⟨.unknown, .functionDeclaration "Mark" [sizeName] ⟨.unknown, .blockStatement [setField "z"]⟩⟩,
      ⟨.unknown, .doWhileStatement ⟨.unknown, .blockStatement [setField first]⟩ sizeName⟩,
      setField second]⟩

/-- The constructor `Point`. -/
def pointFunction (first second : String) : Node :=
  ⟨⟨⟨1, 0⟩, ⟨9, 1⟩⟩, .functionDeclaration "Point" [sizeName] (pointBody first second)⟩

/-- The field of `Mark` does not count for `Point`, and the other two must have the declared
order. -/
theorem missing_field_iff_point :
    let env := (start sizeName "point.js" pointLoader).loadHeader
    ((env.visit (pointFunction "x" "y")).2.errors = [] ∧
        ["x", "y"] <+: (pointBody "x" "y").fieldsInOrder) ∧
      (env.visit (pointFunction "y" "x")).2.errors =
        [⟨.missingFieldInConstructor "x" "y" "Point", ⟨⟨1, 0⟩, ⟨9, 1⟩⟩⟩] ∧
          ¬["x", "y"] <+: (pointBody "y" "x").fieldsInOrder := by
  intro env
  have hname : sizeName.All Node.NoProgram := .intro nofun nofun
  have hblock : ∀ ns : List Node, (∀ m ∈ ns, m.All Node.NoProgram) →
      Node.All Node.NoProgram ⟨.unknown, .blockStatement ns⟩ := fun ns hns => .intro nofun hns
  have hset : ∀ field, (setField field).All Node.NoProgram := by
    intro field
    refine .intro nofun (List.forall_mem_singleton.2 (.intro nofun ?_))
    refine List.forall_mem_cons.2 ⟨.intro nofun ?_, List.forall_mem_singleton.2 hname⟩
    exact List.forall_mem_cons.2
      ⟨.intro nofun nofun, List.forall_mem_singleton.2 (.intro nofun nofun)⟩
  have hprogram : ∀ first second, (pointBody first second).All Node.NoProgram := by
    intro first second
    refine hblock _ (List.forall_mem_cons.2 ⟨.intro nofun ?_, List.forall_mem_cons.2
      ⟨.intro nofun ?_, List.forall_mem_singleton.2 (hset second)⟩⟩)
    · exact List.forall_mem_cons.2
        ⟨hname, List.forall_mem_singleton.2 (hblock _ (List.forall_mem_singleton.2 (hset "z")))⟩
    · exact List.forall_mem_cons.2
        ⟨hblock _ (List.forall_mem_singleton.2 (hset first)), List.forall_mem_singleton.2 hname⟩
  have hleaf : ∀ m : Node, m.outer = [] → m.assignedField? = none → ¬m.Has Node.AssignsField :=
    fun m hm hnone => Node.not_has_of_leaf hm (not_not.2 hnone)
  have hfield : ∀ field, (setField field).AssignsInPlace := by
    intro field
    refine .field rfl (Option.some_ne_none field) (List.forall_mem_cons.2 ⟨?_, ?_⟩)
    · refine Node.not_has_of_outer (not_not.2 rfl) (List.forall_mem_cons.2 ⟨hleaf _ rfl rfl, ?_⟩)
      exact List.forall_mem_singleton.2 (hleaf _ rfl rfl)
    · exact List.forall_mem_singleton.2 (hleaf _ rfl rfl)
  have hplace : ∀ first second, (pointBody first second).AssignsInPlace := by
    intro first second
    have hsize : ∀ c ∈ [sizeName], ¬c.Has Node.AssignsField :=
      List.forall_mem_singleton.2 (hleaf _ rfl rfl)
    refine .other (not_not.2 rfl) nofun (List.forall_mem_cons.2 ⟨.other (not_not.2 rfl) hsize nofun,
      List.forall_mem_cons.2 ⟨.other (not_not.2 rfl) hsize ?_, ?_⟩⟩)
    · refine List.forall_mem_singleton.2 (.other (not_not.2 rfl) nofun ?_)
      exact List.forall_mem_singleton.2 (hfield first)
    · exact List.forall_mem_singleton.2 (hfield second)
  have hordered := missing_field_iff env (pointFunction "x" "y") (pointBody "x" "y")
    ⟨⟨1, 0⟩, ⟨9, 1⟩⟩ "Point" [sizeName] _ _ _ _ _ _ _ none rfl .declaration (by decide +kernel) rfl
    rfl rfl (List.cons_ne_nil _ _) (hprogram _ _) (hplace _ _) (by decide +kernel)
  have hother := missing_field_iff env (pointFunction "y" "x") (pointBody "y" "x")
    ⟨⟨1, 0⟩, ⟨9, 1⟩⟩ "Point" [sizeName] _ _ _ _ _ _ _ none rfl .declaration (by decide +kernel) rfl
    rfl rfl (List.cons_ne_nil _ _) (hprogram _ _) (hplace _ _) (by decide +kernel)
  refine ⟨⟨by decide +kernel, hordered.1.1 (by decide +kernel)⟩, by decide +kernel, ?_⟩
  intro hprefix
  exact absurd (hother.1.2 hprefix) (by decide +kernel)

end Env

end SigCheck
