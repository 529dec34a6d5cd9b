import Mathlib.Data.List.Basic
import Mathlib.Data.List.Count
import Mathlib.Logic.Relation
import SigCheck.Header.Resolve

/-!
# Resolution of aliases

Resolution is bounded by the number of declarations, but the bound is never met: an alias is left
alone inside its own expansion, so each expansion leaves one declaration less to expand.  What
follows does without the bound.  `Header.resolve_of_left`, `Header.resolve_of_isAlias` and
`Header.resolve_of_none` say what resolution does at a reference that is left, at one that is
expanded and at any other node, and `Header.resolve_induction` is the induction that goes with them.

* `Header.walk` resolves with one stack of the aliases that are being expanded, and notes for each
  node of the result what was written in its place and what the stack was.  It ends with the stack
  as it was, for any cycles among the declarations (`Header.exists_traces`; `Header.Traces` says
  what it finds).
* `Header.Substitutes` relates a type to what is left when every alias in it is replaced by its
  body, and the aliases in that body by theirs.  If no alias that can be reached depends on itself,
  that is the result of resolution (`Header.substitutes_iff`), and nothing is left to resolve in it.

What a name stands for is its last declaration (`Header.LastDeclared`), wherever it stands among the
others; `Header.declaration?_eq_some_iff` says that resolution looks up just that.
`Header.resolve_complete` puts all of this together.
-/

namespace SigCheck

variable {ι τ σ : Type}

/-! ### Nodes and references -/

namespace Shape

/-- The smaller types in which references are resolved: all but the base of a generic type. -/
def parts : Shape ι τ → List τ
  | .generic _ params => params
  | shape => shape.children

/-- Changes the parts of a shape. -/
def mapParts (g : τ → τ) : Shape ι τ → Shape ι τ
  | .generic base params => .generic base (params.map g)
  | shape => shape.map g

variable {s : Shape ι τ} {g g' : τ → τ}

theorem mem_children_of_mem_parts {c : τ} (h : c ∈ s.parts) : c ∈ s.children := by
  cases s with
  | generic => exact List.mem_cons_of_mem _ h
  | _ => exact h

theorem parts_map (g : τ → σ) (s : Shape ι τ) : (s.map g).parts = s.parts.map g := by
  cases s with
  | generic => rfl
  | function args receiver result =>
    exact children_map g (.function args receiver result : Shape ι τ)
  | _ => simp [map, parts, children, Function.comp_def]

theorem parts_mapParts (g : τ → τ) (s : Shape ι τ) : (s.mapParts g).parts = s.parts.map g := by
  rw [← parts_map]
  cases s <;> rfl

theorem mapParts_congr (h : ∀ c ∈ s.parts, g c = g' c) : s.mapParts g = s.mapParts g' := by
  cases s with
  | function args receiver result =>
    cases receiver <;> simp_all [mapParts, map, parts, children]
  | _ => simp_all [mapParts, map, parts, children, Field.map]

theorem mapParts_id (s : Shape ι τ) : s.mapParts id = s := by
  cases s <;> simp [mapParts, map, Field.map]

/-- Changing all smaller types after the parts. -/
theorem map_mapParts {k : τ → σ} {g'' : σ → σ} (h : ∀ c ∈ s.parts, k (g c) = g'' (k c)) :
    (s.mapParts g).map k = (s.map k).mapParts g'' := by
  cases s with
  | function args receiver result =>
    cases receiver <;> simp_all [mapParts, map, parts, children]
  | _ => simp_all [mapParts, map, parts, children, Field.map]

end Shape

namespace Ty

/-- The name that the type refers to, if it is a reference: a named type that is not builtin. -/
def reference? (t : Ty ι) : Option String :=
  match t.shape with
  | .literal name false => some name
  | _ => none

theorem reference?_eq_some {t : Ty ι} {name : String} :
    t.reference? = some name ↔ t.shape = .literal name false := by
  unfold reference?
  split <;> simp_all

theorem reference?_mapParts (t : Ty ι) (g : Ty ι → Ty ι) :
    ({ t with shape := t.shape.mapParts g } : Ty ι).reference? = t.reference? := by
  obtain ⟨shape, label, optional, raw⟩ := t
  cases shape <;> rfl

/-- The type with the label and the optional mark of `u`. -/
def markedAs (t u : Ty ι) : Ty ι := { t with label := u.label, optional := u.optional }

theorem mapReferences_of_reference {f : TypeExpr → String → TypeExpr} {t : TypeExpr} {name : String}
    (h : t.reference? = some name) : mapReferences f t = f t name := by
  obtain ⟨shape, label, optional, raw⟩ := t
  rw [mapReferences_eq]
  unfold reference? at h
  split at h
  · rename_i hshape
    obtain rfl : shape = .literal _ false := hshape
    cases h
    rfl
  · cases h

theorem mapReferences_of_none {t : TypeExpr} (h : t.reference? = none)
    (f : TypeExpr → String → TypeExpr) :
    mapReferences f t = { t with shape := t.shape.mapParts (mapReferences f) } := by
  obtain ⟨shape, label, optional, raw⟩ := t
  rw [mapReferences_eq]
  cases shape with
  | literal name builtin =>
    cases builtin with
    | true => rfl
    | false => cases h
  | _ => rfl

/-- The nodes of a type, outside of references it was expanded from and of bases of generic types.
-/
def nodes : Ty ι → List (Ty ι) := fold fun t shape _ => t :: shape.parts.flatten

theorem nodes_eq (t : Ty ι) : t.nodes = t :: t.shape.parts.flatMap nodes := by
  rw [nodes, fold_eq, Shape.parts_map, List.flatMap_def]

/-- The names that the nodes of a type refer to. -/
def references (t : Ty ι) : List String := t.nodes.filterMap reference?

theorem mem_nodes_self (t : Ty ι) : t ∈ t.nodes := by
  rw [nodes_eq]
  exact List.mem_cons_self

theorem mem_nodes_of_mem_parts {t c u : Ty ι} (hc : c ∈ t.shape.parts) (hu : u ∈ c.nodes) :
    u ∈ t.nodes := by
  rw [nodes_eq]
  exact List.mem_cons_of_mem _ (List.mem_flatMap.2 ⟨c, hc, hu⟩)

theorem references_of_reference {t : Ty ι} {name : String} (h : t.reference? = some name) :
    t.references = [name] := by
  have hparts : t.shape.parts = [] := by rw [reference?_eq_some.1 h]; rfl
  rw [references, nodes_eq, hparts]
  simp [h]

theorem mem_references {t : Ty ι} {name : String} :
    name ∈ t.references ↔ t.reference? = some name ∨ ∃ c ∈ t.shape.parts, name ∈ c.references := by
  simp only [references, List.mem_filterMap]
  rw [nodes_eq]
  simp only [List.mem_cons, List.mem_flatMap]
  grind

end Ty

/-! ### Resolution without a bound on its depth -/

namespace Header

/-- `d` is the last declaration of `name`. -/
def LastDeclared (h : Header) (name : String) (d : Declaration) : Prop :=
  ∃ before after, h.declarations = before ++ d :: after ∧ d.name = name ∧
    ∀ d' ∈ after, d'.name ≠ name

/-- `d` is what the alias `name` stands for: its last declaration, and one without parameters. -/
def IsAlias (h : Header) (name : String) (d : Declaration) : Prop :=
  h.LastDeclared name d ∧ d.params = []

/-- What a reference that is left as it is names, if the aliases in `path` are being expanded:
nothing declared, a generic declaration, or one of the aliases. -/
def Left (h : Header) (path : List String) (name : String) : Prop :=
  (∀ d ∈ h.declarations, d.name ≠ name) ∨ (∃ d, h.LastDeclared name d ∧ d.params ≠ []) ∨
    name ∈ path

/-- The declarations of names that are not in `visiting`. -/
def remaining (h : Header) (visiting : List String) : Nat :=
  h.declarations.countP (·.name ∉ visiting)

/-- What the reference `t` is replaced by, if `body` is what the alias it names stands for. -/
def expansion (t body : TypeExpr) : TypeExpr := { body.markedAs t with raw := some t }

variable {h : Header} {visiting : List String} {t : TypeExpr} {name : String} {d : Declaration}

theorem LastDeclared.mem (hd : h.LastDeclared name d) : d ∈ h.declarations ∧ d.name = name := by
  obtain ⟨before, after, hsplit, hname, -⟩ := hd
  exact ⟨hsplit ▸ by simp, hname⟩

/-- The declaration that is looked up is the last one. -/
theorem declaration?_eq_some_iff : h.declaration? name = some d ↔ h.LastDeclared name d := by
  constructor
  · intro hd
    obtain ⟨front, hfront⟩ := List.getLast?_eq_some_iff.1 hd
    obtain ⟨first, rest, hsplit, -, hrest⟩ := List.filter_eq_append_iff.1 hfront
    obtain ⟨between, after, rfl, -, hname, hafter⟩ := List.filter_eq_cons_iff.1 hrest
    refine ⟨first ++ between, after, by simpa using hsplit, by simpa using hname, ?_⟩
    simpa using hafter
  · rintro ⟨before, after, hsplit, hname, hafter⟩
    have hnil : after.filter (·.name == name) = [] := by simpa using hafter
    simp [declaration?, hsplit, hname, hnil]

theorem declaration?_eq_none_iff :
    h.declaration? name = none ↔ ∀ d ∈ h.declarations, d.name ≠ name := by
  simp [declaration?]

theorem LastDeclared.unique {d' : Declaration} (hd : h.LastDeclared name d)
    (hd' : h.LastDeclared name d') : d = d' :=
  Option.some.inj ((declaration?_eq_some_iff.2 hd).symm.trans (declaration?_eq_some_iff.2 hd'))

theorem left_or_isAlias (h : Header) (visiting : List String) (name : String) :
    h.Left visiting name ∨ name ∉ visiting ∧ ∃ d, h.IsAlias name d := by
  by_cases hv : name ∈ visiting
  · exact .inl (.inr (.inr hv))
  · cases hd : h.declaration? name with
    | none => exact .inl (.inl (declaration?_eq_none_iff.1 hd))
    | some d =>
      have hlast := declaration?_eq_some_iff.1 hd
      by_cases hp : d.params = []
      · exact .inr ⟨hv, d, hlast, hp⟩
      · exact .inl (.inr (.inl ⟨d, hlast, hp⟩))

theorem remaining_le (h : Header) (visiting : List String) :
    h.remaining visiting ≤ h.declarations.length :=
  List.countP_le_length

theorem remaining_lt (hd : h.IsAlias name d) (hname : name ∉ visiting) :
    h.remaining (name :: visiting) < h.remaining visiting := by
  obtain ⟨hmem, rfl⟩ := hd.1.mem
  have hsplit : h.remaining (d.name :: visiting) =
      (h.declarations.filter (·.name ∉ visiting)).countP (·.name ≠ d.name) := by
    simp [remaining, List.countP_filter]
  have hall : h.remaining visiting = (h.declarations.filter (·.name ∉ visiting)).length :=
    List.countP_eq_length_filter
  rw [hsplit, hall]
  have hin : d ∈ h.declarations.filter (·.name ∉ visiting) := by simpa using ⟨hmem, hname⟩
  refine List.countP_lt_length_iff.2 ⟨d, hin, ?_⟩
  simp

theorem resolveWithin_of_left (n : Nat) (ht : t.reference? = some name)
    (hleft : h.Left visiting name) : h.resolveWithin n visiting t = t := by
  cases n with
  | zero => rfl
  | succ n =>
    rw [resolveWithin, Ty.mapReferences_of_reference ht]
    obtain hd | ⟨d, hd, hp⟩ | hv := hleft
    · simp [declaration?_eq_none_iff.2 hd]
    · simp [declaration?_eq_some_iff.2 hd, hp]
    · cases hd : h.declaration? name <;> simp [hv]

theorem resolveWithin_of_isAlias (n : Nat) (ht : t.reference? = some name) (hd : h.IsAlias name d)
    (hname : name ∉ visiting) :
    h.resolveWithin (n + 1) visiting t =
      expansion t (h.resolveWithin n (name :: visiting) d.type) := by
  rw [resolveWithin, Ty.mapReferences_of_reference ht]
  simp [declaration?_eq_some_iff.2 hd.1, hd.2, hname, expansion, Ty.markedAs]

theorem resolveWithin_of_none (n : Nat) (ht : t.reference? = none) :
    h.resolveWithin n visiting t =
      { t with shape := t.shape.mapParts (h.resolveWithin n visiting) } := by
  cases n with
  | zero =>
    have hid : h.resolveWithin 0 visiting = id := rfl
    rw [hid, Shape.mapParts_id]
    cases t
    rfl
  | succ n => exact Ty.mapReferences_of_none ht _

/-- Induction along resolution: over the aliases that may still be expanded, and inside one
expansion over the parts of types. -/
theorem resolve_induction (h : Header) {motive : List String → TypeExpr → Prop}
    (left : ∀ visiting t name, t.reference? = some name → h.Left visiting name →
      motive visiting t)
    (expand : ∀ visiting t name d, t.reference? = some name → h.IsAlias name d →
      name ∉ visiting → motive (name :: visiting) d.type → motive visiting t)
    (node : ∀ visiting t, t.reference? = none → (∀ c ∈ t.shape.parts, motive visiting c) →
      motive visiting t)
    (visiting : List String) (t : TypeExpr) : motive visiting t := by
  induction hn : h.remaining visiting using Nat.strongRecOn generalizing visiting t with
  | ind n ih =>
    subst hn
    induction t using Ty.induction with
    | step t ihparts _ =>
      cases ht : t.reference? with
      | none => exact node visiting t ht fun c hc => ihparts c (Shape.mem_children_of_mem_parts hc)
      | some name =>
        rcases left_or_isAlias h visiting name with hleft | ⟨hname, d, hd⟩
        · exact left visiting t name ht hleft
        · exact expand visiting t name d ht hd hname (ih _ (remaining_lt hd hname) _ _ rfl)

/-- Resolution is as deep as it needs to be. -/
theorem resolveWithin_eq {n m : Nat} (hn : h.remaining visiting ≤ n)
    (hm : h.remaining visiting ≤ m) :
    h.resolveWithin n visiting t = h.resolveWithin m visiting t := by
  induction visiting, t using h.resolve_induction generalizing n m with
  | left visiting t name ht hleft =>
    rw [resolveWithin_of_left n ht hleft, resolveWithin_of_left m ht hleft]
  | expand visiting t name d ht hd hname ih =>
    have hlt := remaining_lt hd hname
    obtain ⟨n, rfl⟩ := Nat.exists_eq_succ_of_ne_zero (n := n) (by omega)
    obtain ⟨m, rfl⟩ := Nat.exists_eq_succ_of_ne_zero (n := m) (by omega)
    rw [resolveWithin_of_isAlias n ht hd hname, resolveWithin_of_isAlias m ht hd hname,
      ih (n := n) (m := m) (by omega) (by omega)]
  | node visiting t ht ih =>
    rw [resolveWithin_of_none n ht, resolveWithin_of_none m ht]
    rw [Shape.mapParts_congr fun c hc => ih c hc hn hm]

theorem resolve_of_left (ht : t.reference? = some name) (hleft : h.Left visiting name) :
    h.resolve visiting t = t :=
  resolveWithin_of_left _ ht hleft

theorem resolve_of_isAlias (ht : t.reference? = some name) (hd : h.IsAlias name d)
    (hname : name ∉ visiting) :
    h.resolve visiting t = expansion t (h.resolve (name :: visiting) d.type) := by
  have hle := remaining_le h visiting
  rw [resolve, resolveWithin_eq hle (Nat.le_succ_of_le hle), resolveWithin_of_isAlias _ ht hd hname]
  rfl

theorem resolve_of_none (ht : t.reference? = none) :
    h.resolve visiting t = { t with shape := t.shape.mapParts (h.resolve visiting) } :=
  resolveWithin_of_none _ ht

end Header

/-! ### Resolution with a stack -/

/-- Where a node of a resolved type comes from. -/
structure NodeOrigin where
  /-- The aliases that are being expanded where the node stands, the innermost first. -/
  path : List String
  /-- The node that was written in its place. -/
  source : TypeExpr
  /-- The node itself. -/
  node : TypeExpr

/-- A resolved type, with the origin of each of its nodes. -/
structure Traced where
  /-- The origin of the type itself. -/
  root : NodeOrigin
  /-- The origins of the nodes inside it. -/
  inner : List NodeOrigin

namespace Traced

/-- The resolved type. -/
def result (r : Traced) : TypeExpr := r.root.node

/-- The origins of all nodes. -/
def origins (r : Traced) : List NodeOrigin := r.root :: r.inner

/-- A node that stands where it was written. -/
def leaf (path : List String) (t : TypeExpr) : Traced := ⟨⟨path, t, t⟩, []⟩

/-- A reference that was replaced by the type. -/
def expansion (t : TypeExpr) (body : Traced) : Traced :=
  ⟨⟨body.root.path, t, Header.expansion t body.result⟩, body.inner⟩

end Traced

/-- Computations with a stack of aliases, which fail where they would go too deep. -/
abbrev Walk := StateT (List String) Option

/-- Runs what stands for the smaller types of a shape, one after the other. -/
def Shape.sequence : Shape Unit (Walk τ) → Walk (Shape Unit τ)
  | .literal name builtin => return .literal name builtin
  | .value text => return .value text
  | .generic base params => do
    let base ← base
    let params ← params.mapM id
    return .generic base params
  | .function args receiver result => do
    let args ← args.mapM id
    let receiver ← match receiver with
      | none => pure none
      | some receiver => some <$> receiver
    let result ← result
    return .function args receiver result
  | .object id fields => do
    let fields ← fields.mapM fun f => do return ⟨f.key, f.optional, ← f.type⟩
    return .object id fields
  | .union members => do return .union (← members.mapM id)
  | .intersection members => do return .intersection (← members.mapM id)
  | .tuple items => do return .tuple (← items.mapM id)

/-- Resolves the references in a type with one stack of the aliases that are being expanded: an
alias is pushed before its type is resolved, and popped afterwards.  Fails where aliases would be
expanded `n` deep. -/
def Header.walk (h : Header) : Nat → TypeExpr → Walk Traced
  | 0 => fun _ => failure
  | n + 1 => Ty.fold fun t (shape : Shape Unit (Walk Traced)) _ => do
    let visiting ← get
    match t.shape, shape with
    | .literal name false, _ =>
      match h.declaration? name with
      | some d =>
        if d.params.isEmpty && !visiting.contains name then
          set (name :: visiting)
          let body ← h.walk n d.type
          modify List.tail
          return .expansion t body
        else return .leaf visiting t
      | none => return .leaf visiting t
    | .generic base _, .generic _ params =>
      let params ← params.mapM id
      return ⟨⟨visiting, t, { t with shape := .generic base (params.map (·.result)) }⟩,
        params.flatMap (·.origins)⟩
    | _, shape =>
      let shape ← shape.sequence
      return ⟨⟨visiting, t, { t with shape := shape.map (·.result) }⟩,
        shape.children.flatMap (·.origins)⟩

/-- The walk ends with the stack as it was. -/
def Returns {α : Type} (m : Walk α) (visiting : List String) (a : α) : Prop :=
  m.run visiting = some (a, visiting)

section returns

variable {α β : Type} {visiting : List String}

theorem returns_pure (a : α) : Returns (pure a) visiting a := rfl

theorem returns_get : Returns get visiting visiting := rfl

theorem Returns.bind {m : Walk α} {f : α → Walk β} {a : α} {b : β} (hm : Returns m visiting a)
    (hf : Returns (f a) visiting b) : Returns (m >>= f) visiting b := by
  unfold Returns at hm hf ⊢
  rw [StateT.run_bind, hm]
  exact hf

theorem Returns.map {m : Walk α} {a : α} (hm : Returns m visiting a) (f : α → β) :
    Returns (f <$> m) visiting (f a) := by
  rw [map_eq_pure_bind]
  exact hm.bind (returns_pure _)

theorem returns_mapM {g : α → Walk β} {r : α → β} {as : List α}
    (h : ∀ a ∈ as, Returns (g a) visiting (r a)) : Returns (as.mapM g) visiting (as.map r) := by
  induction as with
  | nil => exact returns_pure _
  | cons a as ih =>
    obtain ⟨ha, has⟩ := List.forall_mem_cons.1 h
    rw [List.mapM_cons]
    exact ha.bind ((ih has).bind (returns_pure _))

theorem returns_mapM_id {g : α → Walk β} {r : α → β} {as : List α}
    (h : ∀ a ∈ as, Returns (g a) visiting (r a)) :
    Returns ((as.map g).mapM id) visiting (as.map r) := by
  rw [List.mapM_map]
  exact returns_mapM h

theorem returns_sequence {g : τ → Walk σ} {r : τ → σ} {s : Shape Unit τ}
    (h : ∀ c ∈ s.children, Returns (g c) visiting (r c)) :
    Returns (s.map g).sequence visiting (s.map r) := by
  cases s with
  | literal | value => exact returns_pure _
  | generic base params =>
    obtain ⟨hbase, hparams⟩ := List.forall_mem_cons.1 h
    exact hbase.bind ((returns_mapM_id hparams).bind (returns_pure _))
  | function args receiver result =>
    have hargs : ∀ c ∈ args, Returns (g c) visiting (r c) :=
      fun c hc => h c (by simp [Shape.children, hc])
    have hresult := h result (by simp [Shape.children])
    refine (returns_mapM_id hargs).bind ?_
    cases receiver with
    | none => exact (returns_pure none).bind (hresult.bind (returns_pure _))
    | some receiver =>
      have hreceiver := (h receiver (by simp [Shape.children])).map some
      exact hreceiver.bind (hresult.bind (returns_pure _))
  | object id fields =>
    have hfields : ∀ f ∈ fields, Returns (g f.type) visiting (r f.type) :=
      fun f hf => h f.type (List.mem_map_of_mem hf)
    refine Returns.bind ?_ (returns_pure _)
    rw [List.mapM_map]
    exact returns_mapM fun f hf => (hfields f hf).bind (returns_pure _)
  | union | intersection | tuple => exact (returns_mapM_id h).bind (returns_pure _)

end returns

namespace Header

variable {h : Header} {visiting : List String} {t : TypeExpr} {name : String} {d : Declaration}
  {n : Nat}

theorem walk_of_left (ht : t.reference? = some name) (hleft : h.Left visiting name) :
    Returns (h.walk (n + 1) t) visiting (.leaf visiting t) := by
  rw [Returns, walk, Ty.fold_eq, Ty.reference?_eq_some.1 ht]
  obtain hd | ⟨d, hd, hp⟩ | hv := hleft
  · simp [declaration?_eq_none_iff.2 hd]
  · simp [declaration?_eq_some_iff.2 hd, hp]
  · cases hd : h.declaration? name <;> simp [hv, hd]

theorem walk_of_isAlias {body : Traced} (ht : t.reference? = some name) (hd : h.IsAlias name d)
    (hname : name ∉ visiting) (hbody : Returns (h.walk n d.type) (name :: visiting) body) :
    Returns (h.walk (n + 1) t) visiting (.expansion t body) := by
  rw [Returns] at hbody
  rw [Returns, walk, Ty.fold_eq, Ty.reference?_eq_some.1 ht]
  simp [declaration?_eq_some_iff.2 hd.1, hd.2, hname, hbody]

theorem walk_of_none {r : TypeExpr → Traced} (ht : t.reference? = none)
    (hparts : ∀ c ∈ t.shape.parts, Returns (h.walk (n + 1) c) visiting (r c)) :
    Returns (h.walk (n + 1) t) visiting
      ⟨⟨visiting, t, { t with shape := t.shape.mapParts fun c => (r c).result }⟩,
        t.shape.parts.flatMap fun c => (r c).origins⟩ := by
  obtain ⟨shape, label, optional, raw⟩ := t
  rw [walk, Ty.fold_eq]
  refine returns_get.bind ?_
  cases shape with
  | literal name builtin =>
    cases builtin with
    | false => cases ht
    | true => exact returns_pure _
  | generic base params =>
    refine (returns_mapM_id hparts).bind ?_
    simp [Returns, Shape.mapParts, Shape.parts, List.flatMap_map]
  | value => exact returns_pure _
  | function args receiver result =>
    refine (returns_sequence hparts).bind ?_
    cases receiver <;>
      simp [Returns, Shape.mapParts, Shape.parts, Shape.map, Shape.children, List.flatMap_map]
  | _ =>
    refine (returns_sequence hparts).bind ?_
    simp [Returns, Shape.mapParts, Shape.parts, Shape.map, Shape.children, Field.map,
      List.flatMap_map]

/-- What a walk from `t` with the stack `visiting` gives. -/
structure Traces (h : Header) (visiting : List String) (t : TypeExpr) (r : Traced) : Prop where
  /-- It resolves the type. -/
  result : r.result = h.resolve visiting t
  /-- It gives the origin of every node of the resolved type. -/
  nodes : r.origins.map (·.node) = (h.resolve visiting t).nodes
  /-- Each node was written in the type, or in that of an alias that is being expanded. -/
  written : ∀ o ∈ r.origins, o.source ∈ t.nodes ∨
    ∃ name ∈ o.path, ∃ d, h.IsAlias name d ∧ o.source ∈ d.type.nodes
  /-- No alias is expanded inside its own expansion. -/
  path : ∀ o ∈ r.origins, ∃ fresh, o.path = fresh ++ visiting ∧ fresh.Nodup ∧
    ∀ name ∈ fresh, name ∉ visiting
  /-- Each node keeps the label and the optional mark of the one that was written in its place. -/
  kept : ∀ o ∈ r.origins, o.node.label = o.source.label ∧ o.node.optional = o.source.optional
  /-- Each reference that is left names nothing that could be expanded there. -/
  left : ∀ o ∈ r.origins, ∀ name, o.node.reference? = some name → h.Left o.path name

theorem traces_leaf (ht : t.reference? = some name) (hleft : h.Left visiting name) :
    h.Traces visiting t (.leaf visiting t) := by
  have hparts : t.shape.parts = [] := by rw [Ty.reference?_eq_some.1 ht]; rfl
  have horigin : ∀ o ∈ (Traced.leaf visiting t).origins, o = ⟨visiting, t, t⟩ :=
    fun o ho => List.mem_singleton.1 ho
  constructor
  case result => rw [resolve_of_left ht hleft]; rfl
  case nodes =>
    rw [resolve_of_left ht hleft, Ty.nodes_eq, hparts]
    rfl
  all_goals intro o ho; obtain rfl := horigin o ho
  case written => exact .inl t.mem_nodes_self
  case path => exact ⟨[], rfl, .nil, by simp⟩
  case kept => exact ⟨rfl, rfl⟩
  case left =>
    intro name' ht'
    obtain rfl : name = name' := Option.some.inj (ht.symm.trans ht')
    exact hleft

theorem Traces.expansion {body : Traced} (ht : t.reference? = some name) (hd : h.IsAlias name d)
    (hname : name ∉ visiting) (hbody : h.Traces (name :: visiting) d.type body) :
    h.Traces visiting t (.expansion t body) := by
  have hresolve : h.resolve visiting t = Header.expansion t body.result := by
    rw [resolve_of_isAlias ht hd hname, hbody.result]
  -- the path of a node inside the expansion goes on with the alias
  have hpath : ∀ o ∈ body.origins, ∃ fresh, o.path = fresh ++ visiting ∧ fresh.Nodup ∧
      (∀ name ∈ fresh, name ∉ visiting) ∧ name ∈ o.path := by
    intro o ho
    obtain ⟨fresh, hpath, hnodup, hfresh⟩ := hbody.path o ho
    refine ⟨fresh ++ [name], by simp [hpath], ?_, ?_, by simp [hpath]⟩
    · refine List.nodup_append.2 ⟨hnodup, by simp, ?_⟩
      intro a ha b hb
      obtain rfl := List.mem_singleton.1 hb
      rintro rfl
      exact hfresh a ha List.mem_cons_self
    · intro a ha
      rcases List.mem_append.1 ha with ha | ha
      · exact fun hv => hfresh a ha (List.mem_cons_of_mem _ hv)
      · obtain rfl := List.mem_singleton.1 ha
        exact hname
  have hroot : body.root ∈ body.origins := List.mem_cons_self
  have hinner : ∀ o ∈ body.inner, o ∈ body.origins := fun o ho => List.mem_cons_of_mem _ ho
  refine ⟨hresolve.symm, ?_, ?_, ?_, ?_, ?_⟩
  · have hnodes := hbody.nodes
    rw [← hbody.result, Ty.nodes_eq] at hnodes
    rw [hresolve, Ty.nodes_eq]
    exact congrArg _ (List.cons.inj hnodes).2
  · refine List.forall_mem_cons.2 ⟨.inl t.mem_nodes_self, fun o ho => .inr ?_⟩
    obtain ⟨-, -, -, -, hmem⟩ := hpath o (hinner o ho)
    rcases hbody.written o (hinner o ho) with hsource | hsource
    · exact ⟨name, hmem, d, hd, hsource⟩
    · exact hsource
  · have hfresh : ∀ o ∈ body.origins, ∃ fresh, o.path = fresh ++ visiting ∧ fresh.Nodup ∧
        ∀ name ∈ fresh, name ∉ visiting := by
      intro o ho
      obtain ⟨fresh, hpath, hnodup, hfresh, -⟩ := hpath o ho
      exact ⟨fresh, hpath, hnodup, hfresh⟩
    exact List.forall_mem_cons.2 ⟨hfresh body.root hroot, fun o ho => hfresh o (hinner o ho)⟩
  · exact List.forall_mem_cons.2 ⟨⟨rfl, rfl⟩, fun o ho => hbody.kept o (hinner o ho)⟩
  · refine List.forall_mem_cons.2 ⟨hbody.left body.root hroot, fun o ho => ?_⟩
    exact hbody.left o (hinner o ho)

theorem traces_node {r : TypeExpr → Traced} (ht : t.reference? = none)
    (hparts : ∀ c ∈ t.shape.parts, h.Traces visiting c (r c)) :
    h.Traces visiting t
      ⟨⟨visiting, t, { t with shape := t.shape.mapParts fun c => (r c).result }⟩,
        t.shape.parts.flatMap fun c => (r c).origins⟩ := by
  have hresolve : h.resolve visiting t =
      { t with shape := t.shape.mapParts fun c => (r c).result } := by
    rw [resolve_of_none ht, Shape.mapParts_congr fun c hc => ((hparts c hc).result).symm]
  have hinner : ∀ o ∈ t.shape.parts.flatMap fun c => (r c).origins,
      ∃ c ∈ t.shape.parts, o ∈ (r c).origins := fun o ho => List.mem_flatMap.1 ho
  refine ⟨hresolve.symm, ?_, ?_, ?_, ?_, ?_⟩
  · have hnodes : ∀ c ∈ t.shape.parts, (r c).origins.map (·.node) = (r c).result.nodes :=
      fun c hc => (hparts c hc).result ▸ (hparts c hc).nodes
    rw [hresolve, Ty.nodes_eq, Shape.parts_mapParts, List.flatMap_map]
    simp only [Traced.origins, List.map_cons, List.map_flatMap]
    exact congrArg _ (List.flatMap_congr hnodes)
  · refine List.forall_mem_cons.2 ⟨.inl t.mem_nodes_self, fun o ho => ?_⟩
    obtain ⟨c, hc, ho⟩ := hinner o ho
    rcases (hparts c hc).written o ho with hsource | hsource
    · exact .inl (Ty.mem_nodes_of_mem_parts hc hsource)
    · exact .inr hsource
  · refine List.forall_mem_cons.2 ⟨⟨[], rfl, .nil, by simp⟩, fun o ho => ?_⟩
    obtain ⟨c, hc, ho⟩ := hinner o ho
    exact (hparts c hc).path o ho
  · refine List.forall_mem_cons.2 ⟨⟨rfl, rfl⟩, fun o ho => ?_⟩
    obtain ⟨c, hc, ho⟩ := hinner o ho
    exact (hparts c hc).kept o ho
  · refine List.forall_mem_cons.2 ⟨fun name hname => ?_, fun o ho => ?_⟩
    · rw [Ty.reference?_mapParts, ht] at hname
      cases hname
    · obtain ⟨c, hc, ho⟩ := hinner o ho
      exact (hparts c hc).left o ho

/-- **A walk ends with the stack as it was**, and gives the resolved type with the origins of its
nodes. -/
theorem exists_traces (hn : h.remaining visiting < n) :
    ∃ r, Returns (h.walk n t) visiting r ∧ h.Traces visiting t r := by
  induction visiting, t using h.resolve_induction generalizing n with
  | left visiting t name ht hleft =>
    obtain ⟨n, rfl⟩ := Nat.exists_eq_succ_of_ne_zero (n := n) (by omega)
    exact ⟨_, walk_of_left ht hleft, traces_leaf ht hleft⟩
  | expand visiting t name d ht hd hname ih =>
    have hlt := remaining_lt hd hname
    obtain ⟨n, rfl⟩ := Nat.exists_eq_succ_of_ne_zero (n := n) (by omega)
    obtain ⟨body, hwalk, hbody⟩ := ih (n := n) (by omega)
    exact ⟨_, walk_of_isAlias ht hd hname hwalk, hbody.expansion ht hd hname⟩
  | node visiting t ht ih =>
    obtain ⟨n, rfl⟩ := Nat.exists_eq_succ_of_ne_zero (n := n) (by omega)
    have hparts : ∀ c, ∃ r, c ∈ t.shape.parts →
        Returns (h.walk (n + 1) c) visiting r ∧ h.Traces visiting c r := by
      intro c
      by_cases hc : c ∈ t.shape.parts
      · obtain ⟨r, hr⟩ := ih c hc hn
        exact ⟨r, fun _ => hr⟩
      · exact ⟨.leaf [] c, fun hc' => absurd hc' hc⟩
    choose r hr using hparts
    exact ⟨_, walk_of_none ht fun c hc => (hr c hc).1, traces_node ht fun c hc => (hr c hc).2⟩

end Header

/-! ### Resolution without cycles -/

/-- The type without the references it was expanded from. -/
def Ty.withoutRaw : Ty ι → Ty ι :=
  fold fun t shape _ => { t with shape := shape, raw := none }

theorem Ty.withoutRaw_eq (t : Ty ι) :
    t.withoutRaw = { t with shape := t.shape.map withoutRaw, raw := none } := by
  rw [withoutRaw, fold_eq]

theorem Ty.reference?_withoutRaw (t : Ty ι) : t.withoutRaw.reference? = t.reference? := by
  rw [withoutRaw_eq]
  unfold reference?
  cases t.shape <;> rfl

namespace Header

open Relation

/-- The type of the alias `a` refers to `b`. -/
def Uses (h : Header) (a b : String) : Prop := ∃ d, h.IsAlias a d ∧ b ∈ d.type.references

/-- No alias that can be reached from the type depends on itself. -/
def Acyclic (h : Header) (t : TypeExpr) : Prop :=
  ∀ r ∈ t.references, ∀ a, ReflTransGen h.Uses r a → ¬TransGen h.Uses a a

/-- Every alias in the first type is replaced by the type it is declared as, with the label and the
optional mark of the reference, and so are the aliases in that type: this gives the second type. -/
inductive Substitutes (h : Header) : TypeExpr → TypeExpr → Prop
  /-- A reference to an alias gives what the type of the alias gives. -/
  | expand {t u : TypeExpr} {name : String} {d : Declaration} (reference : t.reference? = some name)
      (declared : h.IsAlias name d) (body : Substitutes h d.type.withoutRaw u) :
      Substitutes h t (u.markedAs t)
  /-- A reference to anything else stays. -/
  | keep {t : TypeExpr} {name : String} (reference : t.reference? = some name)
      (other : ∀ d, ¬h.IsAlias name d) : Substitutes h t t
  /-- Other types give themselves, with what their parts give. -/
  | node {t : TypeExpr} {g : TypeExpr → TypeExpr} (other : t.reference? = none)
      (parts : ∀ c ∈ t.shape.parts, Substitutes h c (g c)) :
      Substitutes h t { t with shape := t.shape.mapParts g }

variable {h : Header} {visiting : List String} {t u : TypeExpr} {name : String} {d : Declaration}

theorem substitutes_of_isAlias (ht : t.reference? = some name) (hd : h.IsAlias name d) :
    h.Substitutes t u ↔ ∃ v, h.Substitutes d.type.withoutRaw v ∧ u = v.markedAs t := by
  constructor
  · intro hu
    cases hu with
    | expand ht' hd' hbody =>
      obtain rfl : name = _ := Option.some.inj (ht.symm.trans ht')
      obtain rfl := hd.1.unique hd'.1
      exact ⟨_, hbody, rfl⟩
    | keep ht' hother =>
      obtain rfl : name = _ := Option.some.inj (ht.symm.trans ht')
      exact absurd hd (hother d)
    | node hother =>
      rw [ht] at hother
      cases hother
  · rintro ⟨v, hv, rfl⟩
    exact .expand ht hd hv

theorem substitutes_of_not_isAlias (ht : t.reference? = some name) (hd : ∀ d, ¬h.IsAlias name d) :
    h.Substitutes t u ↔ u = t := by
  constructor
  · intro hu
    cases hu with
    | expand ht' hd' =>
      obtain rfl : name = _ := Option.some.inj (ht.symm.trans ht')
      exact absurd hd' (hd _)
    | keep => rfl
    | node hother =>
      rw [ht] at hother
      cases hother
  · rintro rfl
    exact .keep ht hd

theorem substitutes_of_none (ht : t.reference? = none) :
    h.Substitutes t u ↔ ∃ g : TypeExpr → TypeExpr, (∀ c ∈ t.shape.parts, h.Substitutes c (g c)) ∧
      u = { t with shape := t.shape.mapParts g } := by
  constructor
  · intro hu
    cases hu with
    | expand ht' | keep ht' =>
      rw [ht] at ht'
      cases ht'
    | node _ hparts => exact ⟨_, hparts, rfl⟩
  · rintro ⟨g, hg, rfl⟩
    exact .node ht hg

/-- Resolution from here meets no alias that is being expanded: each of them leads to every
reference, and no alias that can be reached depends on itself. -/
structure Guarded (h : Header) (visiting : List String) (t : TypeExpr) : Prop where
  acyclic : h.Acyclic t
  leads : ∀ v ∈ visiting, ∀ r ∈ t.references, TransGen h.Uses v r

theorem Guarded.part {c : TypeExpr} (hg : h.Guarded visiting t) (hc : c ∈ t.shape.parts) :
    h.Guarded visiting c := by
  have hsub : ∀ r ∈ c.references, r ∈ t.references :=
    fun r hr => Ty.mem_references.2 (.inr ⟨c, hc, hr⟩)
  exact ⟨fun r hr => hg.acyclic r (hsub r hr), fun v hv r hr => hg.leads v hv r (hsub r hr)⟩

theorem Guarded.not_mem (hg : h.Guarded visiting t) (ht : t.reference? = some name) :
    name ∉ visiting := by
  have hmem : name ∈ t.references := Ty.mem_references.2 (.inl ht)
  exact fun hv => hg.acyclic name hmem name .refl (hg.leads name hv name hmem)

theorem Guarded.expand (hg : h.Guarded visiting t) (ht : t.reference? = some name)
    (hd : h.IsAlias name d) : h.Guarded (name :: visiting) d.type := by
  have hmem : name ∈ t.references := Ty.mem_references.2 (.inl ht)
  have huses : ∀ r ∈ d.type.references, h.Uses name r := fun r hr => ⟨d, hd, hr⟩
  refine ⟨fun r hr a ha => hg.acyclic name hmem a (.head (huses r hr) ha), ?_⟩
  intro v hv r hr
  rcases List.mem_cons.1 hv with rfl | hv
  · exact .single (huses r hr)
  · exact (hg.leads v hv name hmem).tail (huses r hr)

theorem Guarded.not_isAlias (hg : h.Guarded visiting t) (ht : t.reference? = some name)
    (hleft : h.Left visiting name) (d : Declaration) : ¬h.IsAlias name d := by
  rintro ⟨hd, hp⟩
  obtain hnone | ⟨d', hd', hp'⟩ | hv := hleft
  · exact hnone d hd.mem.1 hd.mem.2
  · exact hp' (hd.unique hd' ▸ hp)
  · exact hg.not_mem ht hv

theorem forall_mem_parts_withoutRaw {P : TypeExpr → Prop} :
    (∀ c ∈ t.withoutRaw.shape.parts, P c) ↔ ∀ c ∈ t.shape.parts, P c.withoutRaw := by
  rw [Ty.withoutRaw_eq]
  simp only [Shape.parts_map, List.forall_mem_map]

theorem withoutRaw_resolve_of_none {g : TypeExpr → TypeExpr} (ht : t.reference? = none)
    (hparts : ∀ c ∈ t.shape.parts, g c.withoutRaw = (h.resolve visiting c).withoutRaw) :
    (h.resolve visiting t).withoutRaw =
      { t.withoutRaw with shape := t.withoutRaw.shape.mapParts g } := by
  rw [resolve_of_none ht, Ty.withoutRaw_eq, Ty.withoutRaw_eq t]
  simp only [Ty.mk.injEq, and_self, and_true]
  exact Shape.map_mapParts fun c hc => (hparts c hc).symm

/-- If resolution is substitution on the parts of a type, then also on the type. -/
theorem substitutes_of_parts (ht : t.reference? = none) (hparts : ∀ c ∈ t.shape.parts, ∀ v,
      h.Substitutes c.withoutRaw v ↔ v = (h.resolve visiting c).withoutRaw) :
    h.Substitutes t.withoutRaw u ↔ u = (h.resolve visiting t).withoutRaw := by
  have ht' : t.withoutRaw.reference? = none := by rw [Ty.reference?_withoutRaw, ht]
  rw [substitutes_of_none ht']
  simp only [forall_mem_parts_withoutRaw]
  constructor
  · rintro ⟨g, hg, rfl⟩
    exact (withoutRaw_resolve_of_none ht fun c hc => (hparts c hc _).1 (hg c hc)).symm
  · rintro rfl
    -- parts that differ only in the references they were expanded from give the same
    have hgives : ∀ x, ∃ v, ∀ c ∈ t.shape.parts, c.withoutRaw = x →
        v = (h.resolve visiting c).withoutRaw := by
      intro x
      by_cases hx : ∃ c ∈ t.shape.parts, c.withoutRaw = x
      · obtain ⟨c, hc, rfl⟩ := hx
        refine ⟨(h.resolve visiting c).withoutRaw, fun c' hc' hsame => (hparts c' hc' _).1 ?_⟩
        rw [hsame]
        exact (hparts c hc _).2 rfl
      · exact ⟨x, fun c hc hsame => absurd ⟨c, hc, hsame⟩ hx⟩
    choose g hg using hgives
    have hresolve : ∀ c ∈ t.shape.parts, g c.withoutRaw = (h.resolve visiting c).withoutRaw :=
      fun c hc => hg c.withoutRaw c hc rfl
    exact ⟨g, fun c hc => (hparts c hc _).2 (hresolve c hc), withoutRaw_resolve_of_none ht hresolve⟩

/-- **Without cycles resolution is substitution.** -/
theorem substitutes_iff (hg : h.Guarded visiting t) :
    h.Substitutes t.withoutRaw u ↔ u = (h.resolve visiting t).withoutRaw := by
  induction visiting, t using h.resolve_induction generalizing u with
  | left visiting t name ht hleft =>
    have ht' : t.withoutRaw.reference? = some name := by rw [Ty.reference?_withoutRaw, ht]
    rw [resolve_of_left ht hleft]
    exact substitutes_of_not_isAlias ht' (hg.not_isAlias ht hleft)
  | expand visiting t name d ht hd hname ih =>
    have ht' : t.withoutRaw.reference? = some name := by rw [Ty.reference?_withoutRaw, ht]
    rw [substitutes_of_isAlias ht' hd, resolve_of_isAlias ht hd hname]
    simp only [ih (hg.expand ht hd), exists_eq_left]
    simp only [expansion, Ty.markedAs, Ty.withoutRaw_eq]
  | node visiting t ht ih => exact substitutes_of_parts ht fun c hc v => ih c hc (hg.part hc)

/-- Without cycles no alias is left. -/
theorem not_isAlias_of_mem_references (hg : h.Guarded visiting t) :
    ∀ r ∈ (h.resolve visiting t).references, ∀ d, ¬h.IsAlias r d := by
  induction visiting, t using h.resolve_induction with
  | left visiting t name ht hleft =>
    intro r hr
    rw [resolve_of_left ht hleft, Ty.references_of_reference ht] at hr
    obtain rfl := List.mem_singleton.1 hr
    exact hg.not_isAlias ht hleft
  | expand visiting t name d ht hd hname ih =>
    intro r hr
    refine ih (hg.expand ht hd) r ?_
    rw [resolve_of_isAlias ht hd hname, Ty.mem_references] at hr
    exact Ty.mem_references.2 hr
  | node visiting t ht ih =>
    intro r hr
    rw [resolve_of_none ht, Ty.mem_references, Ty.reference?_mapParts, ht,
      Shape.parts_mapParts] at hr
    obtain hr | ⟨c, hc, hr⟩ := hr
    · cases hr
    · obtain ⟨u, hu, rfl⟩ := List.mem_map.1 hc
      exact ih u hu (hg.part hu) r hr

theorem resolve_eq_self (ht : ∀ r ∈ t.references, ∀ d, ¬h.IsAlias r d) :
    h.resolve visiting t = t := by
  induction t using Ty.induction with
  | step t ih _ =>
    cases href : t.reference? with
    | none =>
      have hparts : ∀ c ∈ t.shape.parts, h.resolve visiting c = id c := by
        intro c hc
        refine ih c (Shape.mem_children_of_mem_parts hc) fun r hr => ht r ?_
        exact Ty.mem_references.2 (.inr ⟨c, hc, hr⟩)
      rw [resolve_of_none href, Shape.mapParts_congr hparts, Shape.mapParts_id]
      cases t
      rfl
    | some name =>
      refine resolve_of_left href ?_
      have hd := ht name (Ty.mem_references.2 (.inl href))
      rcases left_or_isAlias h visiting name with hleft | ⟨-, d, hd'⟩
      · exact hleft
      · exact absurd hd' (hd d)

/-- **Resolution is complete, and safe from cycles.**  Whatever is declared, a walk ends with its
stack as it was, and expands what can be expanded.  Without cycles that is everything: substitution
ends, the result of resolution is what it gives, and it is resolved already. -/
theorem resolve_complete (h : Header) (visiting : List String) (t : TypeExpr) :
    (∀ n, h.declarations.length < n →
      ∃ r, (h.walk n t).run visiting = some (r, visiting) ∧ h.Traces visiting t r) ∧
    (h.Acyclic t →
      (∀ u, h.Substitutes t.withoutRaw u ↔ u = (h.resolve [] t).withoutRaw) ∧
      h.resolve [] (h.resolve [] t) = h.resolve [] t) := by
  refine ⟨fun n hn => exists_traces (Nat.lt_of_le_of_lt (h.remaining_le visiting) hn), ?_⟩
  intro hacyclic
  have hg : h.Guarded [] t := ⟨hacyclic, by simp⟩
  exact ⟨fun u => substitutes_iff hg, resolve_eq_self (not_isAlias_of_mem_references hg)⟩

/-- There are no cycles among `names` if references go down in `rank`. -/
theorem acyclic_of_rank (names : List String) (rank : String → Nat)
    (ht : ∀ r ∈ t.references, r ∈ names)
    (hd : ∀ d ∈ h.declarations, d.name ∈ names →
      ∀ b ∈ d.type.references, b ∈ names ∧ rank b < rank d.name) : h.Acyclic t := by
  have hstep : ∀ a b, a ∈ names → h.Uses a b → b ∈ names ∧ rank b < rank a := by
    rintro a b ha ⟨d, ⟨hdecl, -⟩, hb⟩
    obtain ⟨hmem, rfl⟩ := hdecl.mem
    exact hd d hmem ha b hb
  have hreach : ∀ r a, r ∈ names → ReflTransGen h.Uses r a → a ∈ names := by
    intro r a hr hra
    induction hra with
    | refl => exact hr
    | tail _ huses ih => exact (hstep _ _ ih huses).1
  have hdown : ∀ a b, a ∈ names → TransGen h.Uses a b → b ∈ names ∧ rank b < rank a := by
    intro a b ha hab
    induction hab with
    | single huses => exact hstep _ _ ha huses
    | tail _ huses ih =>
      obtain ⟨hmem, hlt⟩ := hstep _ _ ih.1 huses
      exact ⟨hmem, Nat.lt_trans hlt ih.2⟩
  intro r hr a hra hcycle
  exact absurd (hdown a a (hreach r a (ht r hr) hra) hcycle).2 (Nat.lt_irrefl _)

/-- Aliases of which one is declared twice and one refers to itself. -/
def directory : Header :=
  ⟨[.declares ⟨"Id", [], .literal "String"⟩,
    .declares ⟨"Entry", [], .ofShape (.object () [⟨"id", false, .literal "Id"⟩,
      ⟨"next", true, .literal "Entry"⟩])⟩,
    .declares ⟨"Pair", [], .ofShape (.tuple [.literal "Id", .literal "Id"])⟩,
    .declares ⟨"Id", [], .literal "Number"⟩]⟩

/-- A pair of entries by the second declaration of their type; the cycle is not reached. -/
theorem resolve_complete_pair :
    directory.Acyclic (.literal "Pair") ∧
    (∃ r, (directory.walk 5 (.literal "Entry")).run ["Pair"] = some (r, ["Pair"]) ∧
      directory.Traces ["Pair"] (.literal "Entry") r) ∧
    (directory.resolve [] (.literal "Pair")).withoutRaw =
      .ofShape (.tuple [.literal "Number", .literal "Number"]) ∧
    directory.Substitutes (.literal "Pair")
      (.ofShape (.tuple [.literal "Number", .literal "Number"])) ∧
    directory.resolve [] (directory.resolve [] (.literal "Pair")) =
      directory.resolve [] (.literal "Pair") := by
  have hacyclic : directory.Acyclic (.literal "Pair") := by
    refine acyclic_of_rank ["Pair", "Id"] (fun name => if name = "Pair" then 1 else 0) ?_ ?_
    · decide
    · decide
  obtain ⟨-, hpair⟩ := resolve_complete directory [] (.literal "Pair")
  obtain ⟨hentry, -⟩ := resolve_complete directory ["Pair"] (.literal "Entry")
  have hresult : (directory.resolve [] (.literal "Pair")).withoutRaw =
      .ofShape (.tuple [.literal "Number", .literal "Number"]) := by rfl
  exact ⟨hacyclic, hentry 5 (by decide), hresult, ((hpair hacyclic).1 _).2 hresult.symm,
    (hpair hacyclic).2⟩

end Header

end SigCheck
