import SigCheck.Proofs.Sharing
import SigCheck.Proofs.Unlabelled

/-!
# Unused signatures

A header may give signatures to names that the program does not mention.  Such a signature changes
nothing (`Env.check_ignores_unused`): wherever it stands in the header, all the checks of the
program give the same outcome, the same diagnostics and the same log.

The states of the two checks do differ.  One name more is bound, and the objects in its type take
numbers, so that all objects after it get other numbers, more so with each loading of the header.
`Insertion.shift` says which number becomes which.  It is injective, so the same instances are found
to be the same, and numbers are never shown (`Ty.text_renumber`).  That types are numbered alike up
to the shift is a judgment about pairs of computations (`Renumbers`) that counts the numbers they
take, since the shift is the same offset only as far as the next loading of the assignment.
-/

namespace SigCheck

variable {α β τ σ : Type}

/-! ### Renumbered types -/

theorem Shape.rel_renumbered {ι κ : Type} (f : τ → σ) (g : ι → κ) (s : Shape ι τ) :
    Shape.Rel (fun i j => j = g i) (fun t u => u = f t) s ((s.map f).mapId g) := by
  have hlist : ∀ ts : List τ, List.Forall₂ (fun t u => u = f t) ts (ts.map f) := by
    intro ts
    rw [List.forall₂_map_right_iff]
    exact List.forall₂_same.2 fun _ _ => rfl
  cases s with
  | literal name builtin => exact .literal name builtin
  | value text => exact .value text
  | generic base params => exact .generic rfl (hlist params)
  | function args receiver result =>
    refine .function (hlist args) ?_ rfl
    cases receiver with
    | none => exact .none
    | some receiver => exact .some rfl
  | object id fields =>
    refine .object rfl ?_
    rw [List.forall₂_map_right_iff]
    exact List.forall₂_same.2 fun _ _ => ⟨rfl, rfl⟩
  | union members => exact .union (hlist members)
  | intersection members => exact .intersection (hlist members)
  | tuple items => exact .tuple (hlist items)

namespace Ty

/-- Changes the numbers of the objects in a type.  Those in references it was expanded from stay, as
they do when the type is taken into use. -/
def renumber (g : Nat → Nat) : TypeInst → TypeInst :=
  fold fun t shape _ => { t with shape := shape.mapId g }

theorem renumber_eq (g : Nat → Nat) (t : TypeInst) :
    t.renumber g = { t with shape := (t.shape.map (renumber g)).mapId g } := by
  rw [renumber, fold_eq]

theorem similarity_renumber (g : Nat → Nat) :
    Similarity (fun i j => j = g i) fun t u => u = t.renumber g := by
  rintro t _ rfl
  rw [renumber_eq]
  exact Shape.rel_renumbered _ g t.shape

theorem layout_renumber (g : Nat → Nat) (t : TypeInst) (p : Place) :
    (t.renumber g).layout p = t.layout p := by
  induction t using Ty.induction generalizing p with
  | step t ih _ =>
    have hmap : (t.shape.map (renumber g)).map layout = t.shape.map layout :=
      Shape.map_map_congr fun c hc => funext fun p => ih c hc p
    rw [renumber_eq, layout_eq, layout_eq]
    cases t.raw with
    | some written => rfl
    | none =>
      dsimp only
      rw [Shape.map_mapId, Layout.shape_mapId, hmap]
      rfl

theorem text_renumber (g : Nat → Nat) (t : TypeInst) : (t.renumber g).text = t.text :=
  congrArg String.ofList (layout_renumber g t .origin)

end Ty

/-! ### Taking a type into use twice -/

/-- The computations take `n` numbers each, and what the second gives is made from what the first
gives by `f`, if `g` turns the numbers that the first takes into those that the second takes. -/
def Renumbers (g : Nat → Nat) (n : Nat) (f : α → β) (m : StateM Nat α) (m' : StateM Nat β) : Prop :=
  ∀ k k', (∀ b < n, g (k + b) = k' + b) →
    m'.run k' = (f (m.run k).1, k' + n) ∧ (m.run k).2 = k + n

namespace Renumbers

variable {g : Nat → Nat} {n n' : Nat} {α' β' : Type} {f : α → β} {f' : α' → β'}

theorem pure {a : α} {b : β} (h : b = f a) : Renumbers g 0 f (pure a) (pure b) := by
  subst h
  exact fun _ _ _ => ⟨rfl, rfl⟩

theorem bind {m : StateM Nat α} {m' : StateM Nat β} {c : α → StateM Nat α'}
    {c' : β → StateM Nat β'} (hm : Renumbers g n f m m')
    (hc : ∀ a, Renumbers g n' f' (c a) (c' (f a))) :
    Renumbers g (n + n') f' (m >>= c) (m' >>= c') := by
  intro k k' hwindow
  obtain ⟨hrun, hnext⟩ := hm k k' fun b hb => hwindow b (by omega)
  obtain ⟨hrun', hnext'⟩ := hc (m.run k).1 (k + n) (k' + n) fun b hb => by
    rw [Nat.add_assoc, Nat.add_assoc]
    exact hwindow (n + b) (by omega)
  have hfirst : (m >>= c).run k = (c (m.run k).1).run (m.run k).2 := rfl
  have hsecond : (m' >>= c').run k' = (c' (m'.run k').1).run (m'.run k').2 := rfl
  rw [hfirst, hsecond, hrun, hnext, hrun', hnext', Nat.add_assoc, Nat.add_assoc]
  exact ⟨rfl, rfl⟩

theorem bind_pure {m : StateM Nat α} {m' : StateM Nat β} {h : α → α'} {h' : β → β'}
    (hm : Renumbers g n f m m') (hh : ∀ a, h' (f a) = f' (h a)) :
    Renumbers g n f' (m >>= fun a => Pure.pure (h a)) (m' >>= fun b => Pure.pure (h' b)) := by
  show Renumbers g (n + 0) f' _ _
  exact hm.bind fun a => pure (hh a)

theorem mapM {ι : Type} {ids : τ → List ι} {c : τ → StateM Nat α} {c' : τ → StateM Nat β}
    {ts : List τ} (h : ∀ t ∈ ts, Renumbers g (ids t).length f (c t) (c' t)) :
    Renumbers g (ts.map ids).flatten.length (List.map f) (ts.mapM c) (ts.mapM c') := by
  induction ts with
  | nil => exact pure rfl
  | cons t ts ih =>
    obtain ⟨ht, hts⟩ := List.forall_mem_cons.1 h
    rw [List.mapM_cons, List.mapM_cons, List.map_cons, List.flatten_cons, List.length_append]
    exact ht.bind fun _ => (ih hts).bind_pure fun _ => rfl

theorem next : Renumbers g 1 g (getModify (· + 1)) (getModify (· + 1)) := by
  intro k k' hwindow
  have hfirst : g k = k' := hwindow 0 Nat.one_pos
  subst hfirst
  exact ⟨rfl, rfl⟩

end Renumbers

/-- A shape is numbered alike twice if its smaller types are, each with numbers for its `ids`. -/
theorem Shape.renumbers_number {g : Nat → Nat} {f : α → β} {ids : τ → List Unit}
    {c : τ → StateM Nat α} {c' : τ → StateM Nat β} {s : Shape Unit τ}
    (h : ∀ t ∈ s.children, Renumbers g (ids t).length f (c t) (c' t)) :
    Renumbers g (s.id?.toList ++ (s.children.map ids).flatten).length
      (fun s => (s.map f).mapId g) (s.map c).number (s.map c').number := by
  have hlist : ∀ {ts : List τ}, (∀ t ∈ ts, Renumbers g (ids t).length f (c t) (c' t)) →
      Renumbers g (ts.map ids).flatten.length (List.map f) ((ts.map c).mapM id)
        ((ts.map c').mapM id) := by
    intro ts hts
    rw [List.mapM_map, List.mapM_map]
    exact Renumbers.mapM hts
  cases s with
  | literal name builtin => exact .pure rfl
  | value text => exact .pure rfl
  | generic base params =>
    obtain ⟨hbase, hparams⟩ := List.forall_mem_cons.1 h
    have hcount : (ids base).length + (params.map ids).flatten.length =
        ([] ++ ((base :: params).map ids).flatten).length := by
      simp
    refine hcount ▸ ?_
    exact hbase.bind fun _ => (hlist hparams).bind_pure fun _ => rfl
  | function args receiver result =>
    have hargs := hlist fun (t : τ) (ht : t ∈ args) => h t (by simp [children, ht])
    have hresult := h result (by simp [children])
    -- the receiver is written before the arguments, but numbered after them
    cases receiver with
    | none =>
      have hreceiver : Renumbers g 0 (Option.map f) (pure none) (pure none) := .pure rfl
      have hcount : (args.map ids).flatten.length + (0 + (ids result).length) =
          ([] ++ ((args ++ [result]).map ids).flatten).length := by simp
      refine hcount ▸ ?_
      refine hargs.bind fun _ => hreceiver.bind fun _ => ?_
      exact hresult.bind_pure fun _ => rfl
    | some receiver =>
      have hreceiver : Renumbers g (ids receiver).length (Option.map f) (some <$> c receiver)
          (some <$> c' receiver) := by
        rw [map_eq_pure_bind, map_eq_pure_bind]
        exact (h receiver (by simp [children])).bind_pure fun _ => rfl
      have hcount : (args.map ids).flatten.length +
          ((ids receiver).length + (ids result).length) =
          ([] ++ ((receiver :: args ++ [result]).map ids).flatten).length := by
        simp
        omega
      refine hcount ▸ ?_
      refine hargs.bind fun _ => hreceiver.bind fun _ => ?_
      exact hresult.bind_pure fun _ => rfl
  | object id fields =>
    have hfields : Renumbers g (fields.map fun f => ids f.type).flatten.length
        (List.map (Field.map f))
        ((fields.map (Field.map c)).mapM fun f => do return Field.mk f.key f.optional (← f.type))
        ((fields.map (Field.map c')).mapM fun f => do
          return Field.mk f.key f.optional (← f.type)) := by
      rw [List.mapM_map, List.mapM_map]
      refine .mapM fun f hf => ?_
      exact (h f.type (List.mem_map_of_mem hf)).bind_pure fun _ => rfl
    have hcount : 1 + (fields.map fun f => ids f.type).flatten.length =
        ([()] ++ ((fields.map (·.type)).map ids).flatten).length := by
      simp [Function.comp_def, Nat.add_comm]
    refine hcount ▸ ?_
    exact Renumbers.next.bind fun _ => hfields.bind_pure fun _ => rfl
  | union members | intersection members | tuple members =>
    exact (hlist h).bind_pure fun _ => rfl

/-- A type is numbered alike twice, and takes a number for each of its objects. -/
theorem Ty.renumbers_number (g : Nat → Nat) (t : TypeExpr) :
    Renumbers g t.instances.length (renumber g) t.number t.number := by
  induction t using Ty.induction with
  | step t ih _ =>
    rw [number_eq, instances_eq]
    refine (Shape.renumbers_number ih).bind_pure fun s => ?_
    rw [renumber_eq]

/-! ### One more signature -/

/-- How many numbers it takes to take the types of signatures into use. -/
def objectCount (signatures : List (String × TypeExpr)) : Nat :=
  (signatures.flatMap fun s => s.2.instances).length

/-- An assignment of a type to a name, between the statements of a header. -/
structure Insertion where
  before : List Statement
  name : String
  type : TypeExpr
  after : List Statement

namespace Insertion

variable (I : Insertion)

/-- The header without the assignment. -/
def smaller : Header := ⟨I.before ++ I.after⟩

/-- The header with the assignment. -/
def larger : Header := ⟨I.before ++ .assigns ⟨I.name, I.type⟩ :: I.after⟩

/-- The signatures that some of the statements of the header give. -/
def signatures (statements : List Statement) : List (String × TypeExpr) :=
  (Header.mk statements).assignments.map fun a => (a.name, I.smaller.resolve [] a.type)

theorem signatures_smaller :
    I.smaller.signatures = I.signatures I.before ++ I.signatures I.after := by
  simp [Header.signatures, signatures, Header.assignments, smaller]

/-- An assignment is no alias, so it leaves the types of the others as they are. -/
theorem resolve_larger (visiting : List String) (t : TypeExpr) :
    I.larger.resolve visiting t = I.smaller.resolve visiting t := by
  have hdeclarations : I.larger.declarations = I.smaller.declarations := by
    simp [Header.declarations, larger, smaller]
  have hwithin : ∀ n visiting, I.larger.resolveWithin n visiting =
      I.smaller.resolveWithin n visiting := by
    intro n
    induction n with
    | zero => exact fun _ => rfl
    | succ n ih =>
      intro visiting
      unfold Header.resolveWithin Header.declaration?
      simp only [hdeclarations, ih]
  unfold Header.resolve
  rw [hwithin, hdeclarations]

theorem signatures_larger : I.larger.signatures = I.signatures I.before ++
    (I.name, I.smaller.resolve [] I.type) :: I.signatures I.after := by
  have hresolve : I.larger.resolve [] = I.smaller.resolve [] := funext (I.resolve_larger [])
  simp only [Header.signatures, hresolve]
  simp [signatures, Header.assignments, larger]

/-! ### Numbers of objects -/

/-- How many numbers each loading takes before it comes to the assignment. -/
def countBefore : Nat := objectCount (I.signatures I.before)

/-- How many numbers each loading takes after the assignment. -/
def countAfter : Nat := objectCount (I.signatures I.after)

/-- How many numbers the assignment takes. -/
def countInserted : Nat := (I.smaller.resolve [] I.type).instances.length

/-- The number that an object gets if the header has the assignment.  Number 0 stays.  From 1 on,
every loading takes `countBefore` numbers and then `countAfter` numbers; between the two, the
assignment moves all later numbers on by `countInserted`. -/
def shift (i : Nat) : Nat :=
  i + I.countInserted * ((i + I.countAfter - 1) / (I.countBefore + I.countAfter))

theorem shift_lt_shift {i i' : Nat} (h : i < i') : I.shift i < I.shift i' := by
  have hdiv : (i + I.countAfter - 1) / (I.countBefore + I.countAfter) ≤
      (i' + I.countAfter - 1) / (I.countBefore + I.countAfter) :=
    Nat.div_le_div_right (by omega)
  exact Nat.add_lt_add_of_lt_of_le h (Nat.mul_le_mul_left _ hdiv)

theorem shift_injective {i i' : Nat} (h : I.shift i = I.shift i') : i = i' := by
  rcases Nat.lt_trichotomy i i' with hlt | heq | hgt
  · exact absurd h (Nat.ne_of_lt (I.shift_lt_shift hlt))
  · exact heq
  · exact absurd h (Nat.ne_of_gt (I.shift_lt_shift hgt))

theorem shift_zero : I.shift 0 = 0 := by
  have hdiv : (0 + I.countAfter - 1) / (I.countBefore + I.countAfter) = 0 :=
    Nat.div_eq_zero_iff.2 (by omega)
  rw [shift, hdiv]
  rfl

theorem shift_eq {i n r : Nat} (hr : r < I.countBefore + I.countAfter)
    (hi : i + I.countAfter = 1 + n * (I.countBefore + I.countAfter) + r) :
    I.shift i = i + I.countInserted * n := by
  have hsub : i + I.countAfter - 1 = r + n * (I.countBefore + I.countAfter) := by omega
  rw [shift, hsub, Nat.add_mul_div_right r n (Nat.zero_lt_of_lt hr), Nat.div_eq_of_lt hr,
    Nat.zero_add]

theorem renumber_moduleType : Scope.moduleType.renumber I.shift = Scope.moduleType := by
  rw [Ty.renumber_eq]
  show Ty.ofShape (.object (I.shift 0) _) = Scope.moduleType
  rw [shift_zero]
  rfl

/-- The numbers are the next ones after both headers have been loaded equally often. -/
def Aligned (k k' : Nat) : Prop :=
  ∃ n, k = 1 + n * (I.countBefore + I.countAfter) ∧ k' = k + I.countInserted * n

theorem aligned_one : I.Aligned 1 1 :=
  ⟨0, (congrArg (1 + ·) (Nat.zero_mul _)).symm, rfl⟩

variable {I}

theorem Aligned.shift_before {k k' b : Nat} (h : I.Aligned k k') (hb : b < I.countBefore) :
    I.shift (k + b) = k' + b := by
  obtain ⟨n, rfl, rfl⟩ := h
  rw [I.shift_eq (r := b + I.countAfter) (n := n) (by omega) (by omega)]
  omega

theorem Aligned.shift_after {k k' b : Nat} (h : I.Aligned k k') (hb : b < I.countAfter) :
    I.shift (k + I.countBefore + b) = k' + I.countBefore + I.countInserted + b := by
  obtain ⟨n, rfl, rfl⟩ := h
  rw [I.shift_eq (r := b) (n := n + 1) (by omega) (by rw [Nat.add_one_mul]; omega), Nat.mul_add_one]
  omega

theorem Aligned.next {k k' : Nat} (h : I.Aligned k k') :
    I.Aligned (k + I.countBefore + I.countAfter)
      (k' + I.countBefore + I.countInserted + I.countAfter) := by
  obtain ⟨n, rfl, rfl⟩ := h
  refine ⟨n + 1, ?_, ?_⟩
  · rw [Nat.add_one_mul]
    omega
  · rw [Nat.mul_add_one]
    omega

end Insertion

/-! ### Loading the two headers -/

/-- The loaders always give the header without the assignment, and the one with it. -/
structure Loader.Inserted (I : Insertion) (loader loader' : Loader) (name : String) : Prop where
  path? : loader.path? name = loader'.path? name
  smaller : ∀ asked, loader.load asked name = .ok I.smaller
  larger : ∀ asked, loader'.load asked name = .ok I.larger

/-- The states of two checks of a program, the second with the assignment in its header, correspond
if they are the same up to the numbers of objects and to what the name of the assignment stands for.
Their next numbers are related by `next`. -/
def Correspondence.inserted (root : Node) (I : Insertion) (next : Nat → Nat → Prop) :
    Correspondence where
  root := root
  type t u := u = t.renumber I.shift
  names := (· ≠ I.name)
  setting s s' := s.fileName = s'.fileName ∧ next s.nextInstance s'.nextInstance ∧
    s.loader.Inserted I s'.loader (Header.fileName s.fileName)

theorem Scope.Rel.bind_unused {R : TypeInst → TypeInst → Prop} {names : String → Prop}
    {s s' : Scope} (h : Rel R names s s') {name : String} (hname : ¬ names name) (type : TypeInst)
    (origin : Origin) : Rel R names s (s'.bind name type origin) := by
  refine ⟨h.kind, fun other hother => ?_, h.parent⟩
  have hne : other ≠ name := by
    rintro rfl
    exact hname hother
  unfold Scope.bind
  rw [Bindings.find?_insert, if_neg hne]
  exact h.find? other hother

namespace Env

variable {root : Node} {I : Insertion} {k k' : Nat} {env env' : Env}

/-- The states correspond, and their next numbers are the given ones. -/
abbrev RelAt (root : Node) (I : Insertion) (k k' : Nat) : Env → Env → Prop :=
  Rel (.inserted root I fun i i' => i = k ∧ i' = k')

theorem Rel.bind_unused {C : Correspondence} (h : Rel C env env') {name : String}
    (hname : ¬ C.names name) (type : TypeInst) (origin : Origin) :
    Rel C env (env'.bind name type origin) := by
  have hmodify : env.modifyScope id = env := by
    rw [Env.modifyScope, List.modify_id]
  have hbind : Rel C (env.modifyScope id) (env'.bind name type origin) :=
    h.modifyScope fun _ _ hs => hs.bind_unused hname type origin
  rwa [hmodify] at hbind

theorem bindSignatures_append (ss ss' : List (String × TypeExpr)) (env : Env) :
    bindSignatures (ss ++ ss') env = bindSignatures ss' (bindSignatures ss env) := by
  induction ss generalizing env with
  | nil => rfl
  | cons s ss ih => exact ih _

theorem RelAt.instantiate (h : RelAt root I k k' env env') (t : TypeExpr)
    (hshift : ∀ b < t.instances.length, I.shift (k + b) = k' + b) :
    (env'.instantiate t).1 = (env.instantiate t).1.renumber I.shift ∧
      RelAt root I (k + t.instances.length) (k' + t.instances.length)
        (env.instantiate t).2 (env'.instantiate t).2 := by
  obtain ⟨hfile, ⟨rfl, rfl⟩, hloaders⟩ := h.setting
  obtain ⟨hrun, hcount⟩ := t.renumbers_number I.shift _ _ hshift
  have hcount' := congrArg Prod.snd hrun
  exact ⟨congrArg Prod.fst hrun, { h with setting := ⟨hfile, ⟨hcount, hcount'⟩, hloaders⟩ }⟩

/-- The signatures of both headers are bound alike, if the numbers they take are shifted ones. -/
theorem RelAt.bindBoth {ss : List (String × TypeExpr)} (h : RelAt root I k k' env env')
    (hshift : ∀ b < objectCount ss, I.shift (k + b) = k' + b) :
    RelAt root I (k + objectCount ss) (k' + objectCount ss) (bindSignatures ss env)
      (bindSignatures ss env') := by
  induction ss generalizing env env' k k' with
  | nil => exact h
  | cons s ss ih =>
    obtain ⟨name, t⟩ := s
    have hcount : objectCount ((name, t) :: ss) = t.instances.length + objectCount ss := by
      simp [objectCount]
    rw [hcount, ← Nat.add_assoc, ← Nat.add_assoc]
    rw [hcount] at hshift
    obtain ⟨htype, hstate⟩ := h.instantiate t fun b hb => hshift b (by omega)
    refine ih (hstate.bind name htype .header) fun b hb => ?_
    rw [Nat.add_assoc, Nat.add_assoc]
    exact hshift _ (by omega)

/-- The signature of the assignment is bound in the second state only. -/
theorem RelAt.bindInserted (h : RelAt root I k k' env env') (t : TypeExpr) :
    RelAt root I k (k' + t.instances.length) env (bindSignatures [(I.name, t)] env') := by
  obtain ⟨hfile, ⟨rfl, rfl⟩, hloaders⟩ := h.setting
  obtain ⟨-, hcount⟩ := t.renumbers_number id env'.nextInstance _ fun _ _ => rfl
  have hstate : RelAt root I env.nextInstance (env'.nextInstance + t.instances.length) env
      (env'.instantiate t).2 :=
    { h with setting := ⟨hfile, ⟨rfl, hcount⟩, hloaders⟩ }
  exact hstate.bind_unused (not_not_intro rfl) _ .header

/-- Binding all the signatures of both headers takes the same steps but for the inserted one. -/
theorem RelAt.bindHeaders (h : RelAt root I k k' env env') (haligned : I.Aligned k k') :
    Rel (.inserted root I I.Aligned) (bindSignatures I.smaller.signatures env)
      (bindSignatures I.larger.signatures env') := by
  have hbefore := h.bindBoth fun _ hb => haligned.shift_before hb
  have hinserted := hbefore.bindInserted (I.smaller.resolve [] I.type)
  have hafter := hinserted.bindBoth fun _ hb => haligned.shift_after hb
  rw [I.signatures_smaller, I.signatures_larger, bindSignatures_append, bindSignatures_append]
  obtain ⟨hfile, ⟨hnext, hnext'⟩, hloaders⟩ := hafter.setting
  refine { hafter with setting := ⟨hfile, ?_, hloaders⟩ }
  rw [hnext]
  exact hnext' ▸ haligned.next

theorem Rel.loadInserted (h : Rel (.inserted root I I.Aligned) env env') :
    Rel (.inserted root I I.Aligned) env.loadHeader env'.loadHeader := by
  have hfile : env.fileName = env'.fileName := h.setting.1
  have hloaders : env.loader.Inserted I env'.loader (Header.fileName env.fileName) := h.setting.2.2
  have hstate : RelAt root I env.nextInstance env'.nextInstance env env' :=
    { h with setting := ⟨hfile, ⟨rfl, rfl⟩, hloaders⟩ }
  have hannounce : RelAt root I env.nextInstance env'.nextInstance env.announceHeader
      env'.announceHeader := hstate.announceHeader hfile hloaders.path? hstate.setting
  rw [loadHeader_eq, loadHeader_eq, ← hfile, hloaders.smaller, hloaders.larger]
  exact { hannounce.bindHeaders h.setting.2.1 with }

end Env

/-- The checks of a program with and without an assignment to a name that the program does not
mention run side by side. -/
def Visit.Coupling.inserted (root : Node) (I : Insertion) : Coupling where
  toCorrespondence := .inserted root I I.Aligned
  ids i i' := i' = I.shift i
  similar := Ty.similarity_renumber I.shift
  same := by
    rintro i _ j _ rfl rfl
    have hinjective : I.shift i = I.shift j ↔ i = j := ⟨I.shift_injective, congrArg I.shift⟩
    simp [hinjective]
  literal _ := rfl
  loadHeader _ _ := Env.Rel.loadInserted

/-- Diagnostics that are the same up to types with the same text are the same. -/
theorem Diagnostic.Rel.eq_of_text {R : TypeInst → TypeInst → Prop} {d d' : Diagnostic}
    (h : Rel R d d') (hR : ∀ t u, R t u → u.text = t.text) : d = d' := by
  obtain ⟨kind, loc⟩ := d
  obtain ⟨kind', loc'⟩ := d'
  obtain ⟨hkind, rfl⟩ := h
  dsimp only at hkind
  congr 1
  cases hkind with
  | refl => rfl
  | typeClassMismatch h h' => rw [hR _ _ h, hR _ _ h']
  | nonExistentField _ h | nonVoidReturnType _ _ h | missingReturnStatement _ _ h
  | callingNewOnPlainFunction _ h | constructorMustBePascalCase _ h
  | constructorThisTypeMustBeObject _ h | returnStatementInConstructor _ h
  | unionFieldAccess _ h => rw [hR _ _ h]

namespace Env

/-- **A signature for a name that the program does not mention changes nothing.** -/
theorem check_ignores_unused (root : Node) (fileName : String) (loader loader' : Loader)
    (before after : List Statement) (name : String) (type : TypeExpr)
    (hload : ∀ asked, loader.load asked (Header.fileName fileName) = .ok ⟨before ++ after⟩)
    (hload' : ∀ asked, loader'.load asked (Header.fileName fileName) =
      .ok ⟨before ++ .assigns ⟨name, type⟩ :: after⟩)
    (hpath : loader.path? (Header.fileName fileName) = loader'.path? (Header.fileName fileName))
    (hunused : root.All fun n => n.ownName? ≠ some name) (passes : Nat) :
    let env := (fun env => env.check.2)^[passes] (start root fileName loader)
    let env' := (fun env => env.check.2)^[passes] (start root fileName loader')
    env.check.1 = env'.check.1 ∧ env.check.2.errors = env'.check.2.errors ∧
      env.check.2.fatal = env'.check.2.fatal ∧ env.check.2.exports = env'.check.2.exports ∧
      env.check.2.log = env'.check.2.log := by
  let I : Insertion := ⟨before, name, type, after⟩
  have hroot : root.All (Visit.Coupling.inserted root I).Names := by
    refine hunused.imp fun n hn other hother => ?_
    rintro rfl
    exact hn hother
  have hstart : Rel (.inserted root I I.Aligned) (start root fileName loader)
      (start root fileName loader') :=
    rel_start rfl (I.renumber_moduleType).symm ⟨rfl, I.aligned_one, hpath, hload, hload'⟩
  have hpasses := Visit.Coupling.iterate_check hroot hstart passes
  obtain ⟨hstate, houtcome⟩ := Visit.Coupling.check hroot hpasses
  have herrors := hstate.errors.imp fun d d' hd => hd.eq_of_text fun _ _ ht => by
    rw [ht, Ty.text_renumber]
  rw [List.forall₂_eq_eq_eq] at herrors
  exact ⟨houtcome, herrors, hstate.fatal, hstate.exports, hstate.log⟩

/-- The program `draw(shape)`. -/
def drawProgram : Node :=
  firstNode (.program [firstNode (.expressionStatement (firstNode (.callExpression
    (firstNode (.identifier "draw")) [firstNode (.identifier "shape")])))])

/-- The statement `name : { side : type }`. -/
def sided (name type : String) : Statement :=
  .assigns ⟨name, .ofShape (.object () [⟨"side", false, .literal type⟩])⟩

/-- The statement `draw : ({ side : String }) => void`. -/
def draw : Statement :=
  .assigns ⟨"draw", .ofShape (.function
    [.ofShape (.object () [⟨"side", false, .literal "String"⟩])] none (.literal "void"))⟩

/-- The wrong side of `shape` is found in both passes, with a signature of `spare` before that of
`draw` and without. -/
theorem check_ignores_unused_draw :
    (drawProgram.All fun n => n.ownName? ≠ some "spare") ∧
    let env := (fun env => env.check.2)^[1]
      (start drawProgram "draw.js" (onlyLoader ⟨[sided "shape" "Number"] ++ [draw]⟩))
    let env' := (fun env => env.check.2)^[1] (start drawProgram "draw.js"
      (onlyLoader ⟨[sided "shape" "Number"] ++ sided "spare" "Number" :: [draw]⟩))
    env.check.2.errors.map Diagnostic.kind =
        [.typeClassMismatch "String" "Number", .typeClassMismatch "String" "Number"] ∧
      env.nextInstance = 3 ∧ env'.nextInstance = 4 ∧
      env.check.1 = env'.check.1 ∧ env.check.2.errors = env'.check.2.errors ∧
      env.check.2.fatal = env'.check.2.fatal ∧ env.check.2.exports = env'.check.2.exports ∧
      env.check.2.log = env'.check.2.log := by
  have hunused : drawProgram.All fun n => n.ownName? ≠ some "spare" := by
    refine .intro (by decide) (List.forall_mem_singleton.2 (.intro (by decide) ?_))
    refine List.forall_mem_singleton.2 (.intro (by decide) (List.forall_mem_cons.2 ⟨?_, ?_⟩))
    · exact .intro (by decide) nofun
    · exact List.forall_mem_singleton.2 (.intro (by decide) nofun)
  exact ⟨hunused, rfl, rfl, rfl, check_ignores_unused drawProgram "draw.js" (onlyLoader _)
    (onlyLoader _) [sided "shape" "Number"] [draw] "spare" _ (fun _ => rfl) (fun _ => rfl) rfl
    hunused 1⟩

end Env

end SigCheck
