import SigCheck.Proofs.Declarations
import SigCheck.Proofs.Resolution
import SigCheck.Proofs.Sessions
import SigCheck.Proofs.Similar

/-!
# Types are shown as they were written

A type in use is not the type that the header writes: its references have been expanded, as deep as
aliases go, and its objects have been numbered.  None of this is ever seen.  A type that came from a
reference is laid out as that reference, and a layout has no numbers in it, so every layout of the
type is a layout of what was written (`Header.layout_resolve`, `Ty.layout_number`).

The names of a header are bound to such types when it is loaded, each to that of its last assignment
(`Env.shown?_loadHeader`).  Nothing else makes a declaration, so whatever a check goes through, all
declarations are shown as the header has them (`Env.showing_steps`).
-/

namespace SigCheck

variable {α β γ τ ι κ : Type}

/-! ### Resolved types -/

theorem Ty.render_eq_of_layout {t : Ty ι} {u : Ty κ} (h : t.layout = u.layout) :
    t.render = u.render :=
  funext fun p => congrArg String.ofList (congrFun h p)

theorem Header.layout_resolve (h : Header) (visiting : List String) (t : TypeExpr) :
    (h.resolve visiting t).layout = t.layout := by
  funext p
  induction visiting, t using h.resolve_induction generalizing p with
  | left visiting t name ht hleft => rw [resolve_of_left ht hleft]
  | expand visiting t name d ht hd hname _ =>
    -- whatever the alias stands for, the reference is what is written
    rw [resolve_of_isAlias ht hd hname, Ty.layout_eq]
    rfl
  | node visiting t ht ih =>
    have hparts : ∀ c ∈ t.shape.parts, (h.resolve visiting c).layout = id c.layout :=
      fun c hc => funext fun p => ih c hc p
    have hshape : (t.shape.mapParts (h.resolve visiting)).map Ty.layout =
        t.shape.map Ty.layout := by
      rw [Shape.map_mapParts hparts, Shape.mapParts_id]
    rw [resolve_of_none ht, Ty.layout_eq, Ty.layout_eq t, hshape]
    rfl

/-! ### Numbered types -/

/-- Whatever numbers it takes, what the computation gives is turned into `b` by `f`. -/
def Gives (f : α → β) (m : StateM Nat α) (b : β) : Prop := ∀ k, f (m.run k).1 = b

namespace Gives

variable {f : α → β} {g : γ → ι} {b : β} {c : ι}

theorem pure {a : α} (h : f a = b) : Gives f (pure a) b := fun _ => h

theorem bind {m : StateM Nat α} {next : α → StateM Nat γ} (hm : Gives f m b)
    (hnext : ∀ a, f a = b → Gives g (next a) c) : Gives g (m >>= next) c :=
  fun k => hnext _ (hm k) _

theorem map {m : StateM Nat α} (hm : Gives f m b) : Gives (Option.map f) (some <$> m) (some b) :=
  fun k => congrArg some (hm k)

theorem mapM {m : τ → StateM Nat α} {d : τ → β} {ts : List τ}
    (h : ∀ t ∈ ts, Gives f (m t) (d t)) : Gives (List.map f) (ts.mapM m) (ts.map d) := by
  induction ts with
  | nil => exact pure rfl
  | cons t ts ih =>
    obtain ⟨ht, hts⟩ := List.forall_mem_cons.1 h
    rw [List.mapM_cons]
    exact ht.bind fun a ha => (ih hts).bind fun as has => pure (by rw [List.map_cons, ha, has]; rfl)

end Gives

/-- Numbering a shape changes only its identity. -/
theorem Shape.gives_number {f : α → β} {m : τ → StateM Nat α} {d : τ → β} {s : Shape Unit τ}
    (h : ∀ t ∈ s.children, Gives f (m t) (d t)) :
    Gives (fun s => (s.map f).mapId fun _ => ()) (s.map m).number (s.map d) := by
  have hlist : ∀ {ts : List τ}, (∀ t ∈ ts, Gives f (m t) (d t)) →
      Gives (List.map f) ((ts.map m).mapM id) (ts.map d) := by
    intro ts hts
    rw [List.mapM_map]
    exact Gives.mapM hts
  cases s with
  | literal name builtin => exact .pure rfl
  | value text => exact .pure rfl
  | generic base params =>
    obtain ⟨hbase, hparams⟩ := List.forall_mem_cons.1 h
    refine hbase.bind fun a ha => (hlist hparams).bind fun as has => .pure ?_
    simp [map, mapId, ha, has]
  | function args receiver result =>
    have hargs := hlist fun (t : τ) (ht : t ∈ args) => h t (by simp [children, ht])
    have hresult := h result (by simp [children])
    refine hargs.bind fun as has => ?_
    cases receiver with
    | none => exact hresult.bind fun a ha => .pure (by simp [map, mapId, has, ha])
    | some receiver =>
      have hreceiver := h receiver (by simp [children])
      refine (Gives.map hreceiver).bind fun r hr => hresult.bind fun a ha => .pure ?_
      simp [map, mapId, has, hr, ha]
  | object id fields =>
    have hfields : Gives (List.map (Field.map f))
        ((fields.map (Field.map m)).mapM fun f => do return Field.mk f.key f.optional (← f.type))
        (fields.map (Field.map d)) := by
      rw [List.mapM_map]
      refine .mapM fun field hfield => ?_
      have htype := h field.type (List.mem_map_of_mem hfield)
      exact htype.bind fun a ha => .pure (by simp [Field.map, ha])
    have hnext : Gives (fun _ => ()) (getModify (· + 1)) () := fun _ => rfl
    refine hnext.bind fun i _ => hfields.bind fun fs hfs => .pure ?_
    simp [map, mapId, hfs]
  | union members => exact (hlist h).bind fun as has => .pure (congrArg union has)
  | intersection members => exact (hlist h).bind fun as has => .pure (congrArg intersection has)
  | tuple items => exact (hlist h).bind fun as has => .pure (congrArg tuple has)

namespace Ty

theorem layout_mapId (g : ι → κ) (t : Ty ι) : (t.mapId g).layout = t.layout := by
  funext p
  induction t using Ty.induction generalizing p with
  | step t ih ihraw =>
    have hshape : ((t.shape.map (mapId g)).mapId g).map layout = (t.shape.map layout).mapId g := by
      rw [Shape.map_mapId, Shape.map_map_congr fun c hc => funext fun p => ih c hc p]
    rw [mapId_eq, layout_eq, layout_eq t]
    cases hraw : t.raw with
    | some written => exact ihraw written hraw p
    | none =>
      dsimp only [Option.map_none]
      rw [hshape, Layout.shape_mapId]
      rfl

theorem layout_number (t : TypeExpr) (k : Nat) : (t.number.run k).1.layout = t.layout := by
  revert k
  change Gives layout t.number t.layout
  induction t using Ty.induction with
  | step t ih _ =>
    rw [number_eq]
    refine (Shape.gives_number ih).bind fun s hs => .pure (funext fun p => ?_)
    rw [layout_eq, layout_eq t]
    cases hraw : t.raw with
    | some written => exact congrFun (layout_mapId _ written) p
    | none =>
      dsimp only [Option.map_none]
      rw [← hs, Layout.shape_mapId]
      rfl

end Ty

/-! ### Declared types -/

/-- How the type of a name is written; a later assignment replaces an earlier one. -/
def Header.written? (h : Header) (name : String) : Option (Place → String) :=
  (h.assignments.filter (·.name == name)).getLast?.map (·.type.render)

theorem Scope.declared?_bind_header (s : Scope) (name : String) (type : TypeInst) (other : String) :
    (s.bind name type .header).declared? other =
      if other = name then some ⟨type, .header⟩ else s.declared? other := by
  rw [declared?, bind, Bindings.find?_insert]
  split <;> rfl

theorem Scope.declared?_program (name : String) : program.declared? name = none := by
  have hrequire : ∀ name, ((⟨.program, [], none⟩ : Scope).bind "require" requireType
      .requireFunction).declared? name = none :=
    declared?_bind rfl requireType (by decide)
  exact (declared?_bind (hrequire _) moduleType (by decide) name).trans (hrequire name)

namespace Env

variable (env : Env)

/-- How the type that the header declares for a name is shown, in the scope at the place `i`. -/
def shown? (i : Nat) (name : String) : Option (Place → String) :=
  (env.declared? i name).map (·.type.render)

theorem shown?_bind (name : String) (type : TypeInst) (i : Nat) (other : String) :
    (env.bind name type .header).shown? i other =
      if (i = env.current ∧ i < env.scopes.length) ∧ other = name then some type.render
      else env.shown? i other := by
  rw [shown?, shown?, declared?, declared?, bind, modifyScope, List.getElem?_modify]
  by_cases hi : env.current = i
  · subst hi
    cases hs : env.scopes[env.current]? with
    | none =>
      have hle := List.getElem?_eq_none_iff.1 hs
      rw [if_neg fun h => absurd h.1.2 (Nat.not_lt_of_le hle)]
      rfl
    | some s =>
      obtain ⟨hlt, -⟩ := List.getElem?_eq_some_iff.1 hs
      simp only [hlt, true_and, if_true, Option.map_eq_map, Option.map_some, Option.bind_some,
        Scope.declared?_bind_header]
      split <;> rfl
  · rw [if_neg fun h => hi h.1.1.symm]
    simp [hi]

/-- The first signature is bound, and shown as it is written, before the others. -/
theorem bindSignatures_cons (key : String) (type : TypeExpr) (rest : List (String × TypeExpr)) :
    ∃ env' : Env, bindSignatures ((key, type) :: rest) env = bindSignatures rest env' ∧
      env'.current = env.current ∧ env'.scopes.length = env.scopes.length ∧
      ∀ i name, env'.shown? i name =
        if (i = env.current ∧ i < env.scopes.length) ∧ name = key then some type.render
        else env.shown? i name := by
  refine ⟨(env.instantiate type).2.bind key (env.instantiate type).1 .header, rfl, rfl,
    List.length_modify .., fun i name => ?_⟩
  have hrender : (env.instantiate type).1.render = type.render :=
    Ty.render_eq_of_layout (type.layout_number env.nextInstance)
  exact hrender ▸ (env.instantiate type).2.shown?_bind key (env.instantiate type).1 i name

theorem shown?_bindSignatures (signatures : List (String × TypeExpr)) (i : Nat) (name : String) :
    (bindSignatures signatures env).shown? i name =
      if i = env.current ∧ i < env.scopes.length then
        ((signatures.filter (·.1 == name)).getLast?.map (·.2.render)).or (env.shown? i name)
      else env.shown? i name := by
  induction signatures generalizing env with
  | nil => simp [bindSignatures]
  | cons signature signatures ih =>
    obtain ⟨key, type⟩ := signature
    obtain ⟨env', hcons, hcurrent, hlength, hshown⟩ := env.bindSignatures_cons key type signatures
    rw [hcons, ih, hshown, hcurrent, hlength]
    by_cases hi : i = env.current ∧ i < env.scopes.length
    · rw [if_pos hi, if_pos hi]
      by_cases hkey : key = name
      · subst hkey
        -- a signature of this name among the others still takes the place of the first one
        rw [if_pos ⟨hi, rfl⟩, List.filter_cons_of_pos (by simp), List.getLast?_cons]
        cases (signatures.filter (·.1 == key)).getLast? <;> rfl
      · rw [if_neg fun h => hkey h.2.symm, List.filter_cons_of_neg (by simpa using hkey)]
    · rw [if_neg hi, if_neg hi, if_neg fun h => hi h.1]

variable {env} {h : Header}

theorem shown?_loadHeader
    (hload : env.loader.load env.loads (Header.fileName env.fileName) = .ok h) (i : Nat)
    (name : String) :
    env.loadHeader.shown? i name =
      if i = env.current ∧ i < env.scopes.length then (h.written? name).or (env.shown? i name)
      else env.shown? i name := by
  have hwritten : (h.signatures.filter (·.1 == name)).getLast?.map (·.2.render) =
      h.written? name := by
    rw [Header.signatures, List.filter_map, List.getLast?_map, Option.map_map]
    refine congrArg (Option.map · _) (funext fun a => ?_)
    exact Ty.render_eq_of_layout (h.layout_resolve [] a.type)
  obtain ⟨events, hannounce⟩ := env.announceHeader_eq
  have hbind := env.announceHeader.shown?_bindSignatures h.signatures i name
  rw [hwritten, hannounce] at hbind
  rw [loadHeader_eq, hload, hannounce]
  exact hbind

/-- The header of the program is always `h`, and all declarations are shown as they are written
there. -/
def Showing (h : Header) (env : Env) : Prop :=
  (∀ asked, env.loader.load asked (Header.fileName env.fileName) = .ok h) ∧
    ∀ i name text, env.shown? i name = some text → h.written? name = some text

theorem showing_start (root : Node) {fileName : String} {loader : Loader}
    (hload : ∀ asked, loader.load asked (Header.fileName fileName) = .ok h) :
    (start root fileName loader).Showing h := by
  have hnone : ∀ i name, (start root fileName loader).shown? i name = none := by
    intro i name
    rcases i with _ | _ | i
    · exact congrArg _ (Scope.declared?_program name)
    · rfl
    · rfl
  refine ⟨hload, fun i name text htext => ?_⟩
  exact absurd (htext.symm.trans (hnone i name)) (Option.some_ne_none text)

theorem Showing.of_declared? {env' : Env} (hshowing : env.Showing h)
    (hloader : env'.loader = env.loader) (hfile : env'.fileName = env.fileName)
    (hdeclared : ∀ i name b, env'.declared? i name = some b → env.declared? i name = some b) :
    env'.Showing h := by
  obtain ⟨hload, hshown⟩ := hshowing
  refine ⟨by rwa [hloader, hfile], fun i name text htext => ?_⟩
  obtain ⟨b, hb, rfl⟩ := Option.map_eq_some_iff.1 htext
  exact hshown i name _ (Option.map_eq_some_iff.2 ⟨b, hdeclared i name b hb, rfl⟩)

theorem Showing.loadHeader (hshowing : env.Showing h) : env.loadHeader.Showing h := by
  obtain ⟨hload, hshown⟩ := hshowing
  obtain ⟨scopes, events, next, heq⟩ := loadHeader_of_ok (hload env.loads)
  refine ⟨by rwa [heq], fun i name text htext => ?_⟩
  rw [shown?_loadHeader (hload env.loads)] at htext
  split at htext
  · rcases Option.or_eq_some_iff.1 htext with hwritten | ⟨-, hbefore⟩
    · exact hwritten
    · exact hshown i name text hbefore
  · exact hshown i name text htext

/-- The way out of a function takes declarations with it, but makes none. -/
theorem declared?_exitFunction {i : Nat} {name : String} {b : Binding}
    (hb : env.exitFunction.2.declared? i name = some b) : env.declared? i name = some b := by
  unfold exitFunction at hb
  split at hb
  · split at hb
    · obtain ⟨s, hs, hb⟩ := Option.bind_eq_some_iff.1 hb
      have hdrop : env.scopes.dropLast[i]? = some s := hs
      rw [List.getElem?_dropLast] at hdrop
      split at hdrop
      · exact Option.bind_eq_some_iff.2 ⟨s, hdrop, hb⟩
      · cases hdrop
    · exact hb
  · exact hb

/-- Every step shows declarations as they are written. -/
theorem showing_steps : Visit.Steps (.keeping (Showing h)) (fun _ => True) fun _ => True where
  children _ _ _ _ := trivial
  literal _ _ := trivial
  lookup _ _ _ _ _ _ _ _ := trivial
  function _ _ _ _ := trivial
  compare _ _ _ _ _ _ := trivial
  report _ _ _ _ _ henv := ⟨henv, trivial⟩
  skipFunction _ _ henv := ⟨henv, trivial⟩
  skipNode _ _ henv := ⟨henv, trivial⟩
  bind _ _ _ t henv _ _ _ hname := by
    refine ⟨henv.of_declared? rfl rfl fun i other b hb => ?_, trivial⟩
    rwa [declared?_bind hname t (by decide)] at hb
  foundReturn _ _ _ _ _ henv :=
    ⟨henv.of_declared? rfl rfl fun i name _ hb =>
      (declared?_modifyFunction _ i name).symm.trans hb, trivial⟩
  assigned _ _ _ _ _ _ _ _ _ _ _ henv :=
    ⟨henv.of_declared? rfl rfl fun i name _ hb =>
      (declared?_modifyFunction _ i name).symm.trans hb, trivial⟩
  setExports _ body _ _ env henv := by
    obtain ⟨value, heq⟩ := env.setExports_eq body
    refine ⟨?_, trivial⟩
    dsimp only
    rw [heq]
    exact henv
  loadHeader _ _ _ henv _ _ _ := ⟨henv.loadHeader, trivial⟩
  enterFunction _ _ name params type _ _ _ henv _ _ _ _ _ _ :=
    henv.of_declared? rfl rfl fun i other _ hb =>
      (declared?_enterFunction name params type i other).symm.trans hb
  exitFunction _ env' _ _ _ _ henv' _ := by
    obtain ⟨scopes, current, events, heq⟩ := env'.exitFunction_eq
    refine ⟨henv'.of_declared? ?_ ?_ fun i name b => declared?_exitFunction, trivial⟩
    · rw [heq]
    · rw [heq]

theorem Showing.visit (hshowing : env.Showing h) (n : Node) : (env.visit n).2.Showing h :=
  (showing_steps.visit (Node.all_of_forall (fun _ => trivial) n) env hshowing).1

theorem Showing.throughout (hshowing : env.Showing h) (n : Node) :
    Visit.Throughout (Showing h) n env :=
  showing_steps.throughout (fun _ henv => henv) (Node.all_of_forall (fun _ => trivial) n) hshowing

/-- **Aliases are never seen.**  A resolved type is laid out as the type that was written, at every
place and whatever is left unresolved.  A header that is loaded declares each name that it assigns a
type to, shown as in its last assignment, and changes no other declaration.  So after any requests,
and at every node of a visit that follows, each declaration is shown as the header has it. -/
theorem header_shown_as_written (h : Header) :
    (∀ visiting t p, (h.resolve visiting t).render p = t.render p) ∧
    (∀ env : Env, env.loader.load env.loads (Header.fileName env.fileName) = .ok h → ∀ i name,
      env.loadHeader.shown? i name =
        if i = env.current ∧ i < env.scopes.length then (h.written? name).or (env.shown? i name)
        else env.shown? i name) ∧
    (∀ root fileName loader,
      (∀ asked, loader.load asked (Header.fileName fileName) = .ok h) → ∀ rs,
      let env := ((start root fileName loader).answerAll rs).2
      (∀ i name text, env.shown? i name = some text → h.written? name = some text) ∧
        ∀ n, Visit.Throughout (Showing h) n env) := by
  refine ⟨fun visiting t => congrFun (Ty.render_eq_of_layout (h.layout_resolve visiting t)),
    fun env hload => shown?_loadHeader hload, fun root fileName loader hload rs => ?_⟩
  have hshowing := answerAll_induction (P := Showing h) (fun _ n henv => henv.visit n) rs
    (showing_start root hload)
  exact ⟨hshowing.2, hshowing.throughout⟩

/-- A name whose second assignment has an alias for an alias, one with parameters, a cyclic one and
an undeclared name in it. -/
def catalogue : Header :=
  ⟨Header.directory.statements ++
    [.declares ⟨"Index", [.literal "T"], .ofShape (.object () [⟨"first", false, .literal "T"⟩])⟩,
      .assigns ⟨"find", .literal "Number"⟩,
      .assigns ⟨"find", .ofShape (.function
        [.literal "Pair", .ofShape (.generic (.literal "Index") [.literal "Entry"])] none
        (.ofShape (.union [.literal "Entry", .literal "Missing"])))⟩]⟩

/-- The name is declared once the header is loaded, and shown in the same way after any requests. -/
theorem header_shown_as_written_find :
    let env := start ⟨.unknown, .program []⟩ "find.js" ⟨fun _ _ => .ok catalogue, fun _ => none⟩
    (∀ asked, env.loader.load asked (Header.fileName env.fileName) = .ok catalogue) ∧
      (catalogue.resolve [] (.literal "Pair")).withoutRaw.text = "[Number, Number]" ∧
      (env.loadHeader.shown? 1 "find").map (· .origin) =
        some "(Pair, Index<Entry>) => Entry | Missing" ∧
      ∀ rs text, (env.answerAll rs).2.shown? 1 "find" = some text →
        text .origin = "(Pair, Index<Entry>) => Entry | Missing" := by
  obtain ⟨-, hloaded, hshown⟩ := header_shown_as_written catalogue
  have hwritten : (catalogue.written? "find").map (· .origin) =
      some "(Pair, Index<Entry>) => Entry | Missing" := rfl
  refine ⟨fun _ => rfl, rfl, ?_, fun rs text htext => ?_⟩
  · rw [hloaded _ rfl]
    rfl
  · rw [(hshown _ _ _ (fun _ => rfl) rs).1 1 "find" text htext] at hwritten
    exact Option.some.inj hwritten

end Env

end SigCheck
