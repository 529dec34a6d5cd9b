import SigCheck.Proofs.Parsing.Completeness
import SigCheck.Proofs.Spelling

/-!
# Writing a header and reading it back

A header is *canonical* if it has the form in which reading gives headers, with members of unions
and intersections that need no parentheses, which writing does not put (`Header.Canonical`).  Such a
header is what reading gives of its text, wherever on the page it is written
(`Header.parse_render`).

The proof goes through the words: every layout of a canonical header is read as its words
(`Header.lexes_render`), and its words have a derivation with the longest results
(`Header.derives_words`), which is the one that reading finds (`Header.Canonical.parse_text`).
-/

namespace SigCheck

open Grammar Scan Layout

/-! ### Names and values -/

/-- The text is that of one name, which may be a keyword. -/
def IsName (s : String) : Prop :=
  ∃ kind : TokenKind, kind.isName = true ∧
    (tokenize s).map Token.word = [(kind, s), (.eof, "")]

/-- The text is that of one name that a type can have. -/
def IsTypeName (s : String) : Prop :=
  (tokenize s).map Token.word = [(.name, s), (.eof, "")] ∧ ¬(s = "true" ∨ s = "false")

instance : DecidablePred IsTypeName := fun _ => inferInstanceAs (Decidable (_ ∧ _))

/-- The text is that of a value: a boolean, a numeral, or a text without quotes, backslashes and
line feeds between double quotes. -/
inductive IsValue : String → Prop
  | boolean {s : String} (h : s = "true" ∨ s = "false") : IsValue s
  | numeral {s : String} (h : IsNumeralText s.toList) : IsValue s
  | quoted {s : String} (h : IsPlainText s.toList) : IsValue ("\"" ++ s ++ "\"")

theorem spellsOpen_of_tokenize {s : String} {kind : TokenKind} (hk : kind.isName = true)
    (h : (tokenize s).map Token.word = [(kind, s), (.eof, "")]) :
    SpellsOpen s.toList [(kind, s)] := by
  have hlexes : Lexes s.toList [(kind, String.ofList s.toList)] := by
    rw [String.ofList_toList]
    exact lexes_iff.2 h
  obtain ⟨hword, rfl⟩ := hlexes.isWordText hk
  simpa using spellsOpen_of_isWordText hword

theorem IsName.spelled {s : String} (h : IsName s) : Spelled s := by
  obtain ⟨kind, hk, h⟩ := h
  exact spelled_of_spellsOpen (spellsOpen_of_tokenize hk h)

theorem IsName.name {s : String} (h : IsName s) : Name s .closed (textWords s) := by
  obtain ⟨kind, hk, h⟩ := h
  rw [textWords_eq (spellsOpen_of_tokenize hk h)]
  exact Parse.name_of_isName (t := ⟨kind, ⟨0, 0, 0⟩, s⟩) hk

theorem IsTypeName.isName {s : String} (h : IsTypeName s) : IsName s := ⟨.name, rfl, h.1⟩

theorem IsTypeName.textWords {s : String} (h : IsTypeName s) : textWords s = [(.name, s)] :=
  textWords_eq (spellsOpen_of_tokenize rfl h.1)

theorem IsValue.spells {s : String} (h : IsValue s) : ∃ ws, SpellsOpen s.toList ws ∧
    Derives true (.primary (.value s)) .closed ws := by
  cases h with
  | boolean h =>
    have hname : (tokenize s).map Token.word = [(.name, s), (.eof, "")] := by
      obtain rfl | rfl := h <;> decide
    exact ⟨_, spellsOpen_of_tokenize rfl hname, .of (.boolean h)⟩
  | numeral h =>
    have hspells := spellsOpen_of_isNumeralText h
    rw [String.ofList_toList] at hspells
    exact ⟨_, hspells, .of .number⟩
  | @quoted v h =>
    have hspells := (spells_of_isPlainText h).spellsOpen
    rw [String.ofList_toList] at hspells
    refine ⟨_, ?_, .of .string⟩
    simpa using hspells

/-! ### Canonical headers -/

namespace Ty

variable {ι : Type}

/-- The type is a union. -/
def isUnion (t : Ty ι) : Bool :=
  match t.shape with
  | .union _ => true
  | _ => false

/-- The type is an intersection. -/
def isIntersection (t : Ty ι) : Bool :=
  match t.shape with
  | .intersection _ => true
  | _ => false

/-- The type is written with the result of an arrow at its end. -/
def endsInArrow : Ty ι → Bool :=
  fold fun _ shape _ =>
    match shape with
    | .function _ _ _ => true
    | .union members | .intersection members => members.getLast?.getD false
    | _ => false

theorem endsInArrow_eq (t : Ty ι) :
    t.endsInArrow = match t.shape with
      | .function _ _ _ => true
      | .union members | .intersection members => (members.getLast?.map endsInArrow).getD false
      | _ => false := by
  rw [endsInArrow, fold_eq]
  cases t.shape <;> simp [Shape.map, List.getLast?_map]

end Ty

/-- What is asked of the parts of a shape.  Labels stand on the arguments and the receiver of a
function type only, and a member of a union or intersection is one that needs no parentheses: no
type that binds as loosely, and before the last, none that ends with the result of an arrow. -/
def Shape.Canonical : Shape Unit TypeExpr → Prop
  | .literal name builtin => IsTypeName name ∧ builtin = Ty.isBuiltinName name
  | .value text => IsValue text
  | .generic base params =>
    base.literalName?.isSome = true ∧ params ≠ [] ∧ ∀ c ∈ base :: params, c.label = none
  | .function args receiver result =>
    (∀ r ∈ receiver, r.label = some "this") ∧
      (receiver = none → ∀ first ∈ args.head?, first.label ≠ some "this") ∧ result.label = none
  | .object _ fields => ∀ f ∈ fields, IsName f.key ∧ f.type.label = none
  | .union members =>
    2 ≤ members.length ∧ (∀ m ∈ members, m.label = none ∧ m.isUnion = false) ∧
      ∀ m ∈ members.dropLast, m.endsInArrow = false
  | .intersection members =>
    2 ≤ members.length ∧
      (∀ m ∈ members, m.label = none ∧ m.isUnion = false ∧ m.isIntersection = false) ∧
      ∀ m ∈ members.dropLast, m.endsInArrow = false
  | .tuple items => ∀ c ∈ items, c.label = none

/-- Every part of the type is canonical, and was written where it stands; labels are names, and only
what has a label may be absent. -/
inductive Ty.Canonical : TypeExpr → Prop
  | intro {t : TypeExpr} (hraw : t.raw = none) (hlabel : ∀ name ∈ t.label, IsName name)
      (hoptional : t.label = none → t.optional = false) (hshape : t.shape.Canonical)
      (hchildren : ∀ c ∈ t.shape.children, Ty.Canonical c) : Ty.Canonical t

theorem Ty.canonical_ofShape {shape : Shape Unit TypeExpr} (hshape : shape.Canonical)
    (hchildren : ∀ c ∈ shape.children, c.Canonical) : (Ty.ofShape shape).Canonical :=
  .intro rfl nofun (fun _ => rfl) hshape hchildren

theorem Ty.canonical_literal {name : String} (h : IsTypeName name) : (Ty.literal name).Canonical :=
  canonical_ofShape ⟨h, rfl⟩ nofun

theorem Ty.Canonical.withLabel {t : TypeExpr} {label : String} (h : t.Canonical) (hl : IsName label)
    (optional : Bool) : (t.withLabel label optional).Canonical := by
  cases h with
  | intro hraw _ _ hshape hchildren =>
    refine .intro hraw (fun name hname => ?_) nofun hshape hchildren
    cases hname
    exact hl

/-- The types are names without anything else, such as those that a statement declares or
imports. -/
def AreNames (ts : List TypeExpr) : Prop := ∀ t ∈ ts, ∃ name, IsName name ∧ t = .literal name

/-- The types of the statement are canonical, its names are names, and its dependency needs no
escapes. -/
def Statement.Canonical : Statement → Prop
  | .imports i => IsPlainText i.dependency.toList ∧ AreNames i.types
  | .declares d => IsName d.name ∧ AreNames d.params ∧ d.type.Canonical ∧ d.type.label = none
  | .assigns a => IsName a.name ∧ a.type.Canonical ∧ a.type.label = none

/-- All statements of the header are canonical. -/
def Header.Canonical (h : Header) : Prop := ∀ s ∈ h.statements, s.Canonical

/-! ### Canonical types have derivations -/

/-- The phrase that a type is without parentheses. -/
def Ty.phrase (t : TypeExpr) : Phrase :=
  match t.shape with
  | .union _ => .type t
  | .intersection _ => .intersection t
  | _ => .primary t

section derivations

variable {t : TypeExpr} {e : Ending} {ws : List Word}

theorem derives_intersection_of_phrase (hu : t.isUnion = false) (h : Derives true t.phrase e ws) :
    Derives true (.intersection t) e ws := by
  unfold Ty.isUnion at hu
  unfold Ty.phrase at h
  cases hshape : t.shape with
  | union => simp [hshape] at hu
  | intersection => simpa [hshape] using h
  | _ => exact .of (.member (by simpa [hshape] using h))

theorem derives_primary_of_phrase (hu : t.isUnion = false) (hi : t.isIntersection = false)
    (h : Derives true t.phrase e ws) : Derives true (.primary t) e ws := by
  unfold Ty.isUnion at hu
  unfold Ty.isIntersection at hi
  unfold Ty.phrase at h
  cases hshape : t.shape with
  | union => simp [hshape] at hu
  | intersection => simp [hshape] at hi
  | _ => simpa [hshape] using h

theorem derives_type_of_phrase (h : Derives true t.phrase e ws) : Derives true (.type t) e ws := by
  cases hu : t.isUnion with
  | true =>
    unfold Ty.isUnion at hu
    unfold Ty.phrase at h
    cases hshape : t.shape <;> simp_all
  | false => exact .of (.type (derives_intersection_of_phrase hu h))

namespace Ty.Canonical

theorem eq_ofShape (h : t.Canonical) (hlabel : t.label = none) : t = .ofShape t.shape := by
  cases h with
  | intro hraw _ hoptional _ _ =>
    obtain ⟨shape, label, optional, raw⟩ := t
    obtain rfl : label = none := hlabel
    obtain rfl : raw = none := hraw
    obtain rfl : optional = false := hoptional rfl
    rfl

theorem words_eq (h : t.Canonical) : t.words = labelWords t ++ shapeWords (t.shape.map words) := by
  cases h with
  | intro hraw => rw [Ty.words_eq, hraw]

theorem wellSpelled (h : t.Canonical) : t.WellSpelled := by
  induction h with
  | @intro t hraw hlabel _ hshape _ ih =>
    refine .shape hraw (fun name hname => (hlabel name hname).spelled) (fun s hs => ?_) ih
    cases htshape : t.shape <;> rw [htshape] at hshape hs
    case literal name builtin =>
      obtain rfl := List.mem_singleton.1 hs
      exact hshape.1.isName.spelled
    case value text =>
      obtain rfl := List.mem_singleton.1 hs
      obtain ⟨ws, hws, -⟩ := hshape.spells
      exact spelled_of_spellsOpen hws
    case object id fields =>
      obtain ⟨f, hf, rfl⟩ := List.mem_map.1 hs
      exact (hshape f hf).1.spelled
    all_goals cases hs

end Ty.Canonical

/-- Without its label, the type has a derivation, which ends with the result of an arrow only if the
type does. -/
def HasDerivation (t : TypeExpr) : Prop :=
  ∃ e, (t.endsInArrow = false → e = .closed) ∧
    Derives true (Ty.ofShape t.shape).phrase e (shapeWords (t.shape.map Ty.words))

/-- What has no label has a derivation. -/
theorem HasDerivation.of_label (h : HasDerivation t) (hc : t.Canonical) (hlabel : t.label = none) :
    ∃ e, (t.endsInArrow = false → e = .closed) ∧ Derives true t.phrase e t.words := by
  obtain ⟨e, hclosed, hd⟩ := h
  refine ⟨e, hclosed, ?_⟩
  rw [hc.words_eq, labelWords, hlabel, hc.eq_ofShape hlabel]
  exact hd

theorem HasDerivation.type (h : HasDerivation t) (hc : t.Canonical) (hlabel : t.label = none) :
    ∃ e, Derives true (.type t) e t.words := by
  obtain ⟨e, -, hd⟩ := h.of_label hc hlabel
  exact ⟨e, derives_type_of_phrase hd⟩

theorem maybe_questionWords (b : Bool) : Maybe .question b (questionWords b) := by
  cases b
  · exact .absent
  · exact .present

theorem HasDerivation.argument (h : HasDerivation t) (hc : t.Canonical) :
    ∃ e, Derives true (.argument t) e t.words := by
  cases hlabel : t.label with
  | none =>
    obtain ⟨e, hd⟩ := h.type hc hlabel
    exact ⟨.closed, .of (.argument hd)⟩
  | some name =>
    obtain ⟨e, -, hd⟩ := h
    have hwords := hc.words_eq
    cases hc with
    | intro hraw hname _ _ _ =>
      have ht : t = (Ty.ofShape t.shape).withLabel name t.optional := by
        obtain ⟨shape, label, optional, raw⟩ := t
        obtain rfl : label = some name := hlabel
        obtain rfl : raw = none := hraw
        rfl
      have hd' : Derives true (.argument ((Ty.ofShape t.shape).withLabel name t.optional)) .closed
          (textWords name ++ (questionWords t.optional ++
            (.colon, ":") :: shapeWords (t.shape.map Ty.words))) :=
        .of (.labelled (hname name hlabel).name (maybe_questionWords _) (derives_type_of_phrase hd))
      rw [← ht] at hd'
      refine ⟨.closed, ?_⟩
      rw [hwords, labelWords, hlabel]
      simpa using hd'

/-- A canonical base of a generic type is a name. -/
theorem Ty.Canonical.eq_literal (h : t.Canonical) (hlabel : t.label = none)
    (hname : t.literalName?.isSome = true) : ∃ name, IsTypeName name ∧ t = .literal name := by
  have ht := h.eq_ofShape hlabel
  cases h with
  | intro _ _ _ hshape _ =>
    cases htshape : t.shape <;> simp only [Ty.literalName?, htshape, Option.isSome] at hname
    case literal name builtin =>
      rw [htshape] at hshape ht
      obtain ⟨hname, rfl⟩ := hshape
      exact ⟨name, hname, ht⟩
    all_goals cases hname

theorem words_literal {name : String} : (Ty.literal name : TypeExpr).words = textWords name := by
  rw [Ty.words_eq]
  rfl

/-- **A canonical type has a derivation** with the longest results, of its words. -/
theorem Ty.Canonical.hasDerivation (h : t.Canonical) : HasDerivation t := by
  induction h with
  | @intro t hraw hlabel hoptional hshape hchildren ih =>
    have htype : ∀ c ∈ t.shape.children, c.label = none → ∃ e, Derives true (.type c) e c.words :=
      fun c hc hl => (ih c hc).type (hchildren c hc) hl
    unfold HasDerivation
    rw [Ty.endsInArrow_eq]
    cases htshape : t.shape <;> rw [htshape] at hshape htype hchildren ih
    case literal name builtin =>
      obtain ⟨hname, rfl⟩ := hshape
      refine ⟨.closed, fun _ => rfl, ?_⟩
      simp only [Shape.map, shapeWords, hname.textWords]
      exact .of (.named hname.2)
    case value text =>
      obtain ⟨ws, hws, hd⟩ := hshape.spells
      refine ⟨.closed, fun _ => rfl, ?_⟩
      simp only [Shape.map, shapeWords, textWords_eq hws]
      exact hd
    case generic base params =>
      obtain ⟨hbase, hne, hlabels⟩ := hshape
      obtain ⟨name, hname, rfl⟩ := (hchildren base List.mem_cons_self).eq_literal
        (hlabels base List.mem_cons_self) hbase
      obtain ⟨e, -, hparams⟩ : ∃ e, _ ∧ Members false .comma (fun t => Derives true (.type t))
          params e (List.intercalate [(.comma, ",")] (params.map Ty.words)) := by
        refine Members.of_map (fun _ => true) "," hne (fun c hc => ?_) (by simp)
        have hmem := List.mem_cons_of_mem (Ty.literal name) hc
        obtain ⟨e, hd⟩ := htype c hmem (hlabels c hmem)
        exact ⟨e, by simp, hd⟩
      refine ⟨.closed, fun _ => rfl, ?_⟩
      simp only [Shape.map, shapeWords, words_literal, hname.textWords]
      exact .of (.generic hname.2 hparams)
    case function args receiver result =>
      obtain ⟨hreceiver, hfirst, hresult⟩ := hshape
      obtain ⟨e, hd⟩ := htype result (by simp [Shape.children]) hresult
      -- the receiver is written as the first argument
      have hargs : Listed [.comma] (fun t => Derives true (.argument t)) (receiver.toList ++ args)
          (commaWords ((receiver.toList ++ args).map Ty.words)) := by
        refine Listed.of_map "," List.mem_cons_self fun c hc => ?_
        exact (ih c (List.mem_append_left _ hc)).argument (hchildren c (List.mem_append_left _ hc))
      refine ⟨.arrow, by simp, ?_⟩
      cases receiver with
      | none => exact .of (.function hargs (hfirst rfl) hd)
      | some r => exact .of (.method hargs (hreceiver r rfl) hd)
    case object id fields =>
      have hfields : Listed [.comma, .semicolon] (fun f => Derives true (.field f)) fields
          (commaWords (fields.map fun f => fieldWords (f.map Ty.words))) := by
        refine Listed.of_map "," List.mem_cons_self fun f hf => ?_
        obtain ⟨e, hd⟩ := htype f.type (List.mem_map_of_mem hf) (hshape f hf).2
        exact ⟨.closed, .of (.field (.name (hshape f hf).1.name) (maybe_questionWords _) hd)⟩
      refine ⟨.closed, fun _ => rfl, ?_⟩
      simp only [Shape.map, shapeWords, List.map_map]
      exact .of (.object hfields)
    case union members =>
      -- only the last member may end with the result of an arrow, which `hlast` gives
      obtain ⟨hlen, hmembers, hlast⟩ := hshape
      obtain ⟨e, hclosed, hd⟩ : ∃ e, _ ∧
          Members true .pipe (fun t => Derives true (.intersection t)) members e
            (List.intercalate [(.pipe, "|")] (members.map Ty.words)) := by
        refine Members.of_map Ty.endsInArrow "|" (by rintro rfl; simp at hlen) (fun m hm => ?_)
          fun _ => hlast
        obtain ⟨e, hclosed, hd⟩ := (ih m hm).of_label (hchildren m hm) (hmembers m hm).1
        exact ⟨e, hclosed, derives_intersection_of_phrase (hmembers m hm).2 hd⟩
      exact ⟨e, hclosed, .of (.union hd hlen)⟩
    case intersection members =>
      obtain ⟨hlen, hmembers, hlast⟩ := hshape
      obtain ⟨e, hclosed, hd⟩ : ∃ e, _ ∧
          Members true .amp (fun t => Derives true (.primary t)) members e
            (List.intercalate [(.amp, "&")] (members.map Ty.words)) := by
        refine Members.of_map Ty.endsInArrow "&" (by rintro rfl; simp at hlen) (fun m hm => ?_)
          fun _ => hlast
        obtain ⟨hl, hu, hi⟩ := hmembers m hm
        obtain ⟨e, hclosed, hd⟩ := (ih m hm).of_label (hchildren m hm) hl
        exact ⟨e, hclosed, derives_primary_of_phrase hu hi hd⟩
      exact ⟨e, hclosed, .of (.intersection hd hlen)⟩
    case tuple items =>
      refine ⟨.closed, fun _ => rfl, .of (.tuple (Listed.of_map "," List.mem_cons_self ?_))⟩
      exact fun c hc => htype c hc (hshape c hc)

end derivations

/-! ### Canonical headers are read back -/

theorem AreNames.exists_names {ts : List TypeExpr} (h : AreNames ts) :
    ∃ names : List String, ts = names.map .literal ∧ ∀ name ∈ names, IsName name := by
  induction ts with
  | nil => exact ⟨[], rfl, nofun⟩
  | cons t ts ih =>
    obtain ⟨⟨name, hname, rfl⟩, hts⟩ := List.forall_mem_cons.1 h
    obtain ⟨names, rfl, hnames⟩ := ih hts
    exact ⟨name :: names, rfl, List.forall_mem_cons.2 ⟨hname, hnames⟩⟩

theorem AreNames.wellSpelled {ts : List TypeExpr} (h : AreNames ts) : ∀ t ∈ ts, t.WellSpelled := by
  intro t ht
  obtain ⟨name, hname, rfl⟩ := h t ht
  refine .shape rfl nofun (fun s hs => ?_) nofun
  obtain rfl := List.mem_singleton.1 hs
  exact hname.spelled

theorem Statement.Canonical.wellSpelled {s : Statement} (h : s.Canonical) : s.WellSpelled := by
  cases s with
  | imports i => exact ⟨h.1, h.2.wellSpelled⟩
  | declares d => exact ⟨h.1.spelled, h.2.1.wellSpelled, h.2.2.1.wellSpelled⟩
  | assigns a => exact ⟨h.1.spelled, h.2.1.wellSpelled⟩

theorem map_words_literal (names : List String) :
    (names.map Ty.literal : List TypeExpr).map Ty.words = names.map textWords := by
  rw [List.map_map]
  exact List.map_congr_left fun _ _ => words_literal

theorem params_textWords {names : List String} (h : ∀ name ∈ names, IsName name) :
    Params names (if names.isEmpty then [] else
      (.less, "<") :: (commaWords (names.map textWords) ++ [(.greater, ">")])) := by
  split
  · obtain rfl := List.isEmpty_iff.1 ‹_›
    exact .absent
  · rename_i hne
    obtain ⟨e, -, hmembers⟩ : ∃ e, _ ∧ Members false .comma Name names e
        (List.intercalate [(.comma, ",")] (names.map textWords)) := by
      refine Members.of_map (fun _ => true) "," (by simpa using hne) (fun name hname => ?_) nofun
      exact ⟨.closed, nofun, (h name hname).name⟩
    exact .present hmembers

theorem Statement.Canonical.derives {s : Statement} (h : s.Canonical) :
    ∃ e, Derives true (.statement s) e s.words := by
  cases s with
  | imports i =>
    obtain ⟨dependency, types⟩ := i
    obtain ⟨names, rfl, hnames⟩ := h.2.exists_names
    have hlisted : Listed [.comma] Name names (commaWords (names.map textWords)) :=
      Listed.of_map "," List.mem_cons_self fun name hname => ⟨.closed, (hnames name hname).name⟩
    refine ⟨.closed, ?_⟩
    simp only [words, map_words_literal]
    exact .of (.imports hlisted)
  | declares d =>
    obtain ⟨name, params, type⟩ := d
    obtain ⟨hname, hparams, htype, hlabel⟩ := h
    obtain ⟨names, rfl, hnames⟩ := hparams.exists_names
    obtain ⟨e, hd⟩ := htype.hasDerivation.type htype hlabel
    refine ⟨.closed, ?_⟩
    simp only [words, map_words_literal, List.isEmpty_map]
    exact .of (.declares hname.name (params_textWords hnames) hd)
  | assigns a =>
    obtain ⟨hname, htype, hlabel⟩ := h
    obtain ⟨e, hd⟩ := htype.hasDerivation.type htype hlabel
    exact ⟨.closed, .of (.assigns hname.name hd)⟩

namespace Header

theorem derives_words {ss : List Statement} (h : ∀ s ∈ ss, s.Canonical) :
    Derives true (.header ss) .closed (ss.map Statement.words).flatten := by
  induction ss with
  | nil => exact .of .nil
  | cons s ss ih =>
    obtain ⟨hs, hss⟩ := List.forall_mem_cons.1 h
    obtain ⟨e, hd⟩ := hs.derives
    exact .of (.cons hd .absent (ih hss))

theorem map_word_beforeEof {ts : List Token} {ws : List Word}
    (h : ts.map Token.word = ws ++ [(.eof, "")]) (hne : ∀ w ∈ ws, w.1 ≠ .eof) :
    (beforeEof ts).map Token.word = ws := by
  have htake : (beforeEof ts).map Token.word = (ts.map Token.word).takeWhile (·.1 ≠ .eof) := by
    rw [List.takeWhile_map]
    rfl
  rw [htake, h, List.takeWhile_append_of_pos (by simpa using hne)]
  simp

theorem lexes_render {h : Header} (hs : ∀ s ∈ h.statements, s.WellSpelled) (p : Place) :
    Lexes (h.render p).toList h.words := by
  have hspells := spellsOpen_layout hs p
  simpa [render] using hspells [] [] breaks_nil (.nil rfl)

theorem Canonical.parse_text {h : Header} (hc : h.Canonical) (p : Place) :
    Header.parse (h.render p) = .ok h := by
  have hlexes := lexes_render (fun s hs => (hc s hs).wellSpelled) p
  have hwords : (beforeEof (tokenize (h.render p))).map Token.word = h.words :=
    map_word_beforeEof hlexes.map_word_tokenize hlexes.kind_ne_eof
  rw [parse, ofTokens_eq_ok_iff, hwords]
  exact derives_words hc

/-- A header with a statement of each kind. -/
def widgets : Header :=
  ⟨[.imports ⟨"shapes", [.literal "Widget"]⟩,
    .declares ⟨"Pair", [.literal "A"], .ofShape (.tuple [.literal "A", .literal "A"])⟩,
    .assigns ⟨"make", .ofShape (.function [(Ty.literal "Number").withLabel "size" true]
      (some ((Ty.literal "Widget").withLabel "this" false))
      (.ofShape (.union [.literal "Pair", .value "\"none\""])))⟩]⟩

theorem canonical_widgets : widgets.Canonical := by
  let names := ["Widget", "A", "Pair", "Number", "size", "this", "make"]
  have hname : ∀ name ∈ names, IsTypeName name := by decide
  have hliteral : ∀ name ∈ names, (Ty.literal name).Canonical :=
    fun name h => Ty.canonical_literal (hname name h)
  have hunion : (Ty.ofShape (.union [.literal "Pair", .value "\"none\""])).Canonical := by
    have hnone : (Ty.value "\"none\"").Canonical :=
      Ty.canonical_ofShape (.quoted (s := "none") (by decide)) nofun
    refine Ty.canonical_ofShape ?_ (by simp [Shape.children, hliteral, names, hnone])
    simp [Shape.Canonical, Ty.literal, Ty.value, Ty.ofShape, Ty.isUnion, Ty.endsInArrow_eq]
  have htuple : (Ty.ofShape (.tuple [.literal "A", .literal "A"])).Canonical :=
    Ty.canonical_ofShape (by simp [Shape.Canonical, Ty.literal, Ty.ofShape])
      (by simp [Shape.children, hliteral, names])
  have hmake : (Ty.ofShape (.function [(Ty.literal "Number").withLabel "size" true]
      (some ((Ty.literal "Widget").withLabel "this" false))
      (.ofShape (.union [.literal "Pair", .value "\"none\""])))).Canonical := by
    have hsize := (hliteral "Number" (by simp [names])).withLabel
      (hname "size" (by simp [names])).isName true
    have hthis := (hliteral "Widget" (by simp [names])).withLabel
      (hname "this" (by simp [names])).isName false
    refine Ty.canonical_ofShape ?_ (by simp [Shape.children, hunion, hsize, hthis])
    simp [Shape.Canonical, Ty.withLabel, Ty.ofShape]
  have hnames : ∀ name ∈ names, AreNames [.literal name] := by
    intro name h t ht
    exact ⟨name, (hname name h).isName, List.mem_singleton.1 ht⟩
  refine List.forall_mem_cons.2 ⟨⟨by decide, hnames _ (by simp [names])⟩, ?_⟩
  refine List.forall_mem_cons.2 ⟨?_, ?_⟩
  · exact ⟨(hname _ (by simp [names])).isName, hnames _ (by simp [names]), htuple, rfl⟩
  · exact List.forall_mem_singleton.2 ⟨(hname _ (by simp [names])).isName, hmake, rfl⟩

end Header

end SigCheck
