import Mathlib.Data.List.Chain
import SigCheck.Proofs.Regularity

/-!
# Writing what was read

Writing puts back neither the escapes in strings, nor the quotes around keys, nor the parentheses
around members.  A header that needs no escapes and quotes is plain, and the text of a plain header
that was read is always read again: what its parentheses kept apart is taken together.  The words of
that text have no parentheses and quotes in them (`Grammar.Tidy`), so what they are read as is
canonical, and writing it gives a text that stays as it is.  So writing and reading settle after one
turn, and a header that needs no parentheses has settled from the start
(`Header.parse_render_of_parse`).

For headers that are not plain this fails already for one string with a quote in it
(`Header.not_forall_parse_render`).
-/

namespace SigCheck

open Grammar Scan Layout

/-! ### Plain types are read one text at a time -/

theorem Ty.Regular.wellSpelled {t : TypeExpr} (h : t.Regular) (hplain : t.Plain) :
    t.WellSpelled := by
  induction h with
  | @intro t hnode _ ih =>
    refine .shape hnode.raw (fun name hname => (hnode.label name hname).spelled) (fun s hs => ?_)
      fun c hc => ih c hc (hplain.children c hc)
    have hshape := hnode.shape
    have hself := hplain.self
    cases htshape : t.shape <;> rw [htshape] at hshape hself hs
    case literal name builtin =>
      obtain rfl := List.mem_singleton.1 hs
      exact hshape.1.isName.spelled
    case value text =>
      obtain rfl := List.mem_singleton.1 hs
      have hvalue : IsValue s := Shape.canonical_iff.2 ⟨hshape, hself, trivial⟩
      obtain ⟨ws, hws, -⟩ := hvalue.spells
      exact spelled_of_spellsOpen hws
    case object id fields =>
      obtain ⟨f, hf, rfl⟩ := List.mem_map.1 hs
      exact (hself f hf).spelled
    all_goals cases hs

theorem Statement.Regular.wellSpelled {s : Statement} (h : s.Regular) (hplain : s.Plain) :
    s.WellSpelled := by
  cases s with
  | imports i => exact ⟨hplain, AreNames.wellSpelled h⟩
  | declares d => exact ⟨h.1.spelled, h.2.1.wellSpelled, h.2.2.1.wellSpelled hplain⟩
  | assigns a => exact ⟨h.1.spelled, h.2.1.wellSpelled hplain⟩

theorem Ty.RegularNode.words_eq {t : TypeExpr} (h : t.RegularNode) :
    t.words = labelWords t ++ shapeWords (t.shape.map Ty.words) := by
  rw [Ty.words_eq, h.raw]

/-! ### Plain types have a derivation without their parentheses -/

namespace Grammar

/-- The words have a derivation as a type. -/
def IsType (ws : List Word) : Prop := ∃ t e, Derives true (.type t) e ws

/-- The words have a derivation as an argument. -/
def IsArgument (ws : List Word) : Prop := ∃ t e, Derives true (.argument t) e ws

section types

variable {e : Ending} {ws us : List Word} {t : TypeExpr}

theorem isType_of_primary (h : Derives true (.primary t) e ws) : IsType ws :=
  ⟨t, e, .of (.type (.of (.member h)))⟩

theorem Derives.unions (h : Derives true (.type t) e ws) :
    ∃ ts, Members true .pipe (fun t => Derives true (.intersection t)) ts e ws := by
  cases h with
  | rule hsub h =>
    cases h with
    | type h => exact ⟨_, .last (hsub _ _ _ h)⟩
    | union h _ => exact ⟨_, h.imp id fun _ => hsub _⟩

theorem Derives.intersections (h : Derives true (.intersection t) e ws) :
    ∃ ts, Members true .amp (fun t => Derives true (.primary t)) ts e ws := by
  cases h with
  | rule hsub h =>
    cases h with
    | member h => exact ⟨_, .last (hsub _ _ _ h)⟩
    | intersection h _ => exact ⟨_, h.imp id fun _ => hsub _⟩

theorem IsType.pipe (h : IsType ws) (h' : IsType us) (v : String) :
    IsType (ws ++ (.pipe, v) :: us) := by
  obtain ⟨t, e, h⟩ := h
  obtain ⟨t', e', h'⟩ := h'
  obtain ⟨ts, hts⟩ := h'.unions
  exact h.absorbs _ (.pipe hts)

theorem IsType.amp (h : IsType ws) (h' : IsType us) (v : String) :
    IsType (ws ++ (.amp, v) :: us) := by
  obtain ⟨t, e, h⟩ := h
  obtain ⟨t', e', h'⟩ := h'
  obtain ⟨ts, hts⟩ := h'.unions
  -- the `&` takes the first member of the union behind it, and the others follow
  cases hts with
  | last hfirst =>
    obtain ⟨ts', hts'⟩ := hfirst.intersections
    exact h.absorbs _ (.amp hts')
  | @more _ _ firsts v' _ _ others hfirst _ hrest =>
    obtain ⟨ts', hts'⟩ := hfirst.intersections
    obtain ⟨t'', e'', hjoined⟩ := h.absorbs ((.amp, v) :: firsts) (.amp hts')
    have htail : IsType (ws ++ (.amp, v) :: firsts ++ (.pipe, v') :: others) :=
      hjoined.absorbs _ (.pipe hrest)
    simpa using htail

theorem isType_intercalate {separator : Word} {parts : List (List Word)} (hne : parts ≠ [])
    (hglue : ∀ ws us, IsType ws → IsType us → IsType (ws ++ separator :: us))
    (h : ∀ ws ∈ parts, IsType ws) : IsType ([separator].intercalate parts) := by
  induction parts with
  | nil => exact absurd rfl hne
  | cons ws parts ih =>
    obtain ⟨hws, hparts⟩ := List.forall_mem_cons.1 h
    cases parts with
    | nil => simpa using hws
    | cons us parts =>
      rw [List.intercalate_cons_cons]
      simpa using hglue _ _ hws (ih (List.cons_ne_nil _ _) hparts)

/-- Items that are each read as something are read as a list of such things. -/
theorem Listed.of_forall {α : Type} {separators : List TokenKind} {kind : TokenKind} {as : List α}
    {words : α → List Word} {item : Forms α} (v : String) (hk : kind ∈ separators)
    (h : ∀ a ∈ as, ∃ b e, item b e (words a)) :
    ∃ bs, Listed separators item bs ([(kind, v)].intercalate (as.map words)) := by
  have hlisted : Listed separators (fun a (_ : Ending) ws => a ∈ as ∧ ws = words a) as
      ([(kind, v)].intercalate (as.map words)) :=
    Listed.of_map v hk fun a ha => ⟨.closed, ha, rfl⟩
  refine hlisted.exists fun a e ws ha => ?_
  obtain ⟨ha, rfl⟩ := ha
  exact h a ha

theorem Members.of_forall {α : Type} {separator : TokenKind} {as : List α} {words : α → List Word}
    {item : Forms α} (v : String) (hne : as ≠ []) (h : ∀ a ∈ as, ∃ b e, item b e (words a)) :
    ∃ bs e, Members false separator item bs e ([(separator, v)].intercalate (as.map words)) := by
  obtain ⟨e, -, hmembers⟩ : ∃ e, _ ∧ Members false separator
      (fun a (_ : Ending) ws => a ∈ as ∧ ws = words a) as e
      ([(separator, v)].intercalate (as.map words)) :=
    Members.of_map (fun _ => true) v hne (fun a ha => ⟨.closed, by simp, ha, rfl⟩) (by simp)
  refine hmembers.exists (fun a e ws ha => ?_) (by simp)
  obtain ⟨ha, rfl⟩ := ha
  exact h a ha

theorem IsType.named {name : String} (hname : IsName name) (h : IsType ws) (optional : Bool) :
    IsArgument (textWords name ++ (questionWords optional ++ (.colon, ":") :: ws)) := by
  obtain ⟨t, e, h⟩ := h
  exact ⟨_, _, .of (.labelled hname.name (maybe_questionWords optional) h)⟩

end types

end Grammar

theorem Ty.RegularNode.isType {t : TypeExpr} (h : t.RegularNode) (hlabel : t.label = none)
    (hshape : IsType (shapeWords (t.shape.map Ty.words))) : IsType t.words := by
  rw [h.words_eq, labelWords, hlabel]
  exact hshape

theorem Ty.RegularNode.isArgument {t : TypeExpr} (h : t.RegularNode)
    (hshape : IsType (shapeWords (t.shape.map Ty.words))) : IsArgument t.words := by
  cases hlabel : t.label with
  | none =>
    obtain ⟨t', e, hd⟩ := h.isType hlabel hshape
    exact ⟨t', .closed, .of (.argument hd)⟩
  | some name =>
    rw [h.words_eq, labelWords, hlabel]
    simpa using hshape.named (h.label name hlabel) t.optional

theorem Ty.RegularNode.words_of_literalName? {t : TypeExpr} (h : t.RegularNode)
    (hlabel : t.label = none) (hname : t.literalName?.isSome = true) :
    ∃ name, IsTypeName name ∧ t.words = [(.name, name)] := by
  have hshape := h.shape
  have hwords := h.words_eq
  cases htshape : t.shape <;> simp only [Ty.literalName?, htshape, Option.isSome] at hname
  case literal name builtin =>
    rw [htshape] at hshape hwords
    refine ⟨name, hshape.1, ?_⟩
    rw [hwords, labelWords, hlabel]
    exact hshape.1.textWords
  all_goals cases hname

/-- **What a plain type is written with is read as a type.** -/
theorem Ty.Regular.isType_shape {t : TypeExpr} (h : t.Regular) (hplain : t.Plain) :
    IsType (shapeWords (t.shape.map Ty.words)) := by
  induction h with
  | @intro t hnode hchildren ih =>
    have hregular : ∀ c ∈ t.shape.children, c.RegularNode := fun c hc => (hchildren c hc).self
    have htype : ∀ c ∈ t.shape.children, c.label = none → IsType c.words :=
      fun c hc hl => (hregular c hc).isType hl (ih c hc (hplain.children c hc))
    have hargument : ∀ c ∈ t.shape.children, IsArgument c.words :=
      fun c hc => (hregular c hc).isArgument (ih c hc (hplain.children c hc))
    have hshape := hnode.shape
    have hself := hplain.self
    cases htshape : t.shape <;> rw [htshape] at hshape hself hregular htype hargument
    case literal name builtin =>
      simp only [Shape.map, shapeWords, hshape.1.textWords]
      exact isType_of_primary (.of (.named hshape.1.2))
    case value text =>
      have hvalue : IsValue text := Shape.canonical_iff.2 ⟨hshape, hself, trivial⟩
      obtain ⟨ws, hws, hd⟩ := hvalue.spells
      simp only [Shape.map, shapeWords, textWords_eq hws]
      exact isType_of_primary hd
    case generic base params =>
      obtain ⟨hbase, hne, hlabels⟩ := hshape
      obtain ⟨name, hname, hwords⟩ := (hregular base List.mem_cons_self).words_of_literalName?
        (hlabels base List.mem_cons_self) hbase
      obtain ⟨ts, e, hts⟩ : ∃ ts e, Members false .comma (fun t => Derives true (.type t)) ts e
          (commaWords (params.map Ty.words)) := by
        refine Members.of_forall "," hne fun c hc => ?_
        exact htype c (List.mem_cons_of_mem _ hc) (hlabels c (List.mem_cons_of_mem _ hc))
      simp only [Shape.map, shapeWords, hwords]
      exact isType_of_primary (.of (.generic hname.2 hts))
    case function args receiver result =>
      obtain ⟨t', e, hd⟩ := htype result (by simp [Shape.children]) hshape.2.2
      -- the receiver is written as the first argument
      obtain ⟨ts, hts⟩ : ∃ ts, Listed [.comma] (fun t => Derives true (.argument t)) ts
          (commaWords ((receiver.toList ++ args).map Ty.words)) := by
        refine Listed.of_forall "," List.mem_cons_self fun c hc => ?_
        exact hargument c (List.mem_append_left _ hc)
      have hfunction : IsType ((.lparen, "(") ::
          (commaWords ((receiver.toList ++ args).map Ty.words) ++
            (.rparen, ")") :: (.arrow, "=>") :: result.words)) :=
        isType_of_primary (hts.derives_function hd)
      cases receiver <;> exact hfunction
    case object id fields =>
      obtain ⟨fs, hfs⟩ : ∃ fs, Listed [.comma, .semicolon] (fun f => Derives true (.field f)) fs
          (commaWords (fields.map fun f => fieldWords (f.map Ty.words))) := by
        refine Listed.of_forall "," List.mem_cons_self fun f hf => ?_
        obtain ⟨t', e, hd⟩ := htype f.type (List.mem_map_of_mem hf) (hshape f hf)
        exact ⟨_, .closed, .of (.field (.name (hself f hf).name) (maybe_questionWords _) hd)⟩
      simp only [Shape.map, shapeWords, List.map_map]
      exact isType_of_primary (.of (.object hfs))
    case union members =>
      have hpos : 0 < members.length := Nat.lt_of_lt_of_le Nat.zero_lt_two hshape.1
      refine isType_intercalate (by simpa using List.ne_nil_of_length_pos hpos)
        (fun ws us h h' => h.pipe h' "|") fun ws hws => ?_
      obtain ⟨m, hm, rfl⟩ := List.mem_map.1 hws
      exact htype m hm (hshape.2 m hm)
    case intersection members =>
      have hpos : 0 < members.length := Nat.lt_of_lt_of_le Nat.zero_lt_two hshape.1
      refine isType_intercalate (by simpa using List.ne_nil_of_length_pos hpos)
        (fun ws us h h' => h.amp h' "&") fun ws hws => ?_
      obtain ⟨m, hm, rfl⟩ := List.mem_map.1 hws
      exact htype m hm (hshape.2 m hm)
    case tuple items =>
      obtain ⟨ts, hts⟩ : ∃ ts, Listed [.comma] (fun t => Derives true (.type t)) ts
          (commaWords (items.map Ty.words)) :=
        Listed.of_forall "," List.mem_cons_self fun c hc => htype c hc (hshape c hc)
      exact isType_of_primary (.of (.tuple hts))

theorem Ty.Regular.isType {t : TypeExpr} (h : t.Regular) (hplain : t.Plain)
    (hlabel : t.label = none) : IsType t.words :=
  h.self.isType hlabel (h.isType_shape hplain)

theorem Statement.Regular.derives {s : Statement} (h : s.Regular) (hplain : s.Plain) :
    ∃ s' e, Derives true (.statement s') e s.words := by
  cases s with
  | imports i =>
    obtain ⟨e, hd⟩ := Statement.Canonical.derives (s := .imports i) ⟨hplain, h⟩
    exact ⟨_, e, hd⟩
  | declares d =>
    obtain ⟨hname, hparams, htype, hlabel⟩ := h
    obtain ⟨names, hd, hnames⟩ := hparams.exists_names
    obtain ⟨t, e, ht⟩ := htype.isType hplain hlabel
    refine ⟨.declares ⟨d.name, names.map .literal, t⟩, .closed, ?_⟩
    simp only [words, hd, map_words_literal, List.isEmpty_map]
    exact .of (.declares hname.name (params_textWords hnames) ht)
  | assigns a =>
    obtain ⟨t, e, ht⟩ := h.2.1.isType hplain h.2.2
    exact ⟨_, .closed, .of (.assigns h.1.name ht)⟩

theorem Header.exists_derives_words {ss : List Statement} (h : ∀ s ∈ ss, s.Regular ∧ s.Plain) :
    ∃ ss', Derives true (.header ss') .closed (ss.map Statement.words).flatten := by
  induction ss with
  | nil => exact ⟨[], .of .nil⟩
  | cons s ss ih =>
    obtain ⟨hs, hss⟩ := List.forall_mem_cons.1 h
    obtain ⟨s', e, hd⟩ := hs.1.derives hs.2
    obtain ⟨ss', hrest⟩ := ih hss
    exact ⟨s' :: ss', .of (.cons hd .absent hrest)⟩

/-! ### Words without parentheses and quotes -/

namespace Grammar

/-- Where nothing is in parentheses and no key in quotes, a `)` has an arrow behind it, and a string
is not followed like a key. -/
def Precedes (w u : Word) : Prop :=
  (w.1 = .rparen → u.1 = .arrow) ∧ (w.1 = .string → u.1 ≠ .colon ∧ u.1 ≠ .question)

/-- Words of which none put anything in parentheses, and none a key in quotes, and of which the
strings need no escapes. -/
structure Tidy (ws : List Word) : Prop where
  chain : ws.IsChain Precedes
  last : ∀ w ∈ ws.getLast?, w.1 ≠ .rparen
  plain : ∀ w ∈ ws, w.1 = .string → IsPlainText w.2.toList

namespace Tidy

variable {ws us : List Word} {w : Word}

theorem nil : Tidy [] := ⟨.nil, by simp, by simp⟩

theorem append (h : Tidy ws) (h' : Tidy us)
    (hbetween : ∀ w ∈ ws.getLast?, ∀ u ∈ us.head?, Precedes w u) : Tidy (ws ++ us) := by
  refine ⟨List.isChain_append.2 ⟨h.chain, h'.chain, hbetween⟩, fun w hw => ?_, fun w hw => ?_⟩
  · rw [List.getLast?_append] at hw
    cases hlast : us.getLast? with
    | none => exact h.last w (by simpa [hlast] using hw)
    | some u => exact h'.last w (by simpa [hlast] using hw)
  · exact (List.mem_append.1 hw).elim (h.plain w) (h'.plain w)

theorem singleton (hw : w.1 ≠ .rparen) (hplain : w.1 = .string → IsPlainText w.2.toList) :
    Tidy [w] :=
  ⟨.singleton w, by simpa using hw, by simpa using hplain⟩

theorem cons (hw : w.1 ≠ .rparen ∧ w.1 ≠ .string) (h : Tidy us) : Tidy (w :: us) := by
  refine (singleton hw.1 fun hs => absurd hs hw.2).append h fun v hv u _ => ?_
  obtain rfl : w = v := by simpa using hv
  exact ⟨fun hr => absurd hr hw.1, fun hs => absurd hs hw.2⟩

theorem append_of_head (h : Tidy ws) (h' : Tidy us)
    (hhead : ∀ u ∈ us.head?, u.1 ≠ .colon ∧ u.1 ≠ .question) : Tidy (ws ++ us) :=
  h.append h' fun w hw u hu => ⟨fun hr => absurd hr (h.last w hw), fun _ => hhead u hu⟩

/-- A separator between tidy words. -/
theorem separated (h : Tidy ws) (hw : w.1 ≠ .rparen ∧ w.1 ≠ .string)
    (hw' : w.1 ≠ .colon ∧ w.1 ≠ .question) (h' : Tidy us) : Tidy (ws ++ w :: us) :=
  h.append_of_head (cons hw h') (by simpa using hw')

theorem arrow (h : Tidy ws) (h' : Tidy us) (r a : String) :
    Tidy (ws ++ (.rparen, r) :: (.arrow, a) :: us) := by
  have harrow : Tidy ((.arrow, a) :: us) := cons (by simp) h'
  have hright : Tidy ((.rparen, r) :: (.arrow, a) :: us) := by
    refine ⟨.cons_cons ⟨fun _ => rfl, by simp⟩ harrow.chain, ?_, ?_⟩
    · simpa using harrow.last
    · simpa using harrow.plain
  exact h.append_of_head hright (by simp)

theorem right (h : Tidy (ws ++ us)) : Tidy us := by
  obtain ⟨-, hchain, -⟩ := List.isChain_append.1 h.chain
  refine ⟨hchain, fun w hw => h.last w ?_, fun w hw => h.plain w (by simp [hw])⟩
  rw [List.getLast?_append]
  simp [Option.mem_def.1 hw]

theorem tail (h : Tidy (w :: us)) : Tidy us := by
  rw [← List.singleton_append] at h
  exact h.right

theorem left (h : Tidy (ws ++ w :: us)) (hw : w.1 ≠ .arrow) : Tidy ws := by
  obtain ⟨hchain, -, hbetween⟩ := List.isChain_append.1 h.chain
  refine ⟨hchain, fun v hv hr => hw ?_, fun v hv => h.plain v (by simp [hv])⟩
  exact (hbetween v hv w (by simp)).1 hr

theorem intercalate {parts : List (List Word)} (hw : w.1 ≠ .rparen ∧ w.1 ≠ .string)
    (hw' : w.1 ≠ .colon ∧ w.1 ≠ .question) (h : ∀ ws ∈ parts, Tidy ws) :
    Tidy ([w].intercalate parts) := by
  induction parts with
  | nil => exact nil
  | cons ws parts ih =>
    obtain ⟨hws, hparts⟩ := List.forall_mem_cons.1 h
    cases parts with
    | nil => simpa using hws
    | cons us parts =>
      rw [List.intercalate_cons_cons]
      simpa using hws.separated hw hw' (ih hparts)

theorem commaWords {parts : List (List Word)} (h : ∀ ws ∈ parts, Tidy ws) :
    Tidy (commaWords parts) :=
  intercalate (by decide) (by decide) h

end Tidy

theorem Tidy.cons_name {name : String} {us : List Word} (hname : IsName name) (h : Tidy us) :
    Tidy (textWords name ++ us) := by
  obtain ⟨kind, hk, heq⟩ := hname.name.eq
  rw [heq]
  refine .cons ?_ h
  constructor <;> rintro rfl <;> cases hk

theorem tidy_textWords_of_isName {name : String} (h : IsName name) : Tidy (textWords name) := by
  simpa using Tidy.nil.cons_name h

theorem tidy_textWords_of_isValue {text : String} (h : IsValue text) : Tidy (textWords text) := by
  cases h with
  | boolean h =>
    have hname : IsName text := ⟨.name, rfl, by obtain rfl | rfl := h <;> decide⟩
    exact tidy_textWords_of_isName hname
  | numeral h =>
    have hspells := spellsOpen_of_isNumeralText h
    rw [String.ofList_toList] at hspells
    rw [textWords_eq hspells]
    exact .singleton (by simp) (by simp)
  | @quoted s h =>
    have hspells := (spells_of_isPlainText h).spellsOpen
    rw [String.ofList_toList] at hspells
    have hwords : textWords ("\"" ++ s ++ "\"") = [(.string, s)] :=
      textWords_eq (by simpa using hspells)
    rw [hwords]
    exact .singleton (by simp) fun _ => h

/-- A type with a name in front of it. -/
theorem Tidy.named {name : String} {us : List Word} (hname : IsName name) (h : Tidy us)
    (optional : Bool) :
    Tidy (textWords name ++ (questionWords optional ++ (.colon, ":") :: us)) := by
  have hcolon : Tidy ((.colon, ":") :: us) := .cons (by simp) h
  cases optional
  · exact hcolon.cons_name hname
  · exact Tidy.cons_name hname (.cons (by simp) hcolon)

end Grammar

theorem Ty.Regular.tidy {t : TypeExpr} (h : t.Regular) (hplain : t.Plain) : Tidy t.words := by
  induction h with
  | @intro t hnode hchildren ih =>
    have hwords : ∀ c ∈ t.shape.children, Tidy c.words :=
      fun c hc => ih c hc (hplain.children c hc)
    have hmap : ∀ cs ⊆ t.shape.children, ∀ ws ∈ cs.map Ty.words, Tidy ws := by
      intro cs hcs ws hws
      obtain ⟨c, hc, rfl⟩ := List.mem_map.1 hws
      exact hwords c (hcs hc)
    have hshape : Tidy (shapeWords (t.shape.map Ty.words)) := by
      have hregular := hnode.shape
      have hself := hplain.self
      cases htshape : t.shape <;> rw [htshape] at hregular hself hwords hmap
      case literal name builtin => exact tidy_textWords_of_isName hregular.1.isName
      case value text =>
        exact tidy_textWords_of_isValue (Shape.canonical_iff.2 ⟨hregular, hself, trivial⟩)
      case generic base params =>
        have hparams := Tidy.commaWords (hmap params (List.subset_cons_self _ _))
        refine (hwords base List.mem_cons_self).separated (by simp) (by simp) ?_
        exact hparams.separated (by simp) (by simp) .nil
      case function args receiver result =>
        have hargs := Tidy.commaWords (hmap (receiver.toList ++ args) (List.subset_append_left _ _))
        have hfunction := hargs.arrow (hwords result (by simp [Shape.children])) ")" "=>"
        cases receiver <;> exact .cons (by simp) hfunction
      case object id fields =>
        refine .cons (by simp) (Tidy.separated (.commaWords ?_) (by simp) (by simp) .nil)
        intro ws hws
        obtain ⟨f, hf, rfl⟩ : ∃ f ∈ fields, fieldWords (f.map Ty.words) = ws := by simpa using hws
        exact (hwords f.type (List.mem_map_of_mem hf)).named (hself f hf) f.optional
      case union members => exact .intercalate (by simp) (by simp) (hmap members fun _ h => h)
      case intersection members =>
        exact .intercalate (by simp) (by simp) (hmap members fun _ h => h)
      case tuple items =>
        refine .cons (by simp) (Tidy.separated (.commaWords ?_) (by simp) (by simp) .nil)
        exact hmap items fun _ h => h
    rw [hnode.words_eq, labelWords]
    cases hlabel : t.label with
    | none => exact hshape
    | some name => simpa using hshape.named (hnode.label name hlabel) t.optional

theorem Statement.Regular.tidy {s : Statement} (h : s.Regular) (hplain : s.Plain) :
    Tidy s.words := by
  have hnames : ∀ ts, AreNames ts → Tidy (commaWords (ts.map Ty.words)) := by
    intro ts hts
    refine .commaWords fun ws hws => ?_
    obtain ⟨t, ht, rfl⟩ := List.mem_map.1 hws
    obtain ⟨name, hname, rfl⟩ := hts t ht
    rw [words_literal]
    exact tidy_textWords_of_isName hname
  cases s with
  | imports i =>
    have hdependency : Tidy [(.string, i.dependency)] := .singleton (by simp) fun _ => hplain
    have hfrom : Tidy [(.fromKeyword, "from"), (.string, i.dependency)] :=
      .cons (by simp) hdependency
    exact .cons (by simp) (.cons (by simp) ((hnames _ h).separated (by simp) (by simp) hfrom))
  | declares d =>
    obtain ⟨hname, hparams, htype, -⟩ := h
    have htail : Tidy ((.colon, ":") :: d.type.words) := .cons (by simp) (htype.tidy hplain)
    refine .cons (by simp) (Tidy.cons_name hname ?_)
    split
    · exact htail
    · simpa using Tidy.cons (by simp) ((hnames _ hparams).separated (by simp) (by simp) htail)
  | assigns a => exact (h.2.1.tidy hplain).named h.1 false

theorem Header.tidy_words {ss : List Statement} (h : ∀ s ∈ ss, s.Regular ∧ s.Plain) :
    Tidy (ss.map Statement.words).flatten := by
  induction ss with
  | nil => exact .nil
  | cons s ss ih =>
    obtain ⟨⟨hs, hplain⟩, hss⟩ := List.forall_mem_cons.1 h
    refine (hs.tidy hplain).append_of_head (ih hss) fun u hu => ?_
    -- the words behind the statement start as those of a header do
    obtain ⟨ss', hd⟩ := exists_derives_words hss
    obtain heq | ⟨w, us, heq, hw⟩ := hd.header_started
    · simp [heq] at hu
    · obtain rfl : w = u := by simpa [heq] using hu
      constructor <;> intro hk <;> simp [hk, starts] at hw

/-! ### Tidy words have canonical trees -/

namespace Grammar

section items

variable {α : Type} {longest : Bool} {separator : TokenKind} {separators : List TokenKind}
  {item : Forms α} {as : List α} {e : Ending} {ws : List Word} {Q : α → Ending → Prop}

theorem Members.forall_tidy (h : Members longest separator item as e ws) (hs : separator ≠ .arrow)
    (hws : Tidy ws) (hi : ∀ a e us, item a e us → us ⊆ ws → Tidy us → Q a e) :
    (∀ a ∈ as, ∃ e, Q a e) ∧ (longest = true → ∀ a ∈ as.dropLast, Q a .closed) ∧
      ∀ a ∈ as.getLast?, Q a e := by
  induction h with
  | last h =>
    have hlast := hi _ _ _ h (List.Subset.refl _) hws
    exact ⟨by simpa using ⟨_, hlast⟩, by simp, by simpa using hlast⟩
  | more h hl rest ih =>
    have hfirst := hi _ _ _ h (by simp) (hws.left hs)
    obtain ⟨hall, hclosed, hlast⟩ := ih hws.right.tail fun a e us h hsub =>
      hi a e us h fun w hw => by simp [hsub hw]
    obtain ⟨b, bs, rfl⟩ := List.exists_cons_of_ne_nil rest.ne_nil
    refine ⟨List.forall_mem_cons.2 ⟨⟨_, hfirst⟩, hall⟩, fun hlong => ?_, by simpa using hlast⟩
    rw [List.dropLast_cons_cons]
    exact List.forall_mem_cons.2 ⟨hl hlong ▸ hfirst, hclosed hlong⟩

theorem Listed.forall_tidy (h : Listed separators item as ws) (hs : .arrow ∉ separators)
    (hws : Tidy ws) (hi : ∀ a e us, item a e us → us ⊆ ws → Tidy us → Q a e) :
    ∀ a ∈ as, ∃ e, Q a e := by
  induction h with
  | nil => simp
  | last h => simpa using ⟨_, hi _ _ _ h (List.Subset.refl _) hws⟩
  | more h hk _ ih =>
    have hfirst := hi _ _ _ h (by simp) (hws.left fun heq => hs (heq ▸ hk))
    refine List.forall_mem_cons.2 ⟨⟨_, hfirst⟩, ih hws.right.tail fun a e us h hsub => ?_⟩
    exact hi a e us h fun w hw => by simp [hsub hw]

end items

end Grammar

/-- The type is plain and unparenthesised, and does not end with the result of an arrow if its
ending is closed. -/
structure Ty.Flat (t : TypeExpr) (e : Ending) : Prop where
  free : t.Plain ∧ t.Unparenthesised
  closed : e = .closed → t.endsInArrow = false

/-- The trees of the phrase are plain and unparenthesised. -/
def Grammar.Phrase.Flat : Phrase → Ending → Prop
  | .type t, e => t.Flat e
  | .intersection t, e => t.Flat e ∧ t.isUnion = false
  | .primary t, e => t.Flat e ∧ t.isUnion = false ∧ t.isIntersection = false
  | .field f, _ => IsName f.key ∧ f.type.Plain ∧ f.type.Unparenthesised
  | .argument t, _ => t.Plain ∧ t.Unparenthesised
  | .statement s, _ => s.Plain ∧ s.Unparenthesised
  | .header ss, _ => ∀ s ∈ ss, s.Plain ∧ s.Unparenthesised

theorem Ty.flat_of_shape {shape : Shape Unit TypeExpr} {e : Ending} (hplain : shape.Plain)
    (hfree : shape.Unparenthesised)
    (hchildren : ∀ c ∈ shape.children, c.Plain ∧ c.Unparenthesised)
    (hclosed : e = .closed → (Ty.ofShape shape).endsInArrow = false) : (Ty.ofShape shape).Flat e :=
  ⟨⟨.intro hplain fun c hc => (hchildren c hc).1, .intro hfree fun c hc => (hchildren c hc).2⟩,
    hclosed⟩

theorem Ty.flat_literal (name : String) : (Ty.literal name : TypeExpr).Flat .closed := by
  have hplain : (Shape.literal name (Ty.isBuiltinName name) : Shape Unit TypeExpr).Plain := trivial
  exact flat_of_shape hplain trivial (by simp [Shape.children]) fun _ => rfl

theorem Ty.flat_value {text : String} (h : IsValue text) :
    (Ty.value text : TypeExpr).Flat .closed := by
  have hvalue : (Shape.value text : Shape Unit TypeExpr).Canonical := h
  obtain ⟨-, hplain, hfree⟩ := Shape.canonical_iff.1 hvalue
  exact flat_of_shape hplain hfree (by simp [Shape.children]) fun _ => rfl

theorem Ty.endsInArrow_last {members : List TypeExpr}
    (h : ∀ m ∈ members.getLast?, m.endsInArrow = false) :
    (members.getLast?.map Ty.endsInArrow).getD false = false := by
  cases hlast : members.getLast? with
  | none => rfl
  | some m => exact h m hlast

theorem Ty.free_of_flat {ts : List TypeExpr} (h : ∀ t ∈ ts, ∃ e, t.Flat e) :
    ∀ t ∈ ts, t.Plain ∧ t.Unparenthesised := by
  intro t ht
  obtain ⟨_, hflat⟩ := h t ht
  exact hflat.free

namespace Grammar

/-- Unions and intersections: only the last member may end with the result of an arrow, and no
member is of a kind that would need parentheses. -/
theorem Members.flat {separator : TokenKind} {item : Forms TypeExpr} {ts : List TypeExpr}
    {e : Ending} {ws : List Word} {tight : TypeExpr → Prop} {shape : Shape Unit TypeExpr}
    (h : Members true separator item ts e ws) (hs : separator ≠ .arrow) (hws : Tidy ws)
    (hi : ∀ t e us, item t e us → us ⊆ ws → Tidy us → t.Flat e ∧ tight t)
    (hplain : shape.Plain) (hchildren : shape.children = ts)
    (hends : (Ty.ofShape shape).endsInArrow = (ts.getLast?.map Ty.endsInArrow).getD false)
    (hfree : (∀ t ∈ ts, tight t) → (∀ t ∈ ts.dropLast, t.endsInArrow = false) →
      shape.Unparenthesised) : (Ty.ofShape shape).Flat e := by
  obtain ⟨hall, hclosed, hlast⟩ := h.forall_tidy hs hws hi
  have hflat : ∀ t ∈ ts, ∃ e, t.Flat e := fun t ht => (hall t ht).imp fun _ => And.left
  have htight : ∀ t ∈ ts, tight t := fun t ht => (hall t ht).elim fun _ => And.right
  have hinner : ∀ t ∈ ts.dropLast, t.endsInArrow = false := fun t ht =>
    (hclosed rfl t ht).1.closed rfl
  refine Ty.flat_of_shape hplain (hfree htight hinner) ?_ fun he => ?_
  · rw [hchildren]
    exact Ty.free_of_flat hflat
  · rw [hends]
    exact Ty.endsInArrow_last fun t ht => (hlast t ht).1.closed he

/-- **Tidy words have plain and unparenthesised trees.** -/
theorem Derives.flat {p : Phrase} {e : Ending} {ws : List Word} (h : Derives true p e ws)
    (hproper : ∀ w ∈ ws, Proper w) (htidy : Tidy ws) : p.Flat e := by
  induction h with
  | @rule sub p e ws hsub h ih =>
    have hin : ∀ p e us, sub p e us → us ⊆ ws → Tidy us → p.Flat e :=
      fun p e us h hsub => ih p e us h fun w hw => hproper w (hsub hw)
    have htype : ∀ t e us, sub (.type t) e us → us ⊆ ws → Tidy us → t.Flat e :=
      fun t => hin (.type t)
    have hmember : ∀ t e us, sub (.intersection t) e us → us ⊆ ws → Tidy us →
        t.Flat e ∧ t.isUnion = false := fun t => hin (.intersection t)
    have hprimary : ∀ t e us, sub (.primary t) e us → us ⊆ ws → Tidy us →
        t.Flat e ∧ t.isUnion = false ∧ t.isIntersection = false := fun t => hin (.primary t)
    have hfield : ∀ f e us, sub (.field f) e us → us ⊆ ws → Tidy us →
        IsName f.key ∧ f.type.Plain ∧ f.type.Unparenthesised := fun f => hin (.field f)
    have hargument : ∀ t e us, sub (.argument t) e us → us ⊆ ws → Tidy us →
        t.Plain ∧ t.Unparenthesised := fun t => hin (.argument t)
    have hfunction : ∀ {args result us vs e l r a},
        Listed [.comma] (fun t e ws => sub (.argument t) e ws) args us → sub (.type result) e vs →
        ws = (.lparen, l) :: (us ++ (.rparen, r) :: (.arrow, a) :: vs) →
        ∀ c ∈ args ++ [result], c.Plain ∧ c.Unparenthesised := by
      rintro args result us vs e l r a hargs hresult rfl
      have hall := hargs.forall_tidy (by decide) (htidy.tail.left (by simp))
        fun t e us h hsub => hargument t e us h fun w hw => by simp [hsub hw]
      have hflat := htype _ _ _ hresult (fun w hw => by simp [hw]) htidy.tail.right.tail.tail
      refine List.forall_mem_append.2 ⟨fun c hc => ?_, by simpa using hflat.free⟩
      obtain ⟨_, hfree⟩ := hall c hc
      exact hfree
    cases h with
    | type h => exact (hmember _ _ _ h (List.Subset.refl _) htidy).1
    | union h _ =>
      exact h.flat (by decide) htidy hmember trivial rfl (Ty.endsInArrow_eq _) .intro
    | member h =>
      obtain ⟨hflat, hunion, -⟩ := hprimary _ _ _ h (List.Subset.refl _) htidy
      exact ⟨hflat, hunion⟩
    | intersection h _ =>
      exact ⟨h.flat (by decide) htidy hprimary trivial rfl (Ty.endsInArrow_eq _) .intro, rfl⟩
    | boolean h => exact ⟨Ty.flat_value (.boolean h), rfl, rfl⟩
    | named h => exact ⟨Ty.flat_literal _, rfl, rfl⟩
    | @generic v ts _ us _ _ h hts =>
      obtain ⟨hall, -⟩ := hts.forall_tidy (by decide) (htidy.tail.tail.left (by simp))
        fun t e us h hsub => htype t e us h fun w hw => by simp [hsub hw]
      refine ⟨Ty.flat_of_shape trivial trivial ?_ fun _ => rfl, rfl, rfl⟩
      exact List.forall_mem_cons.2 ⟨(Ty.flat_literal v).free, Ty.free_of_flat hall⟩
    | @string v =>
      exact ⟨Ty.flat_value (.quoted (htidy.plain (.string, v) (by simp) rfl)), rfl, rfl⟩
    | @number v =>
      exact ⟨Ty.flat_value (.numeral ((hproper (.number, v) (by simp)).number rfl)), rfl, rfl⟩
    | object h =>
      have hall := h.forall_tidy (by decide) (htidy.tail.left (by simp))
        fun f e us h hsub => hfield f e us h fun w hw => by simp [hsub hw]
      refine ⟨Ty.flat_of_shape (fun f hf => ?_) trivial (fun c hc => ?_) fun _ => rfl, rfl, rfl⟩
      · obtain ⟨_, hkey, -⟩ := hall f hf
        exact hkey
      · obtain ⟨f, hf, rfl⟩ := List.mem_map.1 hc
        obtain ⟨_, -, hflat⟩ := hall f hf
        exact hflat
    | tuple h =>
      have hall := h.forall_tidy (by decide) (htidy.tail.left (by simp))
        fun t e us h hsub => htype t e us h fun w hw => by simp [hsub hw]
      exact ⟨Ty.flat_of_shape trivial trivial (Ty.free_of_flat hall) fun _ => rfl, rfl, rfl⟩
    | function h _ hresult =>
      exact ⟨Ty.flat_of_shape trivial trivial (hfunction h hresult rfl) (by simp), rfl, rfl⟩
    | method h _ hresult =>
      exact ⟨Ty.flat_of_shape trivial trivial (hfunction h hresult rfl) (by simp), rfl, rfl⟩
    | @parenthesis t e us b comma l r h hc =>
      -- the `)` would be the last word
      have hwords : (.lparen, l) :: (us ++ (comma ++ [(.rparen, r)])) =
          ((.lparen, l) :: (us ++ comma)) ++ [(.rparen, r)] := by simp
      rw [hwords] at htidy
      exact absurd rfl (htidy.last _ List.getLast?_concat)
    | field hk hq ht =>
      have hflat := htype _ _ _ ht (fun w hw => by simp [hw]) htidy.right.right.tail
      refine ⟨?_, hflat.free⟩
      cases hk with
      | name h => exact h.isName fun w hw => hproper w (by simp [hw])
      | string =>
        have hnext := (List.isChain_cons.1 htidy.chain).1
        cases hq with
        | absent => exact absurd rfl ((hnext _ rfl).2 rfl).1
        | present => exact absurd rfl ((hnext _ rfl).2 rfl).2
    | argument h => exact (htype _ _ _ h (List.Subset.refl _) htidy).free
    | labelled hn hq ht =>
      have hflat := htype _ _ _ ht (fun w hw => by simp [hw]) htidy.right.right.tail
      exact ⟨.intro hflat.free.1.self hflat.free.1.children,
        .intro hflat.free.2.self hflat.free.2.children⟩
    | @imports _ _ dependency _ _ _ _ h =>
      exact ⟨htidy.plain (.string, dependency) (by simp) rfl, trivial⟩
    | declares hn hp ht =>
      exact (htype _ _ _ ht (fun w hw => by simp [hw]) htidy.tail.right.right.tail).free
    | assigns hn ht => exact (htype _ _ _ ht (fun w hw => by simp [hw]) htidy.right.tail).free
    | nil => simp [Phrase.Flat]
    | @cons s _ us _ _ ss _ vs h hsemi rest =>
      have hs : Tidy us := by
        cases hsemi with
        | present => exact htidy.left (by simp)
        | absent =>
          obtain rfl | ⟨w, vs, rfl, hw⟩ := (hsub _ _ _ rest).header_started
          · simpa using htidy
          · exact htidy.left fun heq => by simp [heq, starts] at hw
      refine List.forall_mem_cons.2 ⟨?_, ?_⟩
      · exact hin (.statement s) _ _ h (fun w hw => by simp [hw]) hs
      · exact hin (.header ss) _ _ rest (fun w hw => by simp [hw]) htidy.right.right

end Grammar

namespace Header

/-- What the text of a plain header is read as is canonical. -/
theorem exists_canonical_of_plain {h : Header} (hregular : h.Regular) (hplain : h.Plain) :
    ∃ h' : Header, h'.Canonical ∧ ∀ p, parse (h.render p) = .ok h' := by
  have hs : ∀ s ∈ h.statements, s.Regular ∧ s.Plain := fun s hs => ⟨hregular s hs, hplain s hs⟩
  have hlexes : ∀ p, Lexes (h.render p).toList h.words :=
    lexes_render fun s hmem => (hs s hmem).1.wellSpelled (hs s hmem).2
  obtain ⟨ss, hd⟩ := exists_derives_words hs
  have hproper := (hlexes ⟨0, 0⟩).proper
  have hflat : ∀ s ∈ ss, s.Plain ∧ s.Unparenthesised := hd.flat hproper (tidy_words hs)
  refine ⟨⟨ss⟩, canonical_iff.2 ⟨hd.regular hproper, ?_, ?_⟩, fun p => ?_⟩
  · exact fun s hmem => (hflat s hmem).1
  · exact fun s hmem => (hflat s hmem).2
  · exact parse_eq_ok_iff.2 ⟨h.words, hlexes p, hd⟩

/-- **Writing and reading settle**: the text of a plain header that was read is read again, as one
whose text is read as itself.  If the header needs no parentheses, that is the header itself, so
that its text is written again as it is. -/
theorem parse_render_of_parse {source : String} {h : Header} (hparse : parse source = .ok h)
    (hplain : h.Plain) (p : Place) :
    ∃ h', parse (h.render p) = .ok h' ∧ parse (h'.render p) = .ok h' ∧
      (h.Unparenthesised → h' = h ∧ h'.render p = h.render p) := by
  have hregular := regular_of_parse hparse
  obtain ⟨h', hcanonical, hparse'⟩ := exists_canonical_of_plain hregular hplain
  refine ⟨h', hparse' p, hcanonical.parse_text p, fun hfree => ?_⟩
  have hself := (canonical_iff.2 ⟨hregular, hplain, hfree⟩).parse_text p
  obtain rfl : h' = h := Except.ok.inj ((hparse' p).symm.trans hself)
  exact ⟨rfl, rfl⟩

/-- A text of the header with a statement of each kind, with parentheses that it does not need. -/
def widgetsText : String :=
  "import \x7b Widget, \x7d from 'shapes'; type Pair<A> : [A, (A)] " ++
    "make : (this : Widget, size ? : Number) => (Pair | 'none');"

theorem parse_render_of_parse_widgets :
    (parse widgetsText = .ok widgets ∧ widgets.Plain ∧ widgets.Unparenthesised) ∧
      ∃ h', parse (widgets.render ⟨2, 60⟩) = .ok h' ∧ parse (h'.render ⟨2, 60⟩) = .ok h' ∧
        (widgets.Unparenthesised → h' = widgets ∧ h'.render ⟨2, 60⟩ = widgets.render ⟨2, 60⟩) := by
  have hparse : parse widgetsText = .ok widgets := by decide +kernel
  obtain ⟨-, hplain, hfree⟩ := canonical_iff.1 canonical_widgets
  exact ⟨⟨hparse, hplain, hfree⟩, parse_render_of_parse hparse hplain ⟨2, 60⟩⟩

/-- The header that gives `x` the type. -/
def single (t : TypeExpr) : Header := ⟨[.assigns ⟨"x", t⟩]⟩

/-- The union of the types. -/
def joined (members : List TypeExpr) : TypeExpr := .ofShape (.union members)

/-- **Not every text that is written is written again as it is**: one with a quote in a string is
not even read, and one that lost the parentheses around a union is broken into other lines. -/
theorem not_forall_parse_render :
    (¬∀ source h indent, parse source = .ok h → ∃ h', parse (h.render ⟨indent, 0⟩) = .ok h') ∧
    ¬∀ source h indent, parse source = .ok h → h.Plain →
      ∃ h', parse (h.render ⟨indent, 0⟩) = .ok h' ∧
        h'.render ⟨indent, 0⟩ = h.render ⟨indent, 0⟩ := by
  constructor
  · intro hall
    have hparse : parse "x : 'a\"b'" = .ok (single (.value "\"a\"b\"")) := by decide +kernel
    obtain ⟨h', hread⟩ := hall _ _ 0 hparse
    have herror : (parse ((single (.value "\"a\"b\"")).render ⟨0, 0⟩)).toOption = none := by
      decide +kernel
    rw [hread] at herror
    cases herror
  · intro hall
    let members : List TypeExpr := [.literal "ConnectionEstablished",
      .literal "ConnectionInterrupted"]
    let nested := single (joined [.literal "ConnectionTimedOut", joined members])
    let flat := single (joined (.literal "ConnectionTimedOut" :: members))
    have hparse : parse "x : ConnectionTimedOut | (ConnectionEstablished | ConnectionInterrupted)" =
        .ok nested := by decide +kernel
    have hname : ∀ name, (Ty.literal name).Plain := fun name => (Ty.flat_literal name).free.1
    have hmembers : (joined members).Plain :=
      .intro trivial (List.forall_mem_cons.2 ⟨hname _, List.forall_mem_singleton.2 (hname _)⟩)
    have hplain : nested.Plain := List.forall_mem_singleton.2
      (.intro trivial (List.forall_mem_cons.2 ⟨hname _, List.forall_mem_singleton.2 hmembers⟩))
    obtain ⟨h', hread, hrender⟩ := hall _ _ 0 hparse hplain
    have hflat : parse (nested.render ⟨0, 0⟩) = .ok flat := by decide +kernel
    obtain rfl : flat = h' := Except.ok.inj (hflat.symm.trans hread)
    have hne : flat.render ⟨0, 0⟩ ≠ nested.render ⟨0, 0⟩ := by decide +kernel
    exact hne hrender

end Header

end SigCheck
