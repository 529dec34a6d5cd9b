import SigCheck.Proofs.Concatenation

/-!
# What reading gives

A text is read as a header of a certain form (`Header.Regular`): labels stand only where arguments
have them, names are names, and unions and intersections have at least two members.  What keeps
such a header from being canonical is what writing does not do:

* it puts no escapes into strings and no quotes around keys; a header that needs none of them is
  *plain*;
* it puts no parentheses around members; a header that needs none is *unparenthesised*.

A header is canonical iff it is regular, plain and unparenthesised (`Header.canonical_iff`).  The
main statement is that every header that was read is regular (`Header.regular_of_parse`).
-/

namespace SigCheck

open Grammar Scan Layout

/-! ### What the scanner puts into words -/

namespace Scan

open Text

/-- A name has the text of a name of its class, and a number that of a numeral. -/
structure Proper (w : Word) : Prop where
  name : w.1.isName = true → IsWordText w.2.toList ∧ w.1 = wordKind w.2.toList
  number : w.1 = .number → IsNumeralText w.2.toList

theorem isBlank_eq_false_of_gap {t : Text} {c : Char} {cs : Text} (h : (gap t).2 = c :: cs) :
    isBlank c = false := by
  have hnone : gapItem? (c :: cs) = none := h ▸ gapItem?_gap t
  by_contra hblank
  rw [gapItem?_of_isBlank (by simpa using hblank)] at hnone
  cases hnone

theorem isWordText_of_isNameStart {c : Char} (hblank : isBlank c = false)
    (hstart : isNameStart c = true) (cs : Text) :
    IsWordText ((c :: cs).takeWhile isNameChar) := by
  refine ⟨c, cs.takeWhile isNameChar, ?_, hblank, hstart, ?_⟩
  · simp [isNameChar_of_isNameStart hstart]
  · simp

theorem fraction_eq (t : Text) :
    (fraction t).1 = [] ∨ ∃ digits, (fraction t).1 = '.' :: digits ∧ IsDigits digits := by
  unfold fraction
  split
  · rename_i c cs
    by_cases hc : c.isDigit = true
    · refine .inr ⟨(c :: cs).takeWhile Char.isDigit, by simp [hc], by simp [hc], ?_⟩
      exact fun d hd => List.mem_takeWhile_imp hd
    · simp [hc]
  · exact .inl rfl

theorem isNumeralText_numeral {c : Char} (hc : c.isDigit = true) (cs : Text) {sign : Text}
    (hsign : sign = [] ∨ sign = ['-']) : IsNumeralText (sign ++ (numeral (c :: cs)).1) := by
  refine ⟨sign, (c :: cs).takeWhile Char.isDigit, (fraction ((c :: cs).dropWhile Char.isDigit)).1,
    rfl, hsign, ⟨by simp [hc], fun d hd => List.mem_takeWhile_imp hd⟩, fraction_eq _⟩

theorem isNumeralText_number {c : Char} {cs : Text} (h : startsNumber c cs = true) :
    IsNumeralText (number (c :: cs)).value := by
  by_cases hc : c = '-'
  · subst hc
    cases cs with
    | nil => cases h
    | cons d ds =>
      have hd : d.isDigit = true := by simpa [startsNumber] using h
      exact isNumeralText_numeral hd ds (.inr rfl)
  · have hdigit : c.isDigit = true := by simpa [startsNumber, hc] using h
    have hnumber : (number (c :: cs)).value = (numeral (c :: cs)).1 := by
      unfold number
      split
      · rename_i heq
        exact absurd (List.cons.inj heq).1 hc
      · rfl
    rw [hnumber]
    exact isNumeralText_numeral hdigit cs (.inl rfl)

theorem startsNumber_of_kind {c : Char} {cs : Text} (h : (lexeme c cs).kind = .number) :
    startsNumber c cs = true ∧ lexeme c cs = number (c :: cs) := by
  unfold lexeme at h ⊢
  split at h
  · simp only [string] at h
    split at h <;> cases h
  · split at h
    · rename_i hquote hnumber
      simp [hquote, hnumber]
    · split at h
      · simp only [word, wordKind] at h
        split_ifs at h
      · unfold symbol at h
        split at h
        · rename_i kind hp
          unfold punctuation? at hp
          split at hp <;> cases hp <;> cases h
        · split at h <;> cases h

/-- **The words of a text are proper.** -/
theorem Lexes.proper {t : Text} {ws : List Word} (h : Lexes t ws) : ∀ w ∈ ws, Proper w := by
  induction h with
  | nil => simp
  | @cons t c cs ws hgap _ ih =>
    refine List.forall_mem_cons.2 ⟨⟨fun hname => ?_, fun hnumber => ?_⟩, ih⟩
    · obtain ⟨hstart, hword⟩ := lexeme_eq_word hname
      rw [hword]
      simpa [word] using
        isWordText_of_isNameStart (isBlank_eq_false_of_gap hgap) hstart cs
    · obtain ⟨hstart, hnum⟩ := startsNumber_of_kind hnumber
      rw [hnum]
      simpa using isNumeralText_number hstart

theorem Proper.tokenize {kind : TokenKind} {s : String} (h : Proper (kind, s))
    (hk : kind.isName = true) : (tokenize s).map Token.word = [(kind, s), (.eof, "")] := by
  obtain ⟨htext, hkind⟩ := h.name hk
  have hlexes := spellsOpen_of_isWordText htext [] [] (by simp [Breaks]) (.nil rfl)
  rw [List.append_nil, List.append_nil, String.ofList_toList, ← hkind] at hlexes
  exact lexes_iff.1 hlexes

end Scan

/-! ### What reading gives -/

/-- Every node of the type meets `P`, references it was expanded from aside. -/
inductive Ty.Every (P : TypeExpr → Prop) : TypeExpr → Prop
  | intro {t : TypeExpr} (self : P t) (children : ∀ c ∈ t.shape.children, Ty.Every P c) :
      Ty.Every P t

theorem Ty.Every.self {P : TypeExpr → Prop} {t : TypeExpr} (h : t.Every P) : P t := by
  cases h
  assumption

theorem Ty.Every.children {P : TypeExpr → Prop} {t : TypeExpr} (h : t.Every P) :
    ∀ c ∈ t.shape.children, c.Every P := by
  cases h
  assumption

namespace Shape

/-- The form in which reading gives shapes.  Labels stand on the arguments and the receiver of a
function type only. -/
def Regular : Shape Unit TypeExpr → Prop
  | .literal name builtin => IsTypeName name ∧ builtin = Ty.isBuiltinName name
  | .value text => (text = "true" ∨ text = "false") ∨ IsNumeralText text.toList ∨
      ∃ s, text = "\"" ++ s ++ "\""
  | .generic base params =>
    base.literalName?.isSome = true ∧ params ≠ [] ∧ ∀ c ∈ base :: params, c.label = none
  | .function args receiver result =>
    (∀ r ∈ receiver, r.label = some "this") ∧
      (receiver = none → ∀ first ∈ args.head?, first.label ≠ some "this") ∧ result.label = none
  | .object _ fields => ∀ f ∈ fields, f.type.label = none
  | .union members | .intersection members =>
    2 ≤ members.length ∧ ∀ m ∈ members, m.label = none
  | .tuple items => ∀ c ∈ items, c.label = none

/-- What the shape is written with needs no escapes and no quotes. -/
def Plain : Shape Unit TypeExpr → Prop
  | .value text => ∀ s, text = "\"" ++ s ++ "\"" → IsPlainText s.toList
  | .object _ fields => ∀ f ∈ fields, IsName f.key
  | _ => True

/-- No member of the shape needs parentheses: none binds as loosely, and before the last, none ends
with the result of an arrow. -/
def Unparenthesised : Shape Unit TypeExpr → Prop
  | .union members =>
    (∀ m ∈ members, m.isUnion = false) ∧ ∀ m ∈ members.dropLast, m.endsInArrow = false
  | .intersection members =>
    (∀ m ∈ members, m.isUnion = false ∧ m.isIntersection = false) ∧
      ∀ m ∈ members.dropLast, m.endsInArrow = false
  | _ => True

theorem not_boolean_quoted (s : String) :
    ¬("\"" ++ s ++ "\"" = "true" ∨ "\"" ++ s ++ "\"" = "false") := by
  rintro (h | h) <;> simpa using congrArg (·.toList.head?) h

theorem not_isNumeralText_quoted (s : String) : ¬IsNumeralText ("\"" ++ s ++ "\"").toList := by
  rintro ⟨sign, whole, fraction, heq, hsign, ⟨hne, hdigits⟩, -⟩
  obtain ⟨d, ds, rfl⟩ := List.exists_cons_of_ne_nil hne
  rcases hsign with rfl | rfl
  · have hd : d = '"' := by simpa using (congrArg List.head? heq).symm
    have := hdigits d List.mem_cons_self
    simp [hd] at this
  · simpa using congrArg List.head? heq

theorem canonical_iff {s : Shape Unit TypeExpr} :
    s.Canonical ↔ s.Regular ∧ s.Plain ∧ s.Unparenthesised := by
  cases s with
  | value text =>
    simp only [Canonical, Regular, Plain, Unparenthesised, and_true]
    constructor
    · intro h
      cases h with
      | boolean h => exact ⟨.inl h, fun s hs => absurd (hs ▸ h) (not_boolean_quoted s)⟩
      | numeral h => exact ⟨.inr (.inl h), fun s hs => absurd (hs ▸ h) (not_isNumeralText_quoted s)⟩
      | @quoted s h =>
        refine ⟨.inr (.inr ⟨s, rfl⟩), fun s' hs' => ?_⟩
        obtain rfl : s = s' := by simpa using hs'
        exact h
    · rintro ⟨h | h | ⟨s, rfl⟩, hplain⟩
      · exact .boolean h
      · exact .numeral h
      · exact .quoted (hplain s rfl)
  | literal | generic | function | tuple => simp [Canonical, Regular, Plain, Unparenthesised]
  | object => simp only [Canonical, Regular, Plain, Unparenthesised]; grind
  | union => simp only [Canonical, Regular, Plain, Unparenthesised]; grind
  | intersection => simp only [Canonical, Regular, Plain, Unparenthesised]; grind

end Shape

/-- The node has the form in which reading gives nodes. -/
structure Ty.RegularNode (t : TypeExpr) : Prop where
  raw : t.raw = none
  label : ∀ name ∈ t.label, IsName name
  optional : t.label = none → t.optional = false
  shape : t.shape.Regular

/-- The type has the form in which reading gives types. -/
abbrev Ty.Regular (t : TypeExpr) : Prop := t.Every RegularNode

/-- What the type is written with needs no escapes and no quotes. -/
abbrev Ty.Plain (t : TypeExpr) : Prop := t.Every (·.shape.Plain)

/-- Nothing in the type needs parentheses. -/
abbrev Ty.Unparenthesised (t : TypeExpr) : Prop := t.Every (·.shape.Unparenthesised)

theorem Ty.Regular.withLabel {t : TypeExpr} {label : String} (h : t.Regular) (hl : IsName label)
    (optional : Bool) : (t.withLabel label optional).Regular := by
  obtain ⟨hraw, -, -, hshape⟩ := h.self
  refine .intro ⟨hraw, fun name hname => ?_, by simp [Ty.withLabel], hshape⟩ h.children
  cases hname
  exact hl

theorem Ty.canonical_iff {t : TypeExpr} :
    t.Canonical ↔ t.Regular ∧ t.Plain ∧ t.Unparenthesised := by
  constructor
  · intro h
    induction h with
    | intro hraw hlabel hoptional hshape _ ih =>
      obtain ⟨hregular, hplain, hfree⟩ := Shape.canonical_iff.1 hshape
      exact ⟨.intro ⟨hraw, hlabel, hoptional, hregular⟩ fun c hc => (ih c hc).1,
        .intro hplain fun c hc => (ih c hc).2.1, .intro hfree fun c hc => (ih c hc).2.2⟩
  · rintro ⟨hregular, hplain, hfree⟩
    induction hregular with
    | intro hnode _ ih =>
      refine .intro hnode.raw hnode.label hnode.optional
        (Shape.canonical_iff.2 ⟨hnode.shape, hplain.self, hfree.self⟩) fun c hc => ?_
      exact ih c hc (hplain.children c hc) (hfree.children c hc)

namespace Statement

/-- The statement has the form in which reading gives statements. -/
def Regular : Statement → Prop
  | .imports i => AreNames i.types
  | .declares d => IsName d.name ∧ AreNames d.params ∧ d.type.Regular ∧ d.type.label = none
  | .assigns a => IsName a.name ∧ a.type.Regular ∧ a.type.label = none

/-- What the statement is written with needs no escapes and no quotes. -/
def Plain : Statement → Prop
  | .imports i => IsPlainText i.dependency.toList
  | .declares d => d.type.Plain
  | .assigns a => a.type.Plain

/-- Nothing in the statement needs parentheses. -/
def Unparenthesised : Statement → Prop
  | .imports _ => True
  | .declares d => d.type.Unparenthesised
  | .assigns a => a.type.Unparenthesised

theorem canonical_iff {s : Statement} :
    s.Canonical ↔ s.Regular ∧ s.Plain ∧ s.Unparenthesised := by
  cases s with
  | imports i => simp [Canonical, Regular, Plain, Unparenthesised, and_comm]
  | declares d => simp only [Canonical, Regular, Plain, Unparenthesised, Ty.canonical_iff]; grind
  | assigns a => simp only [Canonical, Regular, Plain, Unparenthesised, Ty.canonical_iff]; grind

end Statement

namespace Header

/-- The header has the form in which reading gives headers. -/
def Regular (h : Header) : Prop := ∀ s ∈ h.statements, s.Regular

/-- What the header is written with needs no escapes and no quotes: its strings have no quotes,
backslashes and line feeds in them, and its keys are names. -/
def Plain (h : Header) : Prop := ∀ s ∈ h.statements, s.Plain

/-- Nothing in the header needs parentheses. -/
def Unparenthesised (h : Header) : Prop := ∀ s ∈ h.statements, s.Unparenthesised

theorem canonical_iff {h : Header} :
    h.Canonical ↔ h.Regular ∧ h.Plain ∧ h.Unparenthesised := by
  simp only [Canonical, Regular, Plain, Unparenthesised, Statement.canonical_iff]
  grind

end Header

/-! ### Derivations of proper words give regular trees -/

namespace Grammar

section items

variable {α : Type} {longest : Bool} {separator : TokenKind} {separators : List TokenKind}
  {item : Forms α} {as : List α} {e : Ending} {ws : List Word} {Q : α → Prop}

theorem Members.forall_of (h : Members longest separator item as e ws)
    (hi : ∀ a e us, item a e us → us ⊆ ws → Q a) : ∀ a ∈ as, Q a := by
  induction h with
  | last h => simpa using hi _ _ _ h (List.Subset.refl _)
  | more h _ _ ih =>
    refine List.forall_mem_cons.2 ⟨hi _ _ _ h (by simp), ih fun a e us h hsub => hi a e us h ?_⟩
    exact fun w hw => by simp [hsub hw]

theorem Listed.forall_of (h : Listed separators item as ws)
    (hi : ∀ a e us, item a e us → us ⊆ ws → Q a) : ∀ a ∈ as, Q a := by
  induction h with
  | nil => simp
  | last h => simpa using hi _ _ _ h (List.Subset.refl _)
  | more h _ _ ih =>
    refine List.forall_mem_cons.2 ⟨hi _ _ _ h (by simp), ih fun a e us h hsub => hi a e us h ?_⟩
    exact fun w hw => by simp [hsub hw]

end items

variable {longest : Bool} {e : Ending} {ws : List Word}

/-- The trees of the phrase have the form in which reading gives them. -/
def Phrase.Regular : Phrase → Prop
  | .type t | .intersection t | .primary t => t.Regular ∧ t.label = none
  | .field f => f.type.Regular ∧ f.type.label = none
  | .argument t => t.Regular
  | .statement s => s.Regular
  | .header ss => ∀ s ∈ ss, s.Regular

theorem Name.isName {v : String} (h : Name v e ws) (hws : ∀ w ∈ ws, Proper w) : IsName v := by
  obtain ⟨kind, hk, rfl⟩ := h.eq
  exact ⟨kind, hk, (hws _ (by simp)).tokenize hk⟩

theorem isTypeName_of_proper {v : String} (h : Proper (.name, v))
    (hv : ¬(v = "true" ∨ v = "false")) : IsTypeName v :=
  ⟨h.tokenize rfl, hv⟩

theorem areNames_literals {names : List String} (h : ∀ name ∈ names, IsName name) :
    AreNames (names.map .literal) := by
  intro t ht
  obtain ⟨name, hname, rfl⟩ := List.mem_map.1 ht
  exact ⟨name, h name hname, rfl⟩

theorem Params.areNames {names : List String} (h : Params names ws) (hws : ∀ w ∈ ws, Proper w) :
    AreNames (names.map .literal) := by
  cases h with
  | absent => simp [AreNames]
  | present h =>
    refine areNames_literals (h.forall_of fun v e us h hsub => h.isName fun w hw => hws w ?_)
    simp [hsub hw]

theorem regularNode_ofShape {shape : Shape Unit TypeExpr} (h : shape.Regular) :
    (Ty.ofShape shape).RegularNode :=
  ⟨rfl, by simp [Ty.ofShape], fun _ => rfl, h⟩

theorem regular_of_shape {shape : Shape Unit TypeExpr} (hshape : shape.Regular)
    (hchildren : ∀ c ∈ shape.children, c.Regular) :
    (Ty.ofShape shape).Regular ∧ (Ty.ofShape shape).label = none :=
  ⟨.intro (regularNode_ofShape hshape) hchildren, rfl⟩

theorem regular_literal {v : String} (h : IsTypeName v) :
    (Ty.literal v).Regular ∧ (Ty.literal v : TypeExpr).label = none := by
  have hshape : (Shape.literal v (Ty.isBuiltinName v) : Shape Unit TypeExpr).Regular := ⟨h, rfl⟩
  exact regular_of_shape hshape (by simp [Shape.children])

theorem regular_value {text : String} (h : (Shape.value text).Regular) :
    (Ty.value text).Regular ∧ (Ty.value text : TypeExpr).label = none :=
  regular_of_shape h (by simp [Shape.children])

/-- **Proper words have regular trees.** -/
theorem Derives.regular {p : Phrase} (h : Derives longest p e ws) (hws : ∀ w ∈ ws, Proper w) :
    p.Regular := by
  induction h with
  | @rule sub p e ws _ h ih =>
    -- the words of a phrase inside are among those of the phrase
    have hin : ∀ p e us, sub p e us → us ⊆ ws → p.Regular :=
      fun p e us h hsub => ih p e us h fun w hw => hws w (hsub hw)
    have htype : ∀ t e us, sub (.type t) e us → us ⊆ ws → t.Regular ∧ t.label = none :=
      fun t => hin (.type t)
    have hmember : ∀ t e us, sub (.intersection t) e us → us ⊆ ws → t.Regular ∧ t.label = none :=
      fun t => hin (.intersection t)
    have hprimary : ∀ t e us, sub (.primary t) e us → us ⊆ ws → t.Regular ∧ t.label = none :=
      fun t => hin (.primary t)
    have hfield : ∀ f e us, sub (.field f) e us → us ⊆ ws → f.type.Regular ∧ f.type.label = none :=
      fun f => hin (.field f)
    have hargument : ∀ t e us, sub (.argument t) e us → us ⊆ ws → t.Regular :=
      fun t => hin (.argument t)
    cases h with
    | type h => exact hmember _ _ _ h (List.Subset.refl _)
    | union h hlen =>
      have hts := h.forall_of hmember
      exact regular_of_shape ⟨hlen, fun m hm => (hts m hm).2⟩ fun m hm => (hts m hm).1
    | member h => exact hprimary _ _ _ h (List.Subset.refl _)
    | intersection h hlen =>
      have hts := h.forall_of hprimary
      exact regular_of_shape ⟨hlen, fun m hm => (hts m hm).2⟩ fun m hm => (hts m hm).1
    | boolean h => exact regular_value (.inl h)
    | named h => exact regular_literal (isTypeName_of_proper (hws _ (by simp)) h)
    | @generic v ts _ us _ _ h hts =>
      have hname : IsTypeName v := isTypeName_of_proper (hws _ (by simp)) h
      have hmem := hts.forall_of fun t e us h hsub => htype t e us h fun w hw => by simp [hsub hw]
      refine regular_of_shape ⟨rfl, hts.ne_nil, ?_⟩ ?_
      · exact List.forall_mem_cons.2 ⟨rfl, fun c hc => (hmem c hc).2⟩
      · exact List.forall_mem_cons.2 ⟨(regular_literal hname).1, fun c hc => (hmem c hc).1⟩
    | string => exact regular_value (.inr (.inr ⟨_, rfl⟩))
    | @number v =>
      have hnumber : IsNumeralText v.toList := (hws (.number, v) (by simp)).number rfl
      exact regular_value (.inr (.inl hnumber))
    | object h =>
      have hfs := h.forall_of fun f e us h hsub => hfield f e us h fun w hw => by simp [hsub hw]
      refine regular_of_shape (fun f hf => (hfs f hf).2) ?_
      simpa [Shape.children] using fun f hf => (hfs f hf).1
    | tuple h =>
      have hts := h.forall_of fun t e us h hsub => htype t e us h fun w hw => by simp [hsub hw]
      exact regular_of_shape (fun c hc => (hts c hc).2) fun c hc => (hts c hc).1
    | function h hthis hresult =>
      have hargs := h.forall_of fun t e us h hsub =>
        hargument t e us h fun w hw => by simp [hsub hw]
      have hres := htype _ _ _ hresult fun w hw => by simp [hw]
      refine regular_of_shape ⟨by simp, fun _ => hthis, hres.2⟩ ?_
      exact List.forall_mem_append.2 ⟨hargs, by simpa using hres.1⟩
    | method h hthis hresult =>
      have hargs := h.forall_of fun t e us h hsub =>
        hargument t e us h fun w hw => by simp [hsub hw]
      have hres := htype _ _ _ hresult fun w hw => by simp [hw]
      refine regular_of_shape ⟨by simpa using hthis, by simp, hres.2⟩ ?_
      exact List.forall_mem_append.2 ⟨hargs, by simpa using hres.1⟩
    | parenthesis h _ => exact htype _ _ _ h fun w hw => by simp [hw]
    | field _ _ ht => exact htype _ _ _ ht fun w hw => by simp [hw]
    | argument h => exact (htype _ _ _ h (List.Subset.refl _)).1
    | labelled hn _ ht =>
      have hname := hn.isName fun w hw => hws w (by simp [hw])
      have hres := htype _ _ _ ht fun w hw => by simp [hw]
      exact hres.1.withLabel hname _
    | imports h =>
      refine areNames_literals (h.forall_of fun v e us h hsub => h.isName fun w hw => hws w ?_)
      simp [hsub hw]
    | declares hn hp ht =>
      have hres := htype _ _ _ ht fun w hw => by simp [hw]
      have hname := hn.isName fun w hw => hws w (by simp [hw])
      exact ⟨hname, hp.areNames fun w hw => hws w (by simp [hw]), hres.1, hres.2⟩
    | assigns hn ht =>
      have hres := htype _ _ _ ht fun w hw => by simp [hw]
      exact ⟨hn.isName fun w hw => hws w (by simp [hw]), hres.1, hres.2⟩
    | nil => simp [Phrase.Regular]
    | @cons s _ _ _ _ ss _ _ h _ rest =>
      have hs := hin (.statement s) _ _ h fun w hw => by simp [hw]
      have hss := hin (.header ss) _ _ rest fun w hw => by simp [hw]
      exact List.forall_mem_cons.2 ⟨hs, hss⟩

end Grammar

/-- **Reading gives regular headers.** -/
theorem Header.regular_of_parse {source : String} {h : Header} (hparse : parse source = .ok h) :
    h.Regular := by
  obtain ⟨ws, hlexes, hd⟩ := parse_eq_ok_iff.1 hparse
  exact hd.regular hlexes.proper

end SigCheck
