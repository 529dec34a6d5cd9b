import SigCheck.Proofs.Regularity

/-!
# What a header cannot say

Some types are never read from a header.  The checker makes them for itself: the wildcard for what a
module exports, and types with the reference they were expanded from.  Others would not mean what
they seem to: a label that stands on no argument, a keyword in the place of a type, a union of one.

`Header.WellFormed` says of the tree alone, at every depth, that none of this occurs in it.  A
header that was read is regular (`Header.regular_of_parse`), and its names are texts that the
scanner takes for one name; the scanner takes none of the texts in question for one
(`IsName.ne_moduleExports`, `IsTypeName.not_reserved`).
-/

namespace SigCheck

open Scan

/-! ### Names that are taken -/

/-- The names that no type can have: the wildcard, the boolean values and the keywords. -/
def Ty.reservedNames : List String :=
  [Ty.moduleExports, "true", "false", "type", "import", "from"]

theorem IsName.ne_moduleExports {name : String} (h : IsName name) : name ≠ Ty.moduleExports := by
  rintro rfl
  -- the colon in it makes it three tokens and the end
  obtain ⟨kind, -, htokens⟩ := h
  have hlength : ((tokenize Ty.moduleExports).map Token.word).length = 4 := by decide +kernel
  rw [htokens] at hlength
  cases hlength

theorem IsTypeName.not_reserved {name : String} (h : IsTypeName name) :
    name ∉ Ty.reservedNames := by
  intro hmem
  have hnone : ∀ reserved ∈ Ty.reservedNames, ¬IsTypeName reserved := by decide +kernel
  exact hnone name hmem h

/-! ### Types of a fixed form -/

namespace Shape

variable {ι τ : Type}

/-- The smaller types of a shape, without the arguments and the receiver of a function type. -/
def unlabelled : Shape ι τ → List τ
  | function _ _ result => [result]
  | shape => shape.children

/-- The form of the shapes that a header can have. -/
def WellFormed : Shape Unit TypeExpr → Prop
  | literal name builtin => builtin = Ty.isBuiltinName name ∧ name ∉ Ty.reservedNames
  | value text => text = "true" ∨ text = "false" ∨ IsNumeralText text.toList ∨
      ∃ inside, text = "\"" ++ inside ++ "\""
  | generic base params => (∃ name, base = .literal name) ∧ params ≠ []
  | function args receiver _ =>
    (∀ r ∈ receiver, r.label = some "this") ∧
      (receiver = none → ∀ first ∈ args.head?, first.label ≠ some "this")
  | union members | intersection members => 2 ≤ members.length
  | object _ _ | tuple _ => True

end Shape

/-- The form of the nodes that a header can have.  Only the arguments and the receiver of a function
type have labels, and only what has a label is optional. -/
structure Ty.WellFormedNode (t : TypeExpr) : Prop where
  raw : t.raw = none
  optional : t.optional = true → t.label ≠ none
  labels : ∀ c ∈ t.shape.unlabelled, c.label = none
  shape : t.shape.WellFormed

/-- All nodes of the type have this form, and it has no label itself. -/
def Ty.WellFormed (t : TypeExpr) : Prop := t.Every WellFormedNode ∧ t.label = none

/-- The type is only a name, which may be a keyword but not the wildcard. -/
def Ty.IsPlainName (t : TypeExpr) : Prop := ∃ name, t = .literal name ∧ name ≠ Ty.moduleExports

/-- All types of the statement have this form.  Imports and parameters are names. -/
def Statement.WellFormed : Statement → Prop
  | .imports i => ∀ t ∈ i.types, t.IsPlainName
  | .declares d => (∀ t ∈ d.params, t.IsPlainName) ∧ d.type.WellFormed
  | .assigns a => a.type.WellFormed

/-- All types of the header have this form. -/
def Header.WellFormed (h : Header) : Prop := ∀ s ∈ h.statements, s.WellFormed

/-! ### What is regular has this form -/

theorem AreNames.isPlainName {ts : List TypeExpr} (h : AreNames ts) : ∀ t ∈ ts, t.IsPlainName := by
  intro t ht
  obtain ⟨name, hname, rfl⟩ := h t ht
  exact ⟨name, rfl, hname.ne_moduleExports⟩

theorem Ty.RegularNode.eq_literal {t : TypeExpr} (h : t.RegularNode)
    (hname : t.literalName?.isSome = true) (hlabel : t.label = none) :
    ∃ name, t = .literal name := by
  obtain ⟨shape, label, optional, raw⟩ := t
  obtain ⟨rfl, -, hoptional, hshape⟩ := h
  obtain rfl : label = none := hlabel
  obtain rfl : optional = false := hoptional rfl
  cases shape with
  | literal name builtin =>
    obtain rfl : builtin = Ty.isBuiltinName name := hshape.2
    exact ⟨name, rfl⟩
  | _ => cases hname

theorem Shape.Regular.wellFormed {shape : Shape Unit TypeExpr} (h : shape.Regular)
    (hchildren : ∀ c ∈ shape.children, c.RegularNode) :
    shape.WellFormed ∧ ∀ c ∈ shape.unlabelled, c.label = none := by
  cases shape with
  | literal name builtin => exact ⟨⟨h.2, h.1.not_reserved⟩, by simp [unlabelled, children]⟩
  | value text =>
    refine ⟨?_, by simp [unlabelled, children]⟩
    exact or_assoc.1 h
  | generic base params =>
    obtain ⟨hname, hne, hlabels⟩ := h
    have hbase : base ∈ (Shape.generic base params : Shape Unit TypeExpr).children :=
      List.mem_cons_self
    exact ⟨⟨(hchildren base hbase).eq_literal hname (hlabels base hbase), hne⟩, hlabels⟩
  | function args receiver result =>
    obtain ⟨hreceiver, hfirst, hresult⟩ := h
    exact ⟨⟨hreceiver, hfirst⟩, List.forall_mem_singleton.2 hresult⟩
  | object id fields =>
    refine ⟨trivial, fun c hc => ?_⟩
    obtain ⟨f, hf, rfl⟩ := List.mem_map.1 hc
    exact h f hf
  | union members => exact h
  | intersection members => exact h
  | tuple items => exact ⟨trivial, h⟩

theorem Ty.Regular.wellFormed {t : TypeExpr} (h : t.Regular) (hlabel : t.label = none) :
    t.WellFormed := by
  refine ⟨?_, hlabel⟩
  clear hlabel
  induction h with
  | intro hnode hchildren ih =>
    obtain ⟨hshape, hlabels⟩ := hnode.shape.wellFormed fun c hc => (hchildren c hc).self
    refine .intro ⟨hnode.raw, ?_, hlabels, hshape⟩ ih
    intro hoptional hnone
    rw [hnode.optional hnone] at hoptional
    cases hoptional

theorem Statement.Regular.wellFormed {s : Statement} (h : s.Regular) : s.WellFormed := by
  cases s with
  | imports i => exact AreNames.isPlainName h
  | declares d =>
    obtain ⟨-, hparams, htype, hlabel⟩ := h
    exact ⟨hparams.isPlainName, htype.wellFormed hlabel⟩
  | assigns a =>
    obtain ⟨-, htype, hlabel⟩ := h
    exact htype.wellFormed hlabel

/-- **No text is read as a header that is not well-formed.** -/
theorem Header.wellFormed_of_parse {source : String} {h : Header} (hparse : parse source = .ok h) :
    h.WellFormed :=
  fun s hs => (regular_of_parse hparse s hs).wellFormed

/-- A keyword that is imported, and a function type with a receiver and an optional argument. -/
def resizeHeader : Header :=
  ⟨[.imports ⟨"./box", [.literal "type"]⟩,
    .assigns ⟨"resize", .ofShape (.function
      [(Ty.ofShape (.union [.value "1.5", .value "\"full\""])).withLabel "size" true]
      (some ((Ty.ofShape (.generic (.literal "Box") [.literal "String"])).withLabel "this" false))
      (.literal "Any"))⟩]⟩

/-- The text of such a header. -/
def resizeText : String :=
  "import { type } from './box' resize : (this: Box<String>, size?: 1.5 | 'full') => Any"

theorem Header.wellFormed_of_parse_resize :
    parse resizeText = .ok resizeHeader ∧ resizeHeader.WellFormed := by
  have hparse : parse resizeText = .ok resizeHeader := by decide +kernel
  exact ⟨hparse, wellFormed_of_parse hparse⟩

end SigCheck
