import SigCheck.Header.Layout
import SigCheck.Proofs.Lexing

/-!
# The words of a layout

`Ty.words` gives the words of a type in header syntax, with no regard to lines.
`Ty.spellsOpen_layout` says that every layout of a type is read as these words, wherever it is put:
breaking lines, indenting, re-flowing members and trimming the ends of lines change no word.
-/

namespace SigCheck

open Scan Text

variable {α ι : Type}

/-! ### Texts that are written as they are -/

/-- The words of a text. -/
def textWords (s : String) : List Word := ((tokenize s).map Token.word).dropLast

/-- The words of a text stay the same in front of one that does not go on with a name or a
numeral. -/
def Spelled (s : String) : Prop := SpellsOpen s.toList (textWords s)

theorem textWords_eq {s : String} {ws : List Word} (h : SpellsOpen s.toList ws) :
    textWords s = ws := by
  have hlexes : Lexes s.toList ws := by
    simpa using h [] [] breaks_nil (.nil rfl)
  rw [textWords, hlexes.map_word_tokenize, List.dropLast_concat]

theorem spelled_of_spellsOpen {s : String} {ws : List Word} (h : SpellsOpen s.toList ws) :
    Spelled s := by
  rw [Spelled, textWords_eq h]
  exact h

/-! ### The words of types -/

namespace Layout

/-- A question mark, if `optional`. -/
def questionWords (optional : Bool) : List Word := if optional then [(.question, "?")] else []

/-- The words of the name of the parameter a type belongs to. -/
def labelWords (t : Ty ι) : List Word :=
  match t.label with
  | some name => textWords name ++ (questionWords t.optional ++ [(.colon, ":")])
  | none => []

/-- The words of a field. -/
def fieldWords (f : Field (List Word)) : List Word :=
  textWords f.key ++ (questionWords f.optional ++ (.colon, ":") :: f.type)

/-- The lists of words with commas between them. -/
def commaWords (parts : List (List Word)) : List Word := [(.comma, ",")].intercalate parts

/-- The words of a shape, from those of its smaller types. -/
def shapeWords : Shape ι (List Word) → List Word
  | .literal name _ => textWords name
  | .value text => textWords text
  | .generic base params => base ++ (.less, "<") :: (commaWords params ++ [(.greater, ">")])
  | .function args receiver result =>
    (.lparen, "(") :: (commaWords (receiver.toList ++ args) ++ (.rparen, ")") :: (.arrow, "=>") ::
      result)
  | .object _ fields =>
    (.lbrace, "\x7b") :: (commaWords (fields.map fieldWords) ++ [(.rbrace, "\x7d")])
  | .union parts => [(.pipe, "|")].intercalate parts
  | .intersection parts => [(.amp, "&")].intercalate parts
  | .tuple items => (.lbracket, "[") :: (commaWords items ++ [(.rbracket, "]")])

end Layout

/-- The texts that a shape is written with, besides those of its smaller types. -/
def Shape.texts {τ : Type} : Shape ι τ → List String
  | literal name _ => [name]
  | value text => [text]
  | object _ fields => fields.map (·.key)
  | generic _ _ | function _ _ _ | union _ | intersection _ | tuple _ => []

namespace Ty

/-- The words of a type in header syntax. -/
def words : Ty ι → List Word :=
  fold fun t shape raw =>
    match raw with
    | some written => written
    | none => Layout.labelWords t ++ Layout.shapeWords shape

theorem words_eq (t : Ty ι) :
    t.words = match t.raw with
      | some written => written.words
      | none => Layout.labelWords t ++ Layout.shapeWords (t.shape.map words) := by
  rw [words, fold_eq]
  cases t.raw <;> rfl

end Ty

/-! ### Pieces of layouts -/

namespace Layout

variable {s t : Text} {ws us : List Word} {follow : Text → Prop}

theorem spells_spaces (level : Nat) : Spells (spaces level) [] := by
  refine spells_of_isBlank (List.all_eq_true.2 fun c hc => ?_)
  rw [List.eq_of_mem_replicate hc]
  decide

theorem spells_newLine (level : Nat) : Spells ('\n' :: spaces level) [] := by
  have hline : Spells ['\n'] [] := spells_of_isBlank (by decide)
  exact hline.append (spells_spaces level)

/-- A punctuation character between blanks. -/
theorem spells_between {c : Char} {kind : TokenKind} (hc : punctuation? c = some kind)
    (hs : Spells s []) (ht : Spells t []) :
    Spells (s ++ c :: t) [(kind, String.ofList [c])] := by
  have hct : Spells (c :: t) [(kind, String.ofList [c])] := (spells_punctuation hc).append ht
  exact hs.append hct

/-- Parts with a separator between them. -/
theorem spellsOpen_join {f : α → Text} {g : α → List Word} {as : List α}
    (hsep : Spells s ws) (hb : Breaks s) (hne : s ≠ []) (h : ∀ a ∈ as, SpellsOpen (f a) (g a)) :
    SpellsOpen (join s (as.map f)) (ws.intercalate (as.map g)) := by
  induction as with
  | nil => exact spells_nil.spellsOpen
  | cons a as ih =>
    obtain ⟨ha, has⟩ := List.forall_mem_cons.1 h
    cases as with
    | nil => simpa [join] using ha
    | cons b bs =>
      have hrest := ih has
      simp only [join, List.map_cons, List.intercalate_cons_cons, List.append_assoc] at hrest ⊢
      exact SpellsOpen.separated ha hsep hb hne hrest

/-! ### Re-flowed members -/

section reflow

variable {c : Char} {kind : TokenKind}

theorem trimEnd_append (hc : isBlank c = false) (t : Text) :
    trimEnd (t ++ [' ', c, ' ']) = t ++ [' ', c] := by
  have hspace : isBlank ' ' = true := by decide
  simp [trimEnd, hc, hspace]

theorem dropEnding_append (ending t : Text) : dropEnding ending (t ++ ending) = t := by
  simp [dropEnding]

theorem trimLines_cons {line : Text} {lines : List Text} (h : lines ≠ []) (separator : Text) :
    trimLines separator (line :: lines) = trimEnd line :: trimLines separator lines := by
  obtain ⟨l, ls, rfl⟩ := List.exists_cons_of_ne_nil h
  rfl

theorem reflowFrom_ne_nil (indent : Nat) (separator : Text) (used : Nat) (line : Text)
    (members : List Text) : reflowFrom indent separator used line members ≠ [] := by
  induction members generalizing used line with
  | nil => simp [reflowFrom]
  | cons member members ih =>
    rw [reflowFrom]
    split
    · exact ih _ _
    · simp

theorem trimLines_ne_nil {lines : List Text} (h : lines ≠ []) (separator : Text) :
    trimLines separator lines ≠ [] := by
  obtain ⟨l, _ | ⟨l', ls⟩, rfl⟩ := List.exists_cons_of_ne_nil h <;> simp [trimLines]

theorem intercalate_append (sep : List α) (as : List (List α)) (b : List α) (bs : List (List α)) :
    sep.intercalate (as ++ b :: bs) = (as.map (· ++ sep)).flatten ++ sep.intercalate (b :: bs) := by
  induction as with
  | nil => rfl
  | cons a as ih =>
    have hne : as ++ b :: bs ≠ [] := by simp
    obtain ⟨x, xs, hx⟩ := List.exists_cons_of_ne_nil hne
    rw [hx] at ih
    rw [List.cons_append, hx, List.intercalate_cons_cons, ih]
    simp

theorem intercalate_cons_cons_append (sep a b : List α) (cs : List (List α)) :
    sep.intercalate (a :: b :: cs) = sep.intercalate ((a ++ (sep ++ b)) :: cs) := by
  cases cs <;> simp [List.intercalate_cons_cons]

/-- The line that is being filled is empty, or ends with the separator behind the words `placed`. -/
def Pending (separator line : Text) (placed : List (List Word)) : Prop :=
  line = [] ∧ placed = [] ∨
    ∃ body ws, line = body ++ separator ∧ placed = [ws] ∧ SpellsOpen body ws

theorem Pending.cons {separator line m : Text} {placed : List (List Word)} {seps : List Word}
    (h : Pending separator line placed) (hm : SpellsOpen m ws) (hsep : Spells separator seps)
    (hb : Breaks separator) (hne : separator ≠ []) :
    ∃ ws', Pending separator (line ++ m ++ separator) [ws'] ∧
      ∀ rest, seps.intercalate (placed ++ ws :: rest) = seps.intercalate (ws' :: rest) := by
  obtain ⟨rfl, rfl⟩ | ⟨body, ws', rfl, rfl, hbody⟩ := h
  · exact ⟨ws, .inr ⟨m, ws, rfl, rfl, hm⟩, fun _ => rfl⟩
  · refine ⟨ws' ++ (seps ++ ws), .inr ⟨_, _, rfl, rfl, ?_⟩,
      intercalate_cons_cons_append seps ws' ws⟩
    rw [List.append_assoc]
    exact SpellsOpen.separated hbody hsep hb hne hm

theorem Pending.break {line rest : Text} {placed : List (List Word)}
    (hc : punctuation? c = some kind) (h : Pending [' ', c, ' '] line placed)
    (hrest : SpellsOpen rest ws) :
    SpellsOpen (trimEnd line ++ ('\n' :: rest))
      ((placed.map (· ++ [(kind, String.ofList [c])])).flatten ++ ws) := by
  have hline : Spells ['\n'] [] := spells_of_isBlank (by decide)
  obtain ⟨rfl, rfl⟩ | ⟨body, ws', rfl, rfl, hbody⟩ := h
  · exact hline.append hrest
  · have hblank : Spells [' '] [] := spells_of_isBlank (by decide)
    have hsep : Spells ([' '] ++ c :: ['\n']) [(kind, String.ofList [c])] :=
      spells_between hc hblank hline
    rw [trimEnd_append (class_of_punctuation hc).1.1]
    simpa using SpellsOpen.separated hbody hsep (breaks_cons (by decide) (by decide) _) nofun hrest

theorem spellsOpen_reflowFrom {f : α → Text} {g : α → List Word} {as : List α} (indent : Nat)
    (hc : punctuation? c = some kind) (h : ∀ a ∈ as, SpellsOpen (f a) (g a)) :
    ∀ used line placed, Pending [' ', c, ' '] line placed →
      SpellsOpen (join ['\n'] (trimLines [' ', c, ' ']
        (reflowFrom indent [' ', c, ' '] used line (as.map f))))
        (List.intercalate [(kind, String.ofList [c])] (placed ++ as.map g)) := by
  have hblank : Spells [' '] [] := spells_of_isBlank (by decide)
  have hsep : Spells [' ', c, ' '] [(kind, String.ofList [c])] := spells_between hc hblank hblank
  have hb : Breaks [' ', c, ' '] := breaks_cons (by decide) (by decide) _
  induction as with
  | nil =>
    intro used line placed hline
    obtain ⟨rfl, rfl⟩ | ⟨body, ws, rfl, rfl, hbody⟩ := hline
    · exact spells_nil.spellsOpen
    · simpa [reflowFrom, trimLines, join, dropEnding_append] using hbody
  | cons a as ih =>
    intro used line placed hline
    obtain ⟨ha, has⟩ := List.forall_mem_cons.1 h
    rw [List.map_cons, List.map_cons, reflowFrom]
    split
    · -- the member joins the line
      obtain ⟨ws', hline', hwords⟩ := hline.cons ha hsep hb (List.cons_ne_nil _ _)
      rw [hwords]
      exact ih has _ _ _ hline'
    · -- the member starts a line
      have hbody : SpellsOpen (spaces (indent + 1) ++ (f a).dropWhile isBlank) (g a) :=
        (spells_spaces _).append (spellsOpen_dropWhile_isBlank ha)
      have hrest := ih has 0 _ [g a] (.inr ⟨_, _, rfl, rfl, hbody⟩)
      have hne := reflowFrom_ne_nil indent [' ', c, ' '] 0
        (spaces (indent + 1) ++ (f a).dropWhile isBlank ++ [' ', c, ' ']) (as.map f)
      obtain ⟨l, ls, hls⟩ := List.exists_cons_of_ne_nil (trimLines_ne_nil hne [' ', c, ' '])
      rw [hls] at hrest
      rw [trimLines_cons hne, hls, join, List.intercalate_cons_cons, intercalate_append]
      simpa [join] using Pending.break hc hline hrest

/-- The members of a union or intersection, on one line or on several. -/
theorem spellsOpen_members {f : α → Text} {g : α → List Word} {as : List α} {label : Text}
    (hc : punctuation? c = some kind) (hlabel : Spells label ws)
    (h : ∀ a ∈ as, SpellsOpen (f a) (g a)) (p : Place) :
    SpellsOpen (members label [' ', c, ' '] (as.map f) p)
      (ws ++ List.intercalate [(kind, String.ofList [c])] (as.map g)) := by
  have hblank : Spells [' '] [] := spells_of_isBlank (by decide)
  simp only [members]
  split
  · exact hlabel.append (spellsOpen_reflowFrom p.indent hc h _ [] [] (.inl ⟨rfl, rfl⟩))
  · exact hlabel.append (spellsOpen_join (spells_between hc hblank hblank)
      (breaks_cons (by decide) (by decide) _) (List.cons_ne_nil _ _) h)

end reflow

/-! ### Labels, arguments and fields -/

/-- A name with a colon behind it. -/
theorem spells_colon {name : String} (h : Spelled name) (optional : Bool) :
    Spells (name.toList ++ (if optional then ['?'] else []) ++ [':', ' '])
      (textWords name ++ (questionWords optional ++ [(.colon, ":")])) := by
  have hcolon : Spells [':', ' '] [(.colon, ":")] :=
    (spells_punctuation rfl).append (spells_of_isBlank (by decide))
  rw [List.append_assoc]
  cases optional with
  | false => exact h.append (breaks_cons (by decide) (by decide) _) nofun hcolon
  | true =>
    have hquestion : Spells ['?'] [(.question, "?")] := spells_punctuation rfl
    exact h.append (breaks_cons (by decide) (by decide) _) nofun (hquestion.append hcolon)

theorem spells_label {t : Ty ι} (h : ∀ name ∈ t.label, Spelled name) :
    Spells (label t) (labelWords t) := by
  unfold label labelWords
  cases hlabel : t.label with
  | some name => exact spells_colon (h name hlabel) t.optional
  | none => exact spells_nil

theorem spells_comma {t : Text} (h : Spells t []) : Spells (',' :: t) [(.comma, ",")] :=
  spells_between (s := []) rfl spells_nil h

theorem spellsOpen_commas {f : α → Text} {g : α → List Word} {as : List α} (ht : Spells t [])
    (h : ∀ a ∈ as, SpellsOpen (f a) (g a)) :
    SpellsOpen (join (',' :: t) (as.map f)) (commaWords (as.map g)) :=
  spellsOpen_join (spells_comma ht) (breaks_cons (by decide) (by decide) _) nofun h

theorem spellsOpen_arguments {f : α → Place → Text} {g : α → List Word} {as : List α}
    (h : ∀ a ∈ as, ∀ p, SpellsOpen (f a p) (g a)) (p : Place) :
    SpellsOpen (arguments (as.map f) p) (commaWords (as.map g)) := by
  simp only [arguments, List.map_map]
  split
  · have hargs := spellsOpen_commas (spells_newLine (p.indent + 1)) fun a ha => h a ha p.deeper
    have hend : Spells ('\n' :: spaces p.indent) [] := spells_newLine p.indent
    have hall : SpellsOpen _ _ := (spells_newLine (p.indent + 1)).append
      (hargs.append (breaks_cons (by decide) (by decide) _) (List.cons_ne_nil _ _) hend.spellsOpen)
    simpa [Function.comp_def] using hall
  · exact spellsOpen_commas (spells_of_isBlank (by decide)) fun a ha => h a ha p

theorem spellsOpen_field {f : Field α} {g : α → Place → Text} {w : α → List Word}
    (hkey : Spelled f.key) (h : ∀ p, SpellsOpen (g f.type p) (w f.type)) (p : Place) :
    SpellsOpen (field (f.map g) p) (fieldWords (f.map w)) := by
  have hall : SpellsOpen _ _ :=
    (spells_spaces p.indent).append ((spells_colon hkey f.optional).append (h p))
  change SpellsOpen (spaces p.indent ++ f.key.toList ++ (if f.optional then ['?'] else []) ++
    [':', ' '] ++ g f.type p) (textWords f.key ++ (questionWords f.optional ++ (.colon, ":") ::
      w f.type))
  simpa using hall

/-- Fields between braces, with blanks around them. -/
theorem spells_braces {label fields : Text} {fs : List Word} (hlabel : Spells label ws)
    (hs : Spells s []) (hfields : SpellsOpen fields fs) (hb : Breaks t) (hne : t ≠ [])
    (ht : Spells t []) :
    Spells (label ++ '{' :: s ++ fields ++ t ++ ['}'])
      (ws ++ (.lbrace, "\x7b") :: (fs ++ [(.rbrace, "\x7d")])) := by
  have hopen : Spells ('{' :: s) [(.lbrace, "\x7b")] := spells_between (s := []) rfl spells_nil hs
  have hclose : Spells ['}'] [(.rbrace, "\x7d")] := spells_punctuation rfl
  have hall : Spells _ _ :=
    hlabel.append (hopen.append (SpellsOpen.separated hfields ht hb hne hclose))
  simpa using hall

theorem spells_block {fs : List (Field α)} {g : α → Place → Text} {w : α → List Word}
    {label : Text} (hlabel : Spells label ws) (hkey : ∀ f ∈ fs, Spelled f.key)
    (h : ∀ f ∈ fs, ∀ p, SpellsOpen (g f.type p) (w f.type)) (p : Place) :
    Spells (block label (fs.map (·.map g)) p)
      (ws ++ (.lbrace, "\x7b") ::
        (commaWords ((fs.map (·.map w)).map fieldWords) ++ [(.rbrace, "\x7d")])) := by
  have hline : Spells ['\n'] [] := spells_of_isBlank (by decide)
  have hfields := spellsOpen_commas hline fun f hf =>
    spellsOpen_field (hkey f hf) (h f hf) p.deeper
  have hall := spells_braces hlabel hline hfields (breaks_cons (by decide) (by decide) _) nofun
    (spells_newLine p.indent)
  simpa [block, Function.comp_def] using hall

theorem spells_object {fs : List (Field α)} {g : α → Place → Text} {w : α → List Word}
    {label : Text} (hlabel : Spells label ws) (hkey : ∀ f ∈ fs, Spelled f.key)
    (h : ∀ f ∈ fs, ∀ p, SpellsOpen (g f.type p) (w f.type)) (p : Place) :
    Spells (object label (fs.map (·.map g)) p)
      (ws ++ (.lbrace, "\x7b") ::
        (commaWords ((fs.map (·.map w)).map fieldWords) ++ [(.rbrace, "\x7d")])) := by
  obtain _ | ⟨f, _ | ⟨f', fs⟩⟩ := fs
  · have hbraces : Spells ['{', '}'] [(.lbrace, "\x7b"), (.rbrace, "\x7d")] :=
      (spells_punctuation rfl).append (spells_punctuation rfl)
    exact hlabel.append hbraces
  · simp only [List.map_cons, List.map_nil, object]
    split
    · have hblank : Spells [' '] [] := spells_of_isBlank (by decide)
      have hfield := spellsOpen_field (hkey f List.mem_cons_self) (h f List.mem_cons_self) .origin
      have hall := spells_braces hlabel hblank hfield (breaks_cons (by decide) (by decide) _)
        (List.cons_ne_nil _ _) hblank
      simpa [commaWords] using hall
    · exact spells_block hlabel hkey h p
  · exact spells_block hlabel hkey h p

/-! ### Types -/

theorem spellsOpen_shape {shape : Shape ι α} {g : α → Place → Text} {w : α → List Word}
    {label : Text} (hlabel : Spells label ws) (htexts : ∀ x ∈ shape.texts, Spelled x)
    (h : ∀ c ∈ shape.children, ∀ p, SpellsOpen (g c p) (w c)) (p : Place) :
    SpellsOpen (Layout.shape label (shape.map g) p) (ws ++ shapeWords (shape.map w)) := by
  have hblank : Spells [' '] [] := spells_of_isBlank (by decide)
  cases shape with
  | literal name builtin => exact hlabel.append (htexts name List.mem_cons_self)
  | value text => exact hlabel.append (htexts text List.mem_cons_self)
  | generic base params =>
    obtain ⟨hbase, hparams⟩ := List.forall_mem_cons.1 h
    have hless : Spells ['<'] [(.less, "<")] := spells_punctuation rfl
    have hgreater : Spells ['>'] [(.greater, ">")] := spells_punctuation rfl
    have hinside := (spellsOpen_commas hblank fun c hc => hparams c hc p).append
      (breaks_cons (by decide) (by decide) _) (List.cons_ne_nil _ _) hgreater
    have hall : SpellsOpen _ _ := Spells.spellsOpen (hlabel.append (SpellsOpen.separated (hbase p)
      hless (breaks_cons (by decide) (by decide) _) (List.cons_ne_nil _ _) hinside))
    simpa [Layout.shape, shapeWords, Shape.map, comma, Function.comp_def] using hall
  | function args receiver result =>
    have hargs := spellsOpen_arguments
      (fun c hc => h c (List.mem_append_left _ hc) : ∀ c ∈ receiver.toList ++ args, _) p
    have hresult := h result (by simp [Shape.children]) p
    have hopen : Spells ['('] [(.lparen, "(")] := spells_punctuation rfl
    have hclose : Spells [')', ' '] [(.rparen, ")")] := (spells_punctuation rfl).append hblank
    have harrow : Spells ['=', '>', ' '] [(.arrow, "=>")] := spells_arrow.append hblank
    have hall : SpellsOpen _ _ := hlabel.append (hopen.append (SpellsOpen.separated hargs hclose
      (breaks_cons (by decide) (by decide) _) (List.cons_ne_nil _ _) (harrow.append hresult)))
    cases receiver <;> simpa [Layout.shape, shapeWords, Shape.map] using hall
  | object id fields =>
    refine (spells_object hlabel (fun f hf => ?_) (fun f hf => ?_) p).spellsOpen
    · exact htexts f.key (List.mem_map_of_mem hf)
    · exact h f.type (List.mem_map_of_mem hf)
  | union members =>
    have hpipe : punctuation? '|' = some .pipe := rfl
    have hmembers : ∀ m ∈ members, SpellsOpen (g m p) (w m) := fun m hm => h m hm p
    simpa [Layout.shape, shapeWords, Shape.map, Function.comp_def] using
      spellsOpen_members hpipe hlabel hmembers p
  | intersection members =>
    have hamp : punctuation? '&' = some .amp := rfl
    have hmembers : ∀ m ∈ members, SpellsOpen (g m p) (w m) := fun m hm => h m hm p
    simpa [Layout.shape, shapeWords, Shape.map, Function.comp_def] using
      spellsOpen_members hamp hlabel hmembers p
  | tuple items =>
    have hopen : Spells ['['] [(.lbracket, "[")] := spells_punctuation rfl
    have hclose : Spells [']'] [(.rbracket, "]")] := spells_punctuation rfl
    have hitems : ∀ c ∈ items, SpellsOpen (g c p) (w c) := fun c hc => h c hc p
    have hinside := (spellsOpen_commas hblank hitems).append (breaks_cons (by decide) (by decide) _)
      (List.cons_ne_nil _ _) hclose
    have hall : SpellsOpen _ _ := Spells.spellsOpen (hlabel.append (hopen.append hinside))
    simpa [Layout.shape, shapeWords, Shape.map, comma, Function.comp_def] using hall

end Layout

namespace Ty

/-- The texts that the type is written with are read one by one: its labels, names, values and keys,
or those of the reference it was expanded from. -/
inductive WellSpelled : Ty ι → Prop
  | raw {t r : Ty ι} (h : t.raw = some r) (hr : WellSpelled r) : WellSpelled t
  | shape {t : Ty ι} (h : t.raw = none) (hlabel : ∀ name ∈ t.label, Spelled name)
      (htexts : ∀ s ∈ t.shape.texts, Spelled s)
      (hchildren : ∀ c ∈ t.shape.children, WellSpelled c) : WellSpelled t

/-- **Every layout of a type is read as its words.** -/
theorem WellSpelled.spellsOpen_layout {t : Ty ι} (h : t.WellSpelled) (p : Place) :
    SpellsOpen (t.layout p) t.words := by
  induction h generalizing p with
  | raw h _ ih =>
    rw [layout_eq, words_eq, h]
    exact ih p
  | shape h hlabel htexts _ ih =>
    rw [layout_eq, words_eq, h]
    exact Layout.spellsOpen_shape (Layout.spells_label hlabel) htexts ih p

end Ty

/-! ### Headers -/

open Layout

namespace Statement

/-- The words of a statement. -/
def words : Statement → List Word
  | .imports i => (.importKeyword, "import") :: (.lbrace, "\x7b") ::
      (commaWords (i.types.map Ty.words) ++
        [(.rbrace, "\x7d"), (.fromKeyword, "from"), (.string, i.dependency)])
  | .declares d => (.typeKeyword, "type") :: (textWords d.name ++ ((if d.params.isEmpty then [] else
      (.less, "<") :: (commaWords (d.params.map Ty.words) ++ [(.greater, ">")])) ++
        (.colon, ":") :: d.type.words))
  | .assigns a => textWords a.name ++ (.colon, ":") :: a.type.words

/-- The texts that the statement is written with are read one by one. -/
def WellSpelled : Statement → Prop
  | .imports i => IsPlainText i.dependency.toList ∧ ∀ t ∈ i.types, t.WellSpelled
  | .declares d => Spelled d.name ∧ (∀ t ∈ d.params, t.WellSpelled) ∧ d.type.WellSpelled
  | .assigns a => Spelled a.name ∧ a.type.WellSpelled

theorem spells_colon_blanks : Spells [' ', ':', ' '] [(.colon, ":")] := by
  have hblank : Spells [' '] [] := spells_of_isBlank (by decide)
  exact spells_between (s := [' ']) rfl hblank hblank

theorem spellsOpen_types {ts : List TypeExpr} (h : ∀ t ∈ ts, t.WellSpelled) (p : Place) :
    SpellsOpen (join comma (ts.map (·.layout p))) (commaWords (ts.map Ty.words)) :=
  spellsOpen_commas (spells_of_isBlank (by decide)) fun t ht => (h t ht).spellsOpen_layout p

/-- The name of a declaration and its parameters, through the colon. -/
theorem spells_head {name : String} {ts : List TypeExpr} (hname : Spelled name)
    (h : ∀ t ∈ ts, t.WellSpelled) (p : Place) :
    Spells (name.toList ++ (if ts.isEmpty then [] else
        ['<'] ++ join comma (ts.map (·.layout p)) ++ ['>']) ++ [' ', ':', ' '])
      (textWords name ++ ((if ts.isEmpty then [] else
        (.less, "<") :: (commaWords (ts.map Ty.words) ++ [(.greater, ">")])) ++
          [(.colon, ":")])) := by
  have hb : Breaks [' ', ':', ' '] := breaks_cons (by decide) (by decide) _
  split
  · simpa using hname.append hb nofun spells_colon_blanks
  · have hless : Spells ['<'] [(.less, "<")] := spells_punctuation rfl
    have hgreater : Spells ['>'] [(.greater, ">")] := spells_punctuation rfl
    have hinside := (spellsOpen_types h p).append (breaks_cons (by decide) (by decide) _) nofun
      (hgreater.append spells_colon_blanks)
    have hbreaks := breaks_cons (c := '<') (by decide) (by decide) []
    have hall : Spells _ _ := SpellsOpen.separated hname hless hbreaks nofun hinside
    simpa using hall

theorem WellSpelled.spellsOpen_layout {s : Statement} (h : s.WellSpelled) (p : Place) :
    SpellsOpen (s.layout p) s.words := by
  have hblank : Spells [' '] [] := spells_of_isBlank (by decide)
  cases s with
  | imports i =>
    obtain ⟨hdep, htypes⟩ := h
    have himport : Spells (['i', 'm', 'p', 'o', 'r', 't'] ++ [' ']) [(.importKeyword, "import")] :=
      spells_word ⟨_, _, rfl, by decide, by decide, by decide⟩ rfl
    have hfrom : Spells (['f', 'r', 'o', 'm'] ++ [' ']) [(.fromKeyword, "from")] :=
      spells_word ⟨_, _, rfl, by decide, by decide, by decide⟩ rfl
    have hopen : Spells ['{', ' '] [(.lbrace, "\x7b")] := (spells_punctuation rfl).append hblank
    have hclose : Spells ([' '] ++ '}' :: [' ']) [(.rbrace, "\x7d")] :=
      spells_between rfl hblank hblank
    have hend := hfrom.append (spells_of_isPlainText hdep)
    have hall : SpellsOpen _ _ := Spells.spellsOpen (himport.append (hopen.append
      (SpellsOpen.separated (spellsOpen_types htypes p) hclose
        (breaks_cons (by decide) (by decide) _) (List.cons_ne_nil _ _) hend)))
    simpa [layout, words] using hall
  | declares d =>
    obtain ⟨hname, hparams, htype⟩ := h
    have hkeyword : Spells (['t', 'y', 'p', 'e'] ++ [' ']) [(.typeKeyword, "type")] :=
      spells_word ⟨_, _, rfl, by decide, by decide, by decide⟩ rfl
    have hall : SpellsOpen _ _ := hkeyword.append ((spells_head hname hparams p).append
      (htype.spellsOpen_layout { p with lineStart := (d.head p).length }))
    simpa [layout, words, Declaration.head] using hall
  | assigns a =>
    obtain ⟨hname, htype⟩ := h
    have hall : SpellsOpen _ _ := SpellsOpen.separated hname spells_colon_blanks
      (breaks_cons (by decide) (by decide) _) (List.cons_ne_nil _ _) (htype.spellsOpen_layout p)
    simpa [layout, words] using hall

end Statement

theorem nil_intercalate (parts : List (List α)) : [].intercalate parts = parts.flatten := by
  induction parts with
  | nil => rfl
  | cons a as ih => cases as <;> simp_all [List.intercalate_cons_cons]

namespace Header

/-- The words of a header. -/
def words (h : Header) : List Word := (h.statements.map Statement.words).flatten

/-- **Every layout of a header is read as its words.** -/
theorem spellsOpen_layout {h : Header} (hs : ∀ s ∈ h.statements, s.WellSpelled) (p : Place) :
    SpellsOpen (h.layout p) h.words := by
  have hline : Spells ['\n', '\n'] [] := spells_of_isBlank (by decide)
  have hall := spellsOpen_join hline (breaks_cons (by decide) (by decide) _) nofun
    fun s hmem => (hs s hmem).spellsOpen_layout p
  rw [nil_intercalate] at hall
  exact hall

end Header

end SigCheck
