import SigCheck.Header.Parse
import SigCheck.Proofs.Lexing

/-!
# The grammar of headers

`Rule` holds the rules of the grammar, each with the tree it builds: a union or intersection of one
member is that member, a type in parentheses is the type inside, and a first argument labelled
`this` is the receiver.  `Derives` is the least relation that the rules are true of: the words have
a derivation with the given tree.

The grammar is ambiguous.  The result of a function type may end before a `|` or `&` or go on behind
it, so `() => A | B` is a union as well as a function type.  Two relations are therefore told apart:

* `Derives false` has every derivation of the grammar;
* `Derives true` has those in which results are as long as can be: a member of a union or
  intersection that ends with the result of an arrow is the last one.

A rule is over a relation for the phrases inside, so that an induction over `Derives` has one case,
and each proof by induction is one case split over the rules.
-/

namespace SigCheck

namespace Grammar

/-- How a phrase ends: with the result of an arrow, which a `|` or `&` behind it would make longer,
or in some other way. -/
inductive Ending where
  | closed
  | arrow
deriving DecidableEq

/-- The words that have a derivation with the tree `a`, and how the derivation ends. -/
abbrev Forms (α : Type) := α → Ending → List Word → Prop

variable {α : Type}

/-- One or more items with the token `separator` between them.  If `longest`, only the last item may
end with the result of an arrow. -/
inductive Members (longest : Bool) (separator : TokenKind) (item : Forms α) :
    Forms (List α)
  | last {a e ws} (h : item a e ws) : Members longest separator item [a] e ws
  | more {a e ws v as e' us} (h : item a e ws) (hl : longest = true → e = .closed)
      (rest : Members longest separator item as e' us) :
      Members longest separator item (a :: as) e' (ws ++ (separator, v) :: us)

/-- Items with one of the tokens `separators` between them, and perhaps behind the last. -/
inductive Listed (separators : List TokenKind) (item : Forms α) : List α → List Word → Prop
  | nil : Listed separators item [] []
  | last {a e ws} (h : item a e ws) : Listed separators item [a] ws
  | more {a e ws kind v as us} (h : item a e ws) (hk : kind ∈ separators)
      (rest : Listed separators item as us) :
      Listed separators item (a :: as) (ws ++ (kind, v) :: us)

/-- A token of the class `kind`, or nothing. -/
inductive Maybe (kind : TokenKind) : Bool → List Word → Prop
  | absent : Maybe kind false []
  | present {v} : Maybe kind true [(kind, v)]

/-- A name, which may be a keyword. -/
inductive Name : Forms String
  | name {v} : Name v .closed [(.name, v)]
  | typeKeyword {v} : Name v .closed [(.typeKeyword, v)]
  | importKeyword {v} : Name v .closed [(.importKeyword, v)]
  | fromKeyword {v} : Name v .closed [(.fromKeyword, v)]

/-- The key of a field: a name or a string. -/
inductive Key : Forms String
  | name {v e ws} (h : Name v e ws) : Key v e ws
  | string {v} : Key v .closed [(.string, v)]

/-- The parameters of a declaration, which may have none. -/
inductive Params : List String → List Word → Prop
  | absent : Params [] []
  | present {names e ws l g} (h : Members false .comma Name names e ws) :
      Params names ((.less, l) :: (ws ++ [(.greater, g)]))

/-- The phrases of a header, each with its tree. -/
inductive Phrase where
  | type (t : TypeExpr)
  | intersection (t : TypeExpr)
  | primary (t : TypeExpr)
  | field (f : Field TypeExpr)
  | argument (t : TypeExpr)
  | statement (s : Statement)
  | header (statements : List Statement)

namespace Phrase

/-- The phrase is a type or a part of one that is a type itself. -/
def isType : Phrase → Bool
  | type _ | intersection _ | primary _ => true
  | _ => false

/-- The phrase is a whole header. -/
def isHeader : Phrase → Bool
  | header _ => true
  | _ => false

end Phrase

/-- The rules of the grammar, over a relation `sub` for the phrases inside a phrase. -/
inductive Rule (longest : Bool) (sub : Forms Phrase) : Forms Phrase
  | type {t e ws} (h : sub (.intersection t) e ws) : Rule longest sub (.type t) e ws
  | union {ts e ws} (h : Members longest .pipe (fun t e ws => sub (.intersection t) e ws) ts e ws)
      (hlen : 2 ≤ ts.length) : Rule longest sub (.type (.ofShape (.union ts))) e ws
  | member {t e ws} (h : sub (.primary t) e ws) : Rule longest sub (.intersection t) e ws
  | intersection {ts e ws}
      (h : Members longest .amp (fun t e ws => sub (.primary t) e ws) ts e ws)
      (hlen : 2 ≤ ts.length) : Rule longest sub (.intersection (.ofShape (.intersection ts))) e ws
  | boolean {v} (h : v = "true" ∨ v = "false") :
      Rule longest sub (.primary (.value v)) .closed [(.name, v)]
  | named {v} (h : ¬(v = "true" ∨ v = "false")) :
      Rule longest sub (.primary (.literal v)) .closed [(.name, v)]
  | generic {v ts e ws l g} (h : ¬(v = "true" ∨ v = "false"))
      (hts : Members false .comma (fun t e ws => sub (.type t) e ws) ts e ws) :
      Rule longest sub (.primary (.ofShape (.generic (.literal v) ts))) .closed
        ((.name, v) :: (.less, l) :: (ws ++ [(.greater, g)]))
  | string {v} : Rule longest sub (.primary (.value ("\"" ++ v ++ "\""))) .closed [(.string, v)]
  | number {v} : Rule longest sub (.primary (.value v)) .closed [(.number, v)]
  | object {fs ws l r}
      (h : Listed [.comma, .semicolon] (fun f e ws => sub (.field f) e ws) fs ws) :
      Rule longest sub (.primary (.ofShape (.object () fs))) .closed
        ((.lbrace, l) :: (ws ++ [(.rbrace, r)]))
  | tuple {ts ws l r} (h : Listed [.comma] (fun t e ws => sub (.type t) e ws) ts ws) :
      Rule longest sub (.primary (.ofShape (.tuple ts))) .closed
        ((.lbracket, l) :: (ws ++ [(.rbracket, r)]))
  | function {args result ws e us l r a}
      (h : Listed [.comma] (fun t e ws => sub (.argument t) e ws) args ws)
      (hthis : ∀ first ∈ args.head?, first.label ≠ some "this")
      (hresult : sub (.type result) e us) :
      Rule longest sub (.primary (.ofShape (.function args none result))) .arrow
        ((.lparen, l) :: (ws ++ (.rparen, r) :: (.arrow, a) :: us))
  | method {receiver args result ws e us l r a}
      (h : Listed [.comma] (fun t e ws => sub (.argument t) e ws) (receiver :: args) ws)
      (hthis : receiver.label = some "this") (hresult : sub (.type result) e us) :
      Rule longest sub (.primary (.ofShape (.function args (some receiver) result))) .arrow
        ((.lparen, l) :: (ws ++ (.rparen, r) :: (.arrow, a) :: us))
  | parenthesis {t e ws b comma l r} (h : sub (.type t) e ws) (hc : Maybe .comma b comma) :
      Rule longest sub (.primary t) .closed ((.lparen, l) :: (ws ++ (comma ++ [(.rparen, r)])))
  | field {key e ks optional question c t e' ws} (hk : Key key e ks)
      (hq : Maybe .question optional question) (ht : sub (.type t) e' ws) :
      Rule longest sub (.field ⟨key, optional, t⟩) .closed (ks ++ (question ++ (.colon, c) :: ws))
  | argument {t e ws} (h : sub (.type t) e ws) : Rule longest sub (.argument t) .closed ws
  | labelled {label e ns optional question c t e' ws} (hn : Name label e ns)
      (hq : Maybe .question optional question) (ht : sub (.type t) e' ws) :
      Rule longest sub (.argument (t.withLabel label optional)) .closed
        (ns ++ (question ++ (.colon, c) :: ws))
  | imports {names ws dependency k l r f} (h : Listed [.comma] Name names ws) :
      Rule longest sub (.statement (.imports ⟨dependency, names.map .literal⟩)) .closed
        ((.importKeyword, k) :: (.lbrace, l) ::
          (ws ++ [(.rbrace, r), (.fromKeyword, f), (.string, dependency)]))
  | declares {name e ns params ps t e' ws k c} (hn : Name name e ns) (hp : Params params ps)
      (ht : sub (.type t) e' ws) :
      Rule longest sub (.statement (.declares ⟨name, params.map .literal, t⟩)) .closed
        ((.typeKeyword, k) :: (ns ++ (ps ++ (.colon, c) :: ws)))
  | assigns {name e ns t e' ws c} (hn : Name name e ns) (ht : sub (.type t) e' ws) :
      Rule longest sub (.statement (.assigns ⟨name, t⟩)) .closed (ns ++ (.colon, c) :: ws)
  | nil : Rule longest sub (.header []) .closed []
  | cons {s e ws b semicolon ss e' us} (h : sub (.statement s) e ws)
      (hs : Maybe .semicolon b semicolon) (rest : sub (.header ss) e' us) :
      Rule longest sub (.header (s :: ss)) .closed (ws ++ (semicolon ++ us))

/-- The words have a derivation with the given tree: a rule gives it from phrases that have one. -/
inductive Derives (longest : Bool) : Forms Phrase
  | rule {sub : Forms Phrase} {p e ws}
      (hsub : ∀ p e ws, sub p e ws → Derives longest p e ws) (h : Rule longest sub p e ws) :
      Derives longest p e ws

variable {longest : Bool} {separator : TokenKind} {separators : List TokenKind}
  {item item' : Forms α} {as bs : List α} {e e' : Ending} {ws us : List Word}

theorem Derives.of {p : Phrase} (h : Rule longest (Derives longest) p e ws) :
    Derives longest p e ws :=
  .rule (fun _ _ _ h => h) h

/-! ### Lists of items -/

theorem Members.imp {longest' : Bool} (hl : longest' = true → longest = true)
    (hi : ∀ a e ws, item a e ws → item' a e ws) (h : Members longest separator item as e ws) :
    Members longest' separator item' as e ws := by
  induction h with
  | last h => exact .last (hi _ _ _ h)
  | more h hc _ ih => exact .more (hi _ _ _ h) (fun h => hc (hl h)) ih

theorem Members.append (h : Members longest separator item as e ws)
    (hl : longest = true → e = .closed) (h' : Members longest separator item bs e' us)
    (v : String) :
    Members longest separator item (as ++ bs) e' (ws ++ (separator, v) :: us) := by
  induction h with
  | last h => exact .more h hl h'
  | more h hc _ ih =>
    rw [List.append_assoc, List.cons_append]
    exact .more h hc (ih hl)

/-- What makes the last item of a list longer makes the list longer. -/
theorem Members.extend {tail : List Word} (h : Members longest separator item as e ws)
    (hi : ∀ a e ws, item a e ws → item' a e ws)
    (hlast : ∀ a ws, item a e ws → ∃ a', item' a' e' (ws ++ tail)) :
    ∃ as', Members longest separator item' as' e' (ws ++ tail) := by
  induction h with
  | last h =>
    obtain ⟨a', h'⟩ := hlast _ _ h
    exact ⟨[a'], .last h'⟩
  | more h hc _ ih =>
    obtain ⟨as', h'⟩ := ih hlast
    rw [List.append_assoc, List.cons_append]
    exact ⟨_, .more (hi _ _ _ h) hc h'⟩

theorem Members.ne_nil (h : Members longest separator item as e ws) : as ≠ [] := by
  cases h <;> simp

theorem Listed.imp (hi : ∀ a e ws, item a e ws → item' a e ws)
    (h : Listed separators item as ws) : Listed separators item' as ws := by
  induction h with
  | nil => exact .nil
  | last h => exact .last (hi _ _ _ h)
  | more h hk _ ih => exact .more (hi _ _ _ h) hk ih

theorem Listed.exists {item' : Forms α} (hi : ∀ a e ws, item a e ws → ∃ a' e', item' a' e' ws)
    (h : Listed separators item as ws) : ∃ as', Listed separators item' as' ws := by
  induction h with
  | nil => exact ⟨[], .nil⟩
  | last h =>
    obtain ⟨a', e', h'⟩ := hi _ _ _ h
    exact ⟨[a'], .last h'⟩
  | more h hk _ ih =>
    obtain ⟨a', e', h'⟩ := hi _ _ _ h
    obtain ⟨as', hrest⟩ := ih
    exact ⟨a' :: as', .more h' hk hrest⟩

theorem Members.bounded (h : Members longest separator item as e ws) :
    Members longest separator (fun a e us => item a e us ∧ us.length ≤ ws.length) as e ws := by
  induction h with
  | last h => exact .last ⟨h, le_rfl⟩
  | more h hc _ ih =>
    refine .more ⟨h, by simp⟩ hc (ih.imp id fun _ _ _ h => ⟨h.1, h.2.trans ?_⟩)
    simp only [List.length_append, List.length_cons]
    omega

theorem Listed.bounded (h : Listed separators item as ws) :
    Listed separators (fun a e us => item a e us ∧ us.length ≤ ws.length) as ws := by
  induction h with
  | nil => exact .nil
  | last h => exact .last ⟨h, le_rfl⟩
  | more h hk _ ih =>
    refine .more ⟨h, by simp⟩ hk (ih.imp fun _ _ _ h => ⟨h.1, h.2.trans ?_⟩)
    simp only [List.length_append, List.length_cons]
    omega

/-- Items that each have a derivation, of which only the last may end with the result of an arrow.
-/
theorem Members.of_map {words : α → List Word} (arrow : α → Bool) (v : String) (hne : as ≠ [])
    (h : ∀ a ∈ as, ∃ e, (arrow a = false → e = .closed) ∧ item a e (words a))
    (hl : longest = true → ∀ a ∈ as.dropLast, arrow a = false) :
    ∃ e, ((as.getLast?.map arrow).getD false = false → e = .closed) ∧
      Members longest separator item as e (List.intercalate [(separator, v)] (as.map words)) := by
  induction as with
  | nil => exact absurd rfl hne
  | cons a as ih =>
    obtain ⟨⟨e, hclosed, ha⟩, has⟩ := List.forall_mem_cons.1 h
    cases as with
    | nil => exact ⟨e, by simpa using hclosed, by simpa using .last ha⟩
    | cons b bs =>
      rw [List.dropLast_cons_cons] at hl
      obtain ⟨e', hclosed', hrest⟩ := ih (List.cons_ne_nil _ _) has fun hlong c hc =>
        hl hlong c (List.mem_cons_of_mem _ hc)
      refine ⟨e', by simpa using hclosed', ?_⟩
      simp only [List.map_cons, List.intercalate_cons_cons, List.append_assoc] at hrest ⊢
      exact .more ha (fun hlong => hclosed (hl hlong a List.mem_cons_self)) hrest

theorem Listed.of_map {words : α → List Word} {kind : TokenKind} (v : String)
    (hk : kind ∈ separators) (h : ∀ a ∈ as, ∃ e, item a e (words a)) :
    Listed separators item as (List.intercalate [(kind, v)] (as.map words)) := by
  induction as with
  | nil => exact .nil
  | cons a as ih =>
    obtain ⟨⟨e, ha⟩, has⟩ := List.forall_mem_cons.1 h
    cases as with
    | nil => simpa using .last ha
    | cons b bs =>
      have hrest := ih has
      simp only [List.map_cons, List.intercalate_cons_cons, List.append_assoc] at hrest ⊢
      exact .more ha hk hrest

theorem Rule.imp {longest' : Bool} {sub sub' : Forms Phrase} {p : Phrase}
    (hl : longest' = true → longest = true) (hs : ∀ p e ws, sub p e ws → sub' p e ws)
    (h : Rule longest sub p e ws) : Rule longest' sub' p e ws := by
  cases h with
  | type h => exact .type (hs _ _ _ h)
  | union h hlen => exact .union (h.imp hl fun _ => hs _) hlen
  | member h => exact .member (hs _ _ _ h)
  | intersection h hlen => exact .intersection (h.imp hl fun _ => hs _) hlen
  | boolean h => exact .boolean h
  | named h => exact .named h
  | generic h hts => exact .generic h (hts.imp id fun _ => hs _)
  | string => exact .string
  | number => exact .number
  | object h => exact .object (h.imp fun _ => hs _)
  | tuple h => exact .tuple (h.imp fun _ => hs _)
  | function h hthis hresult => exact .function (h.imp fun _ => hs _) hthis (hs _ _ _ hresult)
  | method h hthis hresult => exact .method (h.imp fun _ => hs _) hthis (hs _ _ _ hresult)
  | parenthesis h hc => exact .parenthesis (hs _ _ _ h) hc
  | field hk hq ht => exact .field hk hq (hs _ _ _ ht)
  | argument h => exact .argument (hs _ _ _ h)
  | labelled hn hq ht => exact .labelled hn hq (hs _ _ _ ht)
  | imports h => exact .imports h
  | declares hn hp ht => exact .declares hn hp (hs _ _ _ ht)
  | assigns hn ht => exact .assigns hn (hs _ _ _ ht)
  | nil => exact .nil
  | cons h hsemi rest => exact .cons (hs _ _ _ h) hsemi (hs _ _ _ rest)

/-- A derivation with the longest results is a derivation. -/
theorem Derives.any {p : Phrase} (h : Derives true p e ws) : Derives false p e ws := by
  induction h with
  | rule _ h ih => exact .rule ih (h.imp nofun fun _ _ _ h => h)

theorem Members.derives_type {ts : List TypeExpr}
    (h : Members longest .pipe (fun t => Derives longest (.intersection t)) ts e ws) :
    Derives longest (.type (Parse.unionOf ts)) e ws := by
  cases h with
  | last h => exact .of (.type h)
  | more h hc rest =>
    obtain ⟨t, ts, rfl⟩ := List.exists_cons_of_ne_nil rest.ne_nil
    exact .of (.union (.more h hc rest) (by simp))

theorem Members.derives_intersection {ts : List TypeExpr}
    (h : Members longest .amp (fun t => Derives longest (.primary t)) ts e ws) :
    Derives longest (.intersection (Parse.intersectionOf ts)) e ws := by
  cases h with
  | last h => exact .of (.member h)
  | more h hc rest =>
    obtain ⟨t, ts, rfl⟩ := List.exists_cons_of_ne_nil rest.ne_nil
    exact .of (.intersection (.more h hc rest) (by simp))

theorem Listed.derives_function {args : List TypeExpr} {result : TypeExpr} {l r a : String}
    (hargs : Listed [.comma] (fun t => Derives longest (.argument t)) args ws)
    (hresult : Derives longest (.type result) e us) :
    Derives longest (.primary (Parse.functionOf args result)) .arrow
      ((.lparen, l) :: (ws ++ (.rparen, r) :: (.arrow, a) :: us)) := by
  cases args with
  | nil => exact .of (.function hargs nofun hresult)
  | cons first others =>
    simp only [Parse.functionOf]
    split
    · exact .of (.method hargs ‹_› hresult)
    · refine .of (.function hargs ?_ hresult)
      rintro t ⟨⟩
      assumption

theorem Derives.type_of_argument {t : TypeExpr} (h : Derives longest (.argument t) e ws)
    (hlabel : t.label = none) : ∃ e', Derives longest (.type t) e' ws := by
  cases h with
  | rule hsub h =>
    cases h with
    | argument h => exact ⟨_, hsub _ _ _ h⟩
    | labelled => cases hlabel

/-- A single argument without a label is a type in parentheses. -/
theorem Listed.derives_parenthesis {t : TypeExpr} {l r : String}
    (h : Listed [.comma] (fun t => Derives longest (.argument t)) [t] ws)
    (hlabel : t.label = none) :
    Derives longest (.primary t) .closed ((.lparen, l) :: (ws ++ [(.rparen, r)])) := by
  cases h with
  | last h =>
    obtain ⟨e, h⟩ := h.type_of_argument hlabel
    exact .of (.parenthesis h .absent)
  | more h hk rest =>
    cases rest
    obtain rfl := List.mem_singleton.1 hk
    obtain ⟨e, h⟩ := h.type_of_argument hlabel
    rw [List.append_assoc]
    exact .of (.parenthesis h .present)

/-! ### Every text that has a derivation has one with the longest results -/

/-- What can follow a type and make it longer. -/
inductive Tail : List Word → Prop
  | pipe {v ts e us} (h : Members true .pipe (fun t => Derives true (.intersection t)) ts e us) :
      Tail ((.pipe, v) :: us)
  | amp {v ts e us} (h : Members true .amp (fun t => Derives true (.primary t)) ts e us) :
      Tail ((.amp, v) :: us)

/-- A type goes on with any tail.  A phrase that ends with the result of an arrow leaves the tail to
that result, and an intersection that does not can still go on with an `&`. -/
def Absorbs : Phrase → Ending → List Word → Prop
  | .type _, _, ws => ∀ tail, Tail tail → ∃ t e, Derives true (.type t) e (ws ++ tail)
  | .intersection _, .arrow, ws =>
    ∀ tail, Tail tail → ∃ t, Derives true (.intersection t) .arrow (ws ++ tail)
  | .intersection _, .closed, ws => ∀ v ts e us,
    Members true .amp (fun t => Derives true (.primary t)) ts e us →
      ∃ t, Derives true (.intersection t) e (ws ++ (.amp, v) :: us)
  | .primary _, .arrow, ws =>
    ∀ tail, Tail tail → ∃ t, Derives true (.primary t) .arrow (ws ++ tail)
  | _, _, _ => True

theorem Members.absorbs_type {ts : List TypeExpr} (t : TypeExpr)
    (h : Members true .pipe (fun t e ws =>
      Derives true (.intersection t) e ws ∧ Absorbs (.intersection t) e ws) ts e ws) :
    Absorbs (.type t) e ws := by
  intro tail htail
  have hleft : Members true .pipe (fun t => Derives true (.intersection t)) ts e ws :=
    h.imp id fun _ _ _ h => h.1
  cases e with
  | arrow =>
    obtain ⟨ts', h'⟩ := h.extend (fun _ _ _ h => h.1) fun _ _ h => h.2 tail htail
    exact ⟨_, _, h'.derives_type⟩
  | closed =>
    cases htail with
    | pipe htail => exact ⟨_, _, (hleft.append (fun _ => rfl) htail _).derives_type⟩
    | amp htail =>
      obtain ⟨ts', h'⟩ := h.extend (fun _ _ _ h => h.1) fun _ _ h => h.2 _ _ _ _ htail
      exact ⟨_, _, h'.derives_type⟩

theorem Members.absorbs_intersection {ts : List TypeExpr} (t : TypeExpr)
    (h : Members true .amp (fun t e ws =>
      Derives true (.primary t) e ws ∧ Absorbs (.primary t) e ws) ts e ws) :
    Absorbs (.intersection t) e ws := by
  cases e with
  | arrow =>
    intro tail htail
    obtain ⟨ts', h'⟩ := h.extend (fun _ _ _ h => h.1) fun _ _ h => h.2 tail htail
    exact ⟨_, h'.derives_intersection⟩
  | closed =>
    intro v ts' e' us htail
    have hleft : Members true .amp (fun t => Derives true (.primary t)) ts .closed ws :=
      h.imp id fun _ _ _ h => h.1
    exact ⟨_, (hleft.append (fun _ => rfl) htail v).derives_intersection⟩

theorem Derives.absorbs {p : Phrase} (h : Derives true p e ws) : Absorbs p e ws := by
  induction h with
  | @rule sub p e ws hsub h ih =>
    cases h with
    | type h => exact Members.absorbs_type _ (.last ⟨hsub _ _ _ h, ih _ _ _ h⟩)
    | union h _ =>
      exact Members.absorbs_type _ (h.imp id fun _ _ _ h => ⟨hsub _ _ _ h, ih _ _ _ h⟩)
    | member h => exact Members.absorbs_intersection _ (.last ⟨hsub _ _ _ h, ih _ _ _ h⟩)
    | intersection h _ =>
      exact Members.absorbs_intersection _ (h.imp id fun _ _ _ h => ⟨hsub _ _ _ h, ih _ _ _ h⟩)
    | function hargs hthis hresult =>
      intro tail htail
      obtain ⟨result', e', h'⟩ := ih _ _ _ hresult tail htail
      simp only [List.cons_append, List.append_assoc]
      exact ⟨_, .of (.function (hargs.imp fun _ => hsub _) hthis h')⟩
    | method hargs hthis hresult =>
      intro tail htail
      obtain ⟨result', e', h'⟩ := ih _ _ _ hresult tail htail
      simp only [List.cons_append, List.append_assoc]
      exact ⟨_, .of (.method (hargs.imp fun _ => hsub _) hthis h')⟩
    | _ => trivial

/-- Some tree of the same kind of phrase has a derivation with the longest results. -/
def HasLongest : Phrase → List Word → Prop
  | .type _, ws => ∃ t e, Derives true (.type t) e ws
  | .intersection _, ws => ∃ t e, Derives true (.intersection t) e ws
  | .primary _, ws => ∃ t e, Derives true (.primary t) e ws
  | .field _, ws => ∃ f e, Derives true (.field f) e ws
  | .argument _, ws => ∃ t e, Derives true (.argument t) e ws
  | .statement _, ws => ∃ s e, Derives true (.statement s) e ws
  | .header _, ws => ∃ ss e, Derives true (.header ss) e ws

theorem Members.exists {longest' : Bool}
    (hi : ∀ a e ws, item a e ws → ∃ a' e', item' a' e' ws)
    (habsorb : longest' = true → ∀ a as e v ws us, item' a .arrow ws →
      Members longest' separator item' as e us →
        ∃ a', item' a' .arrow (ws ++ (separator, v) :: us))
    (h : Members longest separator item as e ws) :
    ∃ as' e', Members longest' separator item' as' e' ws := by
  induction h with
  | last h =>
    obtain ⟨a', e', h'⟩ := hi _ _ _ h
    exact ⟨[a'], e', .last h'⟩
  | more h _ _ ih =>
    obtain ⟨a', e', h'⟩ := hi _ _ _ h
    obtain ⟨as', e'', hrest⟩ := ih
    by_cases hl : longest' = true → e' = .closed
    · exact ⟨a' :: as', e'', .more h' hl hrest⟩
    · -- the result of the arrow takes all that follows
      obtain ⟨hlong, he⟩ := Classical.not_imp.1 hl
      obtain rfl : e' = .arrow := by cases e' <;> simp_all
      obtain ⟨a'', h''⟩ := habsorb hlong _ _ _ _ _ _ h' hrest
      exact ⟨[a''], .arrow, .last h''⟩

/-- **Every derivation can be turned into one with the longest results**, of the same words. -/
theorem Derives.exists_longest {p : Phrase} (h : Derives longest p e ws) : HasLongest p ws := by
  induction h with
  | @rule sub p e ws _ h ih =>
    cases h with
    | type h =>
      obtain ⟨t, e, h⟩ := ih _ _ _ h
      exact ⟨t, e, .of (.type h)⟩
    | union h _ =>
      -- a member that ends with the result of an arrow takes in all members behind it, so there may
      -- be only one member left, and the tree is then no union
      obtain ⟨ts, e, h⟩ :
          ∃ ts e, Members true .pipe (fun t => Derives true (.intersection t)) ts e ws :=
        h.exists (fun t => ih _) fun _ _ _ _ _ _ _ h htail => h.absorbs _ (.pipe htail)
      exact ⟨_, e, h.derives_type⟩
    | member h =>
      obtain ⟨t, e, h⟩ := ih _ _ _ h
      exact ⟨t, e, .of (.member h)⟩
    | intersection h _ =>
      obtain ⟨ts, e, h⟩ :
          ∃ ts e, Members true .amp (fun t => Derives true (.primary t)) ts e ws :=
        h.exists (fun t => ih _) fun _ _ _ _ _ _ _ h htail => h.absorbs _ (.amp htail)
      exact ⟨_, e, h.derives_intersection⟩
    | boolean h => exact ⟨_, _, .of (.boolean h)⟩
    | named h => exact ⟨_, _, .of (.named h)⟩
    | @generic _ _ _ ws _ _ h hts =>
      obtain ⟨ts, e, hts⟩ :
          ∃ ts e, Members false .comma (fun t => Derives true (.type t)) ts e ws :=
        hts.exists (fun t => ih _) nofun
      exact ⟨_, _, .of (.generic h hts)⟩
    | string => exact ⟨_, _, .of .string⟩
    | number => exact ⟨_, _, .of .number⟩
    | object h =>
      obtain ⟨fs, h⟩ := h.exists fun f => ih _
      exact ⟨_, _, .of (.object h)⟩
    | tuple h =>
      obtain ⟨ts, h⟩ := h.exists fun t => ih _
      exact ⟨_, _, .of (.tuple h)⟩
    | function hargs _ hresult =>
      -- whether the first argument is labelled `this` is asked anew, of the trees found here
      obtain ⟨args, hargs⟩ := hargs.exists fun t => ih _
      obtain ⟨result, e, hresult⟩ := ih _ _ _ hresult
      exact ⟨_, _, hargs.derives_function hresult⟩
    | method hargs _ hresult =>
      obtain ⟨args, hargs⟩ := hargs.exists fun t => ih _
      obtain ⟨result, e, hresult⟩ := ih _ _ _ hresult
      exact ⟨_, _, hargs.derives_function hresult⟩
    | parenthesis h hc =>
      obtain ⟨t, e, h⟩ := ih _ _ _ h
      exact ⟨_, _, .of (.parenthesis h hc)⟩
    | field hk hq ht =>
      obtain ⟨t, e, ht⟩ := ih _ _ _ ht
      exact ⟨_, _, .of (.field hk hq ht)⟩
    | argument h =>
      obtain ⟨t, e, h⟩ := ih _ _ _ h
      exact ⟨_, _, .of (.argument h)⟩
    | labelled hn hq ht =>
      obtain ⟨t, e, ht⟩ := ih _ _ _ ht
      exact ⟨_, _, .of (.labelled hn hq ht)⟩
    | imports h => exact ⟨_, _, .of (.imports h)⟩
    | declares hn hp ht =>
      obtain ⟨t, e, ht⟩ := ih _ _ _ ht
      exact ⟨_, _, .of (.declares hn hp ht)⟩
    | assigns hn ht =>
      obtain ⟨t, e, ht⟩ := ih _ _ _ ht
      exact ⟨_, _, .of (.assigns hn ht)⟩
    | nil => exact ⟨_, _, .of .nil⟩
    | cons h hs rest =>
      obtain ⟨s, e, h⟩ := ih _ _ _ h
      obtain ⟨ss, e', rest⟩ := ih _ _ _ rest
      exact ⟨_, _, .of (.cons h hs rest)⟩

/-! ### How phrases start -/

/-- A type, field, argument or statement can start with a token of the class. -/
def starts : TokenKind → Bool
  | .name | .typeKeyword | .importKeyword | .fromKeyword => true
  | .string | .number | .lbrace | .lbracket | .lparen => true
  | _ => false

/-- The words start with a token that a phrase can start with. -/
def Started (ws : List Word) : Prop := ∃ w us, ws = w :: us ∧ starts w.1 = true

theorem Started.append (h : Started ws) (us : List Word) : Started (ws ++ us) := by
  obtain ⟨w, vs, rfl, hw⟩ := h
  exact ⟨w, vs ++ us, rfl, hw⟩

theorem Started.length_pos (h : Started ws) : 0 < ws.length := by
  obtain ⟨w, us, rfl, -⟩ := h
  exact Nat.succ_pos _

theorem Name.eq {v : String} (h : Name v e ws) : ∃ kind, kind.isName = true ∧ ws = [(kind, v)] := by
  cases h <;> exact ⟨_, rfl, rfl⟩

theorem Name.started {v : String} (h : Name v e ws) : Started ws := by
  cases h <;> exact ⟨_, _, rfl, rfl⟩

theorem Key.started {v : String} (h : Key v e ws) : Started ws := by
  cases h with
  | name h => exact h.started
  | string => exact ⟨_, _, rfl, rfl⟩

theorem Members.started (hi : ∀ a e ws, item a e ws → Started ws)
    (h : Members longest separator item as e ws) : Started ws := by
  cases h with
  | last h => exact hi _ _ _ h
  | more h _ _ => exact (hi _ _ _ h).append _

theorem Derives.started {p : Phrase} (h : Derives longest p e ws) (hp : p.isHeader = false) :
    Started ws := by
  induction h with
  | rule _ h ih =>
    cases h with
    | type h => exact ih _ _ _ h rfl
    | union h _ => exact h.started fun t e ws h => ih (.intersection t) e ws h rfl
    | member h => exact ih _ _ _ h rfl
    | intersection h _ => exact h.started fun t e ws h => ih (.primary t) e ws h rfl
    | field hk _ _ => exact hk.started.append _
    | argument h => exact ih _ _ _ h rfl
    | labelled hn _ _ => exact hn.started.append _
    | assigns hn _ => exact hn.started.append _
    | nil => cases hp
    | cons => cases hp
    | _ => exact ⟨_, _, rfl, rfl⟩

theorem Derives.header_started {ss : List Statement} (h : Derives longest (.header ss) e ws) :
    ws = [] ∨ Started ws := by
  cases h with
  | rule hsub h =>
    cases h with
    | nil => exact .inl rfl
    | cons h _ _ => exact .inr (((hsub _ _ _ h).started rfl).append _)

/-- The words do not start with a label: what follows a name at their start is neither a `:` nor a
`?`. -/
def Unlabelled (ws : List Word) : Prop :=
  ∀ w u us, ws = w :: u :: us → w.1.isName = true → u.1 ≠ .colon ∧ u.1 ≠ .question

theorem Unlabelled.append (hstart : Started ws) (h : Unlabelled ws) {w : Word}
    (hw : w.1 ≠ .colon ∧ w.1 ≠ .question) (us : List Word) : Unlabelled (ws ++ w :: us) := by
  obtain ⟨first, others, rfl, -⟩ := hstart
  intro x y zs heq hx
  cases others with
  | nil =>
    cases heq
    exact hw
  | cons second others =>
    cases heq
    exact h _ _ _ rfl hx

theorem Members.unlabelled (hi : ∀ a e ws, item a e ws → Started ws ∧ Unlabelled ws)
    (hs : separator ≠ .colon ∧ separator ≠ .question)
    (h : Members longest separator item as e ws) : Unlabelled ws := by
  cases h with
  | last h => exact (hi _ _ _ h).2
  | more h _ _ => exact .append (hi _ _ _ h).1 (hi _ _ _ h).2 hs _

/-- No type starts with a label. -/
theorem Derives.unlabelled {p : Phrase} (h : Derives longest p e ws) (hp : p.isType = true) :
    Unlabelled ws := by
  induction h with
  | rule hsub h ih =>
    cases h with
    | type h => exact ih _ _ _ h rfl
    | union h _ =>
      refine h.unlabelled (fun t e ws h => ?_) (by decide)
      exact ⟨(hsub (.intersection t) e ws h).started rfl, ih (.intersection t) e ws h rfl⟩
    | member h => exact ih _ _ _ h rfl
    | intersection h _ =>
      refine h.unlabelled (fun t e ws h => ?_) (by decide)
      exact ⟨(hsub (.primary t) e ws h).started rfl, ih (.primary t) e ws h rfl⟩
    | generic =>
      rintro w u us heq -
      cases heq
      exact ⟨nofun, nofun⟩
    | boolean | named | string | number =>
      rintro w u us heq -
      cases heq
    | object | tuple | function | method | parenthesis =>
      rintro w u us heq hname
      obtain ⟨rfl, -⟩ := List.cons.inj heq
      cases hname
    | field | argument | labelled | imports | declares | assigns | nil | cons => cases hp

/-- Only arguments have labels. -/
theorem Derives.label_eq_none {p : Phrase} (h : Derives longest p e ws) :
    ∀ t, p = .type t ∨ p = .intersection t ∨ p = .primary t →
      t.label = none ∧ t.optional = false := by
  induction h with
  | rule _ h ih =>
    rintro t (rfl | rfl | rfl)
    · cases h with
      | type h => exact ih _ _ _ h t (.inr (.inl rfl))
      | union => exact ⟨rfl, rfl⟩
    · cases h with
      | member h => exact ih _ _ _ h t (.inr (.inr rfl))
      | intersection => exact ⟨rfl, rfl⟩
    · cases h with
      | parenthesis h => exact ih _ _ _ h t (.inl rfl)
      | _ => exact ⟨rfl, rfl⟩

end Grammar

end SigCheck
