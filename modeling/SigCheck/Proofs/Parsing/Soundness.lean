import SigCheck.Proofs.Grammar

/-!
# What is read has a derivation

Parser by parser, over a parser for the types inside a type: what a parser of
`SigCheck.Header.Parse` takes has a derivation with the longest results, and the next token is not
one that would make it longer (`Parse.Sound`).  `Parse.statements_sound` says it of whole headers.
-/

namespace SigCheck

open Grammar

namespace Parse

variable {α β : Type}

/-! ### Steps of parsers -/

theorem bind_eq_ok {p : Parse α} {f : α → Parse β} {ts rest : List Token} {b : β} :
    (p >>= f) ts = .ok b rest ↔ ∃ a mid, p ts = .ok a mid ∧ f a mid = .ok b rest := by
  simp only [bind]
  cases p ts with
  | ok a mid => exact ⟨fun h => ⟨a, mid, rfl, h⟩, by rintro ⟨_, _, ⟨⟩, h⟩; exact h⟩
  | fail expected mid => simp

theorem pure_eq_ok {a b : α} {ts rest : List Token} :
    (pure a : Parse α) ts = .ok b rest ↔ a = b ∧ ts = rest := by
  change Reply.ok a ts = .ok b rest ↔ _
  simp

theorem token_eq_ok {kind : TokenKind} {ts rest : List Token} {t : Token} :
    token kind ts = .ok t rest ↔ ts = t :: rest ∧ t.kind = kind := by
  cases ts with
  | nil => simp [token]
  | cons u us =>
    simp only [token, List.cons.injEq]
    split
    · rename_i h
      constructor
      · rintro ⟨⟩
        exact ⟨⟨rfl, rfl⟩, h⟩
      · rintro ⟨⟨rfl, rfl⟩, -⟩
        rfl
    · rename_i h
      constructor
      · rintro ⟨⟩
      · rintro ⟨⟨rfl, rfl⟩, h'⟩
        exact absurd h' h

theorem accept_eq_true {kind : TokenKind} {ts rest : List Token}
    (h : accept kind ts = .ok true rest) : ∃ t, ts = t :: rest ∧ t.kind = kind := by
  cases ts with
  | nil => cases h
  | cons u us =>
    simp only [accept] at h
    split at h
    · cases h
      exact ⟨u, rfl, ‹_›⟩
    · cases h

theorem accept_eq_false {kind : TokenKind} {ts rest : List Token} (hk : kind ≠ .eof)
    (h : accept kind ts = .ok false rest) : ts = rest ∧ nextKind rest ≠ kind := by
  cases ts with
  | nil =>
    cases h
    exact ⟨rfl, hk.symm⟩
  | cons u us =>
    simp only [accept] at h
    split at h
    · cases h
    · cases h
      exact ⟨rfl, ‹_›⟩

theorem name_eq_ok {ts rest : List Token} {v : String} (h : name ts = .ok v rest) :
    ∃ t, ts = t :: rest ∧ t.kind.isName = true ∧ t.value = v := by
  cases ts with
  | nil => cases h
  | cons u us =>
    simp only [name] at h
    split at h
    · cases h
      exact ⟨u, rfl, ‹_›, rfl⟩
    · cases h

/-! ### What parsers take has a derivation -/

/-- What the parser takes has a derivation, and the next token is one that may follow. -/
def Sound (p : Parse α) (forms : Forms α) (follow : Ending → TokenKind → Prop) : Prop :=
  ∀ ts a rest, p ts = .ok a rest →
    ∃ used e, ts = used ++ rest ∧ forms a e (used.map Token.word) ∧ follow e (nextKind rest)

/-- No token follows that would make the result of an arrow longer. -/
def Stops (e : Ending) (kind : TokenKind) : Prop := e = .arrow → kind ≠ .pipe ∧ kind ≠ .amp

theorem name_of_isName {t : Token} (h : t.kind.isName = true) : Name t.value .closed [t.word] := by
  obtain ⟨kind, span, v⟩ := t
  cases kind with
  | name => exact .name
  | typeKeyword => exact .typeKeyword
  | importKeyword => exact .importKeyword
  | fromKeyword => exact .fromKeyword
  | _ => cases h

theorem name_sound : Sound name Name fun _ _ => True := by
  intro ts v rest h
  obtain ⟨t, rfl, hk, rfl⟩ := name_eq_ok h
  exact ⟨[t], .closed, rfl, name_of_isName hk, trivial⟩

variable {item : Parse α} {forms : Forms α} {follow : Ending → TokenKind → Prop}
  {separator close : TokenKind}

theorem following_sound {longest : Bool} (hitem : Sound item forms follow)
    (hs : separator ≠ .eof) (hlong : longest = true → ∀ e, follow e separator → e = .closed)
    (n : Nat) : ∀ ts as rest, ts.length ≤ n → following separator item n ts = .ok as rest →
      nextKind rest ≠ separator ∧ (as = [] ∧ ts = rest ∨ ∃ t used e, ts = t :: used ++ rest ∧
        t.kind = separator ∧ Members longest separator forms as e (used.map Token.word) ∧
        follow e (nextKind rest)) := by
  induction n with
  | zero =>
    intro ts as rest hn h
    obtain rfl := List.length_eq_zero_iff.1 (Nat.le_zero.1 hn)
    obtain ⟨rfl, rfl⟩ := pure_eq_ok.1 h
    exact ⟨hs.symm, .inl ⟨rfl, rfl⟩⟩
  | succ n ih =>
    intro ts as rest hn h
    obtain ⟨b, mid, haccept, hmore⟩ := bind_eq_ok.1 h
    cases b with
    | false =>
      obtain ⟨rfl, hne⟩ := accept_eq_false hs haccept
      obtain ⟨rfl, rfl⟩ := pure_eq_ok.1 hmore
      exact ⟨hne, .inl ⟨rfl, rfl⟩⟩
    | true =>
      obtain ⟨t, rfl, ht⟩ := accept_eq_true haccept
      obtain ⟨a, mid', ha, hothers⟩ := bind_eq_ok.1 hmore
      obtain ⟨as', rest', has, hdone⟩ := bind_eq_ok.1 hothers
      obtain ⟨rfl, rfl⟩ := pure_eq_ok.1 hdone
      obtain ⟨used, e, rfl, hused, hfollow⟩ := hitem _ _ _ ha
      have hn' : mid'.length ≤ n := by
        simp only [List.length_cons, List.length_append] at hn
        omega
      obtain ⟨hne, ⟨rfl, rfl⟩ | ⟨t', used', e', rfl, ht', hmem, hfollow'⟩⟩ := ih _ _ _ hn' has
      · exact ⟨hne, .inr ⟨t, used, e, rfl, ht, .last hused, hfollow⟩⟩
      · refine ⟨hne, .inr ⟨t, used ++ t' :: used', e', by simp, ht, ?_, hfollow'⟩⟩
        rw [List.map_append, List.map_cons, Token.word, ht']
        exact .more hused (fun hl => hlong hl e (ht' ▸ hfollow)) hmem

theorem separated_sound (longest : Bool) (separator : TokenKind)
    (hitem : Sound item forms follow)
    (hs : separator ≠ .eof) (hlong : longest = true → ∀ e, follow e separator → e = .closed) :
    Sound (separated separator item) (Members longest separator forms)
      fun e kind => follow e kind ∧ kind ≠ separator := by
  intro ts as rest h
  obtain ⟨a, mid, ha, hothers⟩ := bind_eq_ok.1 h
  obtain ⟨as', rest', has, hdone⟩ := bind_eq_ok.1 hothers
  obtain ⟨rfl, rfl⟩ := pure_eq_ok.1 hdone
  obtain ⟨used, e, rfl, hused, hfollow⟩ := hitem _ _ _ ha
  obtain ⟨hne, ⟨rfl, rfl⟩ | ⟨t, used', e', rfl, ht, hmem, hfollow'⟩⟩ :=
    following_sound hitem hs hlong _ _ _ _ le_rfl has
  · exact ⟨used, e, rfl, .last hused, hfollow, hne⟩
  · refine ⟨used ++ t :: used', e', by simp, ?_, hfollow', hne⟩
    rw [List.map_append, List.map_cons, Token.word, ht]
    exact .more hused (fun hl => hlong hl e (ht ▸ hfollow)) hmem

/-- What stands between the items of a list: one of the tokens `separators`, or nothing before
`close`. -/
def Separates (separators : List TokenKind) (close : TokenKind) (p : Parse Unit) : Prop :=
  ∀ ts u rest, p ts = .ok u rest →
    (∃ t, ts = t :: rest ∧ t.kind ∈ separators) ∨ (ts = rest ∧ nextKind rest = close)

theorem commaOr_separates (close : TokenKind) : Separates [.comma] close (commaOr close) := by
  intro ts u rest h
  simp only [commaOr] at h
  split at h
  · cases h
    exact .inr ⟨rfl, ‹_›⟩
  · obtain ⟨t, mid, ht, hdone⟩ := bind_eq_ok.1 h
    obtain ⟨-, rfl⟩ := pure_eq_ok.1 hdone
    obtain ⟨rfl, hk⟩ := token_eq_ok.1 ht
    exact .inl ⟨t, rfl, by simp [hk]⟩

theorem fieldEnd_separates : Separates [.comma, .semicolon] .rbrace fieldEnd := by
  intro ts u rest h
  cases ts with
  | nil => cases h
  | cons t ts =>
    simp only [fieldEnd] at h
    split at h
    · cases h
      exact .inl ⟨t, rfl, by simpa using ‹_ ∨ _›⟩
    · split at h
      · cases h
        exact .inr ⟨rfl, ‹_›⟩
      · cases h

variable {separators : List TokenKind} {between : Parse Unit}

theorem itemsUntil_of_nextKind {n : Nat} {ts rest : List Token} {as : List α}
    (hclose : nextKind ts = close) (h : itemsUntil close item between n ts = .ok as rest) :
    as = [] ∧ ts = rest := by
  cases n with
  | zero =>
    obtain ⟨rfl, rfl⟩ := pure_eq_ok.1 h
    exact ⟨rfl, rfl⟩
  | succ n =>
    simp only [itemsUntil, hclose, decide_true, Bool.or_true, if_true] at h
    cases h
    exact ⟨rfl, rfl⟩

theorem itemsUntil_sound (hitem : Sound item forms follow)
    (hbetween : Separates separators close between) (n : Nat) :
    ∀ ts as rest, itemsUntil close item between n ts = .ok as rest →
      ∃ used, ts = used ++ rest ∧ Listed separators forms as (used.map Token.word) := by
  induction n with
  | zero =>
    intro ts as rest h
    obtain ⟨rfl, rfl⟩ := pure_eq_ok.1 h
    exact ⟨[], rfl, .nil⟩
  | succ n ih =>
    intro ts as rest h
    simp only [itemsUntil] at h
    split at h
    · cases h
      exact ⟨[], rfl, .nil⟩
    · obtain ⟨a, mid, ha, hbehind⟩ := bind_eq_ok.1 h
      obtain ⟨u, mid', hu, hothers⟩ := bind_eq_ok.1 hbehind
      obtain ⟨as', rest', has, hdone⟩ := bind_eq_ok.1 hothers
      obtain ⟨rfl, rfl⟩ := pure_eq_ok.1 hdone
      obtain ⟨used, e, rfl, hused, -⟩ := hitem _ _ _ ha
      obtain ⟨t, rfl, hk⟩ | ⟨rfl, hclose⟩ := hbetween _ _ _ hu
      · obtain ⟨used', rfl, hrest⟩ := ih _ _ _ has
        refine ⟨used ++ t :: used', by simp, ?_⟩
        rw [List.map_append, List.map_cons]
        exact .more hused hk hrest
      · obtain ⟨rfl, rfl⟩ := itemsUntil_of_nextKind hclose has
        exact ⟨used, rfl, .last hused⟩

theorem enclosed_sound (hitem : Sound item forms follow)
    (hbetween : Separates separators close between) :
    Sound (enclosed close item between)
      (fun as _ ws => ∃ us v, ws = us ++ [(close, v)] ∧ Listed separators forms as us)
      fun _ _ => True := by
  intro ts as rest h
  obtain ⟨as', mid, has, hclose⟩ := bind_eq_ok.1 h
  obtain ⟨t, mid', ht, hdone⟩ := bind_eq_ok.1 hclose
  obtain ⟨rfl, rfl⟩ := pure_eq_ok.1 hdone
  obtain ⟨rfl, rfl⟩ := token_eq_ok.1 ht
  obtain ⟨used, rfl, hlisted⟩ := itemsUntil_sound hitem hbetween _ _ _ _ has
  exact ⟨used ++ [t], .closed, by simp, ⟨_, t.value, by simp [Token.word], hlisted⟩, trivial⟩

/-! Sequences of parsers, each over the words that were taken before it. -/

section sequences

variable {p : Parse α} {f : α → Parse β} {forms' : Forms β}
  {follow' : Ending → TokenKind → Prop}

theorem Sound.bind (hp : Sound p forms follow)
    (hf : ∀ a e us, forms a e us →
      Sound (f a) (fun b e' vs => forms' b e' (us ++ vs)) follow') :
    Sound (p >>= f) forms' follow' := by
  intro ts b rest h
  obtain ⟨a, mid, ha, hb⟩ := bind_eq_ok.1 h
  obtain ⟨used, e, rfl, hused, -⟩ := hp _ _ _ ha
  obtain ⟨used', e', rfl, hused', hfollow⟩ := hf a e _ hused _ _ _ hb
  exact ⟨used ++ used', e', by simp, by simpa using hused', hfollow⟩

theorem Sound.map {g : α → β} (hp : Sound p forms follow)
    (hg : ∀ a e us, forms a e us →
      ∃ e', forms' (g a) e' us ∧ ∀ kind, follow e kind → follow' e' kind) :
    Sound (p >>= fun a => pure (g a)) forms' follow' := by
  intro ts b rest h
  obtain ⟨a, mid, ha, hb⟩ := bind_eq_ok.1 h
  obtain ⟨rfl, rfl⟩ := pure_eq_ok.1 hb
  obtain ⟨used, e, rfl, hused, hfollow⟩ := hp _ _ _ ha
  obtain ⟨e', hused', hfollow'⟩ := hg a e _ hused
  exact ⟨used, e', rfl, hused', hfollow' _ hfollow⟩

theorem Sound.pure {b : β} (h : forms' b .closed []) (hfollow : ∀ kind, follow' .closed kind) :
    Sound (pure b) forms' follow' := by
  intro ts b' rest hb
  obtain ⟨rfl, rfl⟩ := pure_eq_ok.1 hb
  exact ⟨[], .closed, rfl, h, hfollow _⟩

theorem token_sound (kind : TokenKind) :
    Sound (token kind) (fun t _ ws => ws = [(kind, t.value)]) fun _ _ => True := by
  intro ts t rest h
  obtain ⟨rfl, rfl⟩ := token_eq_ok.1 h
  exact ⟨[t], .closed, rfl, rfl, trivial⟩

theorem accept_sound (kind : TokenKind) (hk : kind ≠ .eof) :
    Sound (accept kind) (fun b _ ws => Maybe kind b ws) fun _ _ => True := by
  intro ts b rest h
  cases b with
  | false =>
    obtain ⟨rfl, -⟩ := accept_eq_false hk h
    exact ⟨[], .closed, rfl, .absent, trivial⟩
  | true =>
    obtain ⟨t, rfl, rfl⟩ := accept_eq_true h
    exact ⟨[t], .closed, rfl, .present, trivial⟩

end sequences

section types

variable {type : Parse TypeExpr}

/-- A type is read to its end. -/
def SoundType (type : Parse TypeExpr) : Prop :=
  Sound type (fun t => Derives true (.type t)) fun _ kind => kind ≠ .pipe ∧ kind ≠ .amp

theorem named_sound (htype : SoundType type) (v : String) :
    Sound (named type v) (fun t e ws => Derives true (.primary t) e ((.name, v) :: ws)) Stops := by
  rw [named]
  split
  · exact .pure (.of (.boolean ‹_›)) nofun
  · refine (accept_sound .less nofun).bind fun b _ us hless => ?_
    cases hless with
    | absent => exact .pure (.of (.named ‹_›)) nofun
    | present =>
      refine (separated_sound false .comma htype nofun nofun).bind fun ts e us hts => ?_
      refine (token_sound _).map fun t _ us' hus' => ⟨.closed, ?_, nofun⟩
      subst hus'
      exact .of (.generic ‹_› hts)

theorem key_sound : Sound key Key fun _ _ => True := by
  intro ts v rest h
  cases ts with
  | nil => cases h
  | cons t ts =>
    simp only [key] at h
    split at h
    · cases h
      rename_i hk
      refine ⟨[t], .closed, rfl, ?_, trivial⟩
      rw [List.map_singleton, Token.word, hk]
      exact .string
    · obtain ⟨used, e, hts, hused, -⟩ := name_sound _ _ _ h
      exact ⟨used, e, hts, .name hused, trivial⟩

theorem field_sound (htype : SoundType type) :
    Sound (field type) (fun f => Derives true (.field f)) fun _ _ => True := by
  refine key_sound.bind fun v _ ks hk => ?_
  refine (accept_sound .question nofun).bind fun optional _ qs hq => ?_
  refine (token_sound _).bind fun t _ us hus => ?_
  subst hus
  refine htype.map fun t _ us ht => ⟨.closed, ?_, fun _ _ => trivial⟩
  exact .of (.field hk hq ht)

theorem object_sound (htype : SoundType type) (v : String) :
    Sound (object type) (fun t e ws => Derives true (.primary t) e ((.lbrace, v) :: ws)) Stops := by
  refine (enclosed_sound (field_sound htype) fieldEnd_separates).map fun fs _ us hfs => ?_
  obtain ⟨us, r, rfl, hfs⟩ := hfs
  exact ⟨.closed, .of (.object hfs), nofun⟩

theorem tuple_sound (htype : SoundType type) (v : String) :
    Sound (tuple type) (fun t e ws => Derives true (.primary t) e ((.lbracket, v) :: ws))
      Stops := by
  refine (enclosed_sound htype (commaOr_separates _)).map fun ts _ us hts => ?_
  obtain ⟨us, r, rfl, hts⟩ := hts
  exact ⟨.closed, .of (.tuple hts), nofun⟩

theorem labelled_sound (htype : SoundType type) {v e ns b qs c} (hn : Name v e ns)
    (hq : Maybe .question b qs) :
    Sound (labelled type v b)
      (fun t e ws => Derives true (.argument t) e (ns ++ (qs ++ (.colon, c) :: ws)))
      fun _ _ => True :=
  htype.map fun _ _ _ ht => ⟨.closed, .of (.labelled hn hq ht), fun _ _ => trivial⟩

theorem argument_sound (htype : SoundType type) :
    Sound (argument type) (fun t => Derives true (.argument t)) fun _ _ => True := by
  intro ts t rest h
  have hbare : type ts = .ok t rest → ∃ used e, ts = used ++ rest ∧
      Derives true (.argument t) e (used.map Token.word) ∧ True := by
    intro h
    obtain ⟨used, e, hts, hused, -⟩ := htype _ _ _ h
    exact ⟨used, .closed, hts, .of (.argument hused), trivial⟩
  -- a label takes the name and the colon from in front of a type
  have hlabel : ∀ t' u us, ts = t' :: u :: us → t'.kind.isName = true → u.kind = .colon →
      labelled type t'.value false us = .ok t rest → ∃ used e, ts = used ++ rest ∧
      Derives true (.argument t) e (used.map Token.word) ∧ True := by
    rintro t' ⟨_, _, c⟩ us rfl hname rfl h
    obtain ⟨used, e, rfl, hused, -⟩ :=
      labelled_sound htype (name_of_isName hname) .absent _ _ _ h
    exact ⟨_ :: _ :: used, e, rfl, hused, trivial⟩
  unfold argument at h
  split at h
  · split at h
    · exact hlabel _ _ _ rfl (And.left ‹_›) (And.right ‹_›) h
    · split at h
      · rename_i t' u v us _ hk
        obtain ⟨_, _, q⟩ := u
        obtain ⟨_, _, c⟩ := v
        obtain ⟨hname, rfl, rfl⟩ := hk
        obtain ⟨used, e, rfl, hused, -⟩ :=
          labelled_sound htype (name_of_isName hname) .present _ _ _ h
        exact ⟨_ :: _ :: _ :: used, e, rfl, hused, trivial⟩
      · exact hbare h
  · split at h
    · exact hlabel _ _ _ rfl (And.left ‹_›) (And.right ‹_›) h
    · exact hbare h
  · exact hbare h

theorem afterArguments_sound (htype : SoundType type) {args ws l r}
    (hargs : Listed [.comma] (fun t => Derives true (.argument t)) args ws) :
    Sound (afterArguments type args)
      (fun t e us => Derives true (.primary t) e ((.lparen, l) :: (ws ++ (.rparen, r) :: us)))
      Stops := by
  refine (accept_sound .arrow nofun).bind fun b _ us harrow => ?_
  cases harrow with
  | present =>
    exact htype.map fun result e us hresult =>
      ⟨.arrow, hargs.derives_function hresult, fun _ h _ => h⟩
  | absent =>
    obtain _ | ⟨only, _ | ⟨second, others⟩⟩ := args
    · exact nofun
    · change Sound (if only.label.isNone && !only.optional then pure only else refuse .arrow) _ _
      split
      · rename_i hplain
        simp only [Bool.and_eq_true, Option.isNone_iff_eq_none] at hplain
        exact .pure (hargs.derives_parenthesis hplain.1) nofun
      · exact nofun
    · exact nofun

theorem parenthesis_sound (htype : SoundType type) (v : String) :
    Sound (parenthesis type) (fun t e ws => Derives true (.primary t) e ((.lparen, v) :: ws))
      Stops := by
  have henclosed := enclosed_sound (argument_sound htype) (commaOr_separates .rparen)
  refine henclosed.bind fun args _ us hargs => ?_
  obtain ⟨us, r, rfl, hargs⟩ := hargs
  simpa using afterArguments_sound htype hargs

theorem primary_sound (htype : SoundType type) :
    Sound (primary type) (fun t => Derives true (.primary t)) Stops := by
  intro ts t rest h
  cases ts with
  | nil => cases h
  | cons u us =>
    obtain ⟨kind, span, v⟩ := u
    have hafter : ∀ {p : Parse TypeExpr},
        Sound p (fun t e ws => Derives true (.primary t) e ((kind, v) :: ws)) Stops →
        p us = .ok t rest → ∃ used e, ⟨kind, span, v⟩ :: us = used ++ rest ∧
          Derives true (.primary t) e (used.map Token.word) ∧ Stops e (nextKind rest) := by
      intro p hp h
      obtain ⟨used, e, rfl, hused, hfollow⟩ := hp _ _ _ h
      exact ⟨_ :: used, e, rfl, hused, hfollow⟩
    cases kind with
    | name => exact hafter (named_sound htype v) h
    | string => exact hafter (Sound.pure (.of .string) nofun) h
    | number => exact hafter (Sound.pure (.of .number) nofun) h
    | lbrace => exact hafter (object_sound htype v) h
    | lbracket => exact hafter (tuple_sound htype v) h
    | lparen => exact hafter (parenthesis_sound htype v) h
    | _ => cases h

theorem typeOver_sound (htype : SoundType type) : SoundType (typeOver type) := by
  have hmember : Sound (intersectionOf <$> separated .amp (primary type))
      (fun t => Derives true (.intersection t)) fun e kind => Stops e kind ∧ kind ≠ .amp := by
    refine (separated_sound true .amp (primary_sound htype) nofun ?_).map fun ts e us hts =>
      ⟨e, hts.derives_intersection, fun _ h => h⟩
    rintro - (_ | _) h
    · rfl
    · exact absurd rfl (h rfl).2
  refine (separated_sound true .pipe hmember nofun ?_).map fun ts e us hts =>
    ⟨e, hts.derives_type, fun _ h => ⟨h.2, h.1.2⟩⟩
  rintro - (_ | _) h
  · rfl
  · exact absurd rfl (h.1 rfl).1

end types

theorem typeWithin_sound (n : Nat) : SoundType (typeWithin n) := by
  induction n with
  | zero => exact nofun
  | succ n ih => exact typeOver_sound ih

theorem type_sound : SoundType type := fun ts => typeWithin_sound ts.length ts

theorem importNames_sound (k : String) :
    Sound importNames (fun s e ws => Derives true (.statement s) e ((.importKeyword, k) :: ws))
      fun _ _ => True := by
  refine (token_sound _).bind fun l _ us hus => ?_
  subst hus
  refine (enclosed_sound name_sound (commaOr_separates _)).bind fun names _ us hnames => ?_
  obtain ⟨us, r, rfl, hnames⟩ := hnames
  refine (token_sound _).bind fun f _ us' hus' => ?_
  subst hus'
  refine (token_sound _).map fun d _ us'' hus'' => ⟨.closed, ?_, fun _ _ => trivial⟩
  subst hus''
  simpa using (Derives.of (.imports hnames) : Derives true _ _ _)

theorem params_sound :
    Sound params (fun ps _ ws => ∃ names, ps = names.map .literal ∧ Params names ws)
      fun _ _ => True := by
  refine (accept_sound .less nofun).bind fun b _ us hless => ?_
  cases hless with
  | absent => exact .pure ⟨[], rfl, .absent⟩ fun _ => trivial
  | present =>
    refine (separated_sound false .comma name_sound nofun nofun).bind fun names e us hnames => ?_
    refine (token_sound _).map fun g _ us' hus' => ⟨.closed, ?_, fun _ _ => trivial⟩
    subst hus'
    exact ⟨names, rfl, .present hnames⟩

theorem declaration_sound (k : String) :
    Sound declaration (fun s e ws => Derives true (.statement s) e ((.typeKeyword, k) :: ws))
      fun _ _ => True := by
  refine name_sound.bind fun v _ ns hn => ?_
  refine params_sound.bind fun ps _ us hps => ?_
  obtain ⟨names, rfl, hps⟩ := hps
  refine (token_sound _).bind fun c _ us' hus' => ?_
  subst hus'
  exact type_sound.map fun t _ us ht => ⟨.closed, .of (.declares hn hps ht), fun _ _ => trivial⟩

theorem assignment_sound :
    Sound assignment (fun s => Derives true (.statement s)) fun _ _ => True := by
  refine name_sound.bind fun v _ ns hn => ?_
  refine (token_sound _).bind fun c _ us hus => ?_
  subst hus
  exact type_sound.map fun t _ us ht => ⟨.closed, .of (.assigns hn ht), fun _ _ => trivial⟩

theorem bareStatement_sound :
    Sound bareStatement (fun s => Derives true (.statement s)) fun _ _ => True := by
  intro ts s rest h
  cases ts with
  | nil => cases h
  | cons t ts =>
    obtain ⟨kind, span, k⟩ := t
    simp only [bareStatement] at h
    split at h
    · obtain ⟨rfl, -⟩ := ‹_ ∧ _›
      obtain ⟨used, e, rfl, hused, -⟩ := importNames_sound k _ _ _ h
      exact ⟨_ :: used, e, rfl, hused, trivial⟩
    · split at h
      · obtain ⟨rfl, -⟩ := ‹_ ∧ _›
        obtain ⟨used, e, rfl, hused, -⟩ := declaration_sound k _ _ _ h
        exact ⟨_ :: used, e, rfl, hused, trivial⟩
      · split at h
        · exact assignment_sound _ _ _ h
        · cases h

theorem statement_sound :
    Sound statement (fun s _ ws => ∃ us e b semicolon, ws = us ++ semicolon ∧
      Derives true (.statement s) e us ∧ Maybe .semicolon b semicolon) fun _ _ => True := by
  refine bareStatement_sound.bind fun s e us hs => ?_
  refine (accept_sound .semicolon nofun).map fun b _ semicolon hb => ?_
  exact ⟨.closed, ⟨us, e, b, semicolon, rfl, hs, hb⟩, fun _ _ => trivial⟩

/-- What is read without a failure is a header. -/
theorem statements_sound (n : Nat) : ∀ ts ss, ts.length ≤ n → statements n ts = ss.map .ok →
    Derives true (.header ss) .closed (ts.map Token.word) := by
  induction n with
  | zero =>
    intro ts ss hn h
    obtain rfl := List.length_eq_zero_iff.1 (Nat.le_zero.1 hn)
    obtain rfl := List.map_eq_nil_iff.1 h.symm
    exact .of .nil
  | succ n ih =>
    intro ts ss hn h
    rw [statements] at h
    split at h
    · obtain rfl := List.isEmpty_iff.1 ‹_›
      obtain rfl := List.map_eq_nil_iff.1 h.symm
      exact .of .nil
    · split at h
      · rename_i s rest hs
        obtain ⟨s', ss, rfl, hs', hss⟩ := List.map_eq_cons_iff.1 h.symm
        cases hs'
        obtain ⟨used, -, rfl, ⟨us, e, b, semicolon, hused, hderives, hsemi⟩, -⟩ :=
          statement_sound _ _ _ hs
        -- a statement takes a token, so the bound is enough for the others
        obtain ⟨w, ws, rfl, -⟩ := hderives.started rfl
        have hlen : 1 ≤ used.length := by
          rw [← List.length_map (f := Token.word), hused]
          simp
        have hrest := ih rest ss (by rw [List.length_append] at hn; omega) hss.symm
        rw [List.map_append, hused, List.append_assoc]
        exact .of (.cons hderives hsemi hrest)
      · obtain ⟨_, _, _, hs', -⟩ := List.map_eq_cons_iff.1 h.symm
        cases hs'

end Parse

end SigCheck
