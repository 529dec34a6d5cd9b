import SigCheck.Proofs.Parsing.Soundness

/-!
# What has a derivation is read

`Parse.Takes` says that a parser takes given words, in front of a token that it would not go on
with, and gives a given tree.  `Parse.reads` shows it for every derivation with the longest
results, phrase by phrase; the numbers that bound the steps of the parsers are large enough whenever
they are at least the number of words.

With the converse of `SigCheck.Proofs.Parsing.Soundness`, a header is read exactly if it has a
derivation (`Header.ofTokens_eq_ok_iff`).
-/

namespace SigCheck

open Grammar

/-- A token of the class may make a type in front of it longer, or a name in front of it a label. -/
def Grammar.goesOn : TokenKind → Bool
  | .less | .arrow | .pipe | .amp | .colon | .question => true
  | _ => false

theorem Grammar.goesOn_of_starts {kind : TokenKind} (h : starts kind = true) :
    goesOn kind = false := by
  cases kind <;> simp_all [starts, goesOn]

namespace Parse

variable {α β : Type}

/-! ### Taking words -/

/-- The parser takes the words and gives `a`, if the class of the next token is one that may
follow. -/
def Takes (p : Parse α) (a : α) (ws : List Word) (follow : TokenKind → Prop) : Prop :=
  ∀ ts rest, ts.map Token.word = ws → follow (nextKind rest) → p (ts ++ rest) = .ok a rest

/-- The class of the first of the words; of none, that of the next token. -/
def headKind (ws : List Word) (next : TokenKind) : TokenKind := (ws.head?.map (·.1)).getD next

theorem nextKind_append (ts rest : List Token) :
    nextKind (ts ++ rest) = headKind (ts.map Token.word) (nextKind rest) := by
  cases ts <;> rfl

variable {p : Parse α} {f : α → Parse β} {a : α} {b : β} {ws us : List Word}
  {follow follow' : TokenKind → Prop} {kind : TokenKind} {v : String}

theorem Takes.imp (h : Takes p a ws follow) (hf : ∀ kind, follow' kind → follow kind) :
    Takes p a ws follow' :=
  fun ts rest hts hrest => h ts rest hts (hf _ hrest)

theorem pure_takes : Takes (pure a) a [] follow := by
  intro ts rest hts _
  obtain rfl := List.map_eq_nil_iff.1 hts
  rfl

theorem bind_of_eq_ok {ts mid : List Token} (h : p ts = .ok a mid) : (p >>= f) ts = f a mid := by
  simp only [bind, h]

theorem Takes.bind (hp : Takes p a ws follow) (hf : Takes (f a) b us follow')
    (hnext : ∀ kind, follow' kind → follow (headKind us kind)) :
    Takes (p >>= f) b (ws ++ us) follow' := by
  intro ts rest hts hrest
  obtain ⟨ts, ts', rfl, rfl, rfl⟩ := List.map_eq_append_iff.1 hts
  have hmid : follow (nextKind (ts' ++ rest)) := nextKind_append ts' rest ▸ hnext _ hrest
  rw [List.append_assoc, bind_of_eq_ok (hp ts (ts' ++ rest) rfl hmid)]
  exact hf ts' rest rfl hrest

theorem Takes.map {g : α → β} (hp : Takes p a ws follow) :
    Takes (p >>= fun a => pure (g a)) (g a) ws follow := by
  intro ts rest hts hrest
  exact bind_of_eq_ok (hp ts rest hts hrest)

theorem token_bind_takes {f : Token → Parse β}
    (hf : ∀ t : Token, t.value = v → Takes (f t) b us follow) :
    Takes (token kind >>= f) b ((kind, v) :: us) follow := by
  intro ts rest hts hrest
  obtain ⟨t, ts, rfl, ht, rfl⟩ := List.map_eq_cons_iff.1 hts
  obtain ⟨hkind, hvalue⟩ := Prod.mk.inj ht
  have htoken : token kind (t :: (ts ++ rest)) = .ok t (ts ++ rest) :=
    token_eq_ok.2 ⟨rfl, hkind⟩
  exact (bind_of_eq_ok htoken).trans (hf t hvalue ts rest rfl hrest)

theorem token_map_takes {g : Token → β} (hg : ∀ t : Token, t.value = v → g t = b) :
    Takes (token kind >>= fun t => pure (g t)) b [(kind, v)] follow :=
  token_bind_takes fun t ht => hg t ht ▸ pure_takes

section accept

variable {f : Bool → Parse β}

theorem accept_true_takes (hf : Takes (f true) b us follow) :
    Takes (accept kind >>= f) b ((kind, v) :: us) follow := by
  intro ts rest hts hrest
  obtain ⟨t, ts, rfl, ht, rfl⟩ := List.map_eq_cons_iff.1 hts
  have haccept : accept kind (t :: (ts ++ rest)) = .ok true (ts ++ rest) :=
    if_pos (Prod.mk.inj ht).1
  exact (bind_of_eq_ok haccept).trans (hf ts rest rfl hrest)

theorem accept_of_nextKind_ne {ts : List Token} (h : nextKind ts ≠ kind) :
    accept kind ts = .ok false ts := by
  cases ts with
  | nil => rfl
  | cons t ts => exact if_neg h

theorem accept_false_takes (hf : Takes (f false) b us follow)
    (hnext : ∀ next, follow next → headKind us next ≠ kind) :
    Takes (accept kind >>= f) b us follow := by
  intro ts rest hts hrest
  have hkind : nextKind (ts ++ rest) ≠ kind := by
    rw [nextKind_append, hts]
    exact hnext _ hrest
  exact (bind_of_eq_ok (accept_of_nextKind_ne hkind)).trans (hf ts rest hts hrest)

theorem accept_bind_takes {present : Bool} {ms : List Word} (hm : Maybe kind present ms)
    (hf : Takes (f present) b us follow)
    (hnext : ∀ next, follow next → headKind us next ≠ kind) :
    Takes (accept kind >>= f) b (ms ++ us) follow := by
  cases hm with
  | absent => exact accept_false_takes hf hnext
  | present => exact accept_true_takes hf

end accept

theorem name_takes {e : Ending} (h : Name v e ws) : Takes name v ws follow := by
  intro ts rest hts _
  obtain ⟨kind, hk, rfl⟩ := h.eq
  obtain ⟨t, ts, rfl, ht, hnil⟩ := List.map_eq_cons_iff.1 hts
  obtain rfl := List.map_eq_nil_iff.1 hnil
  obtain ⟨rfl, rfl⟩ := Prod.mk.inj ht
  exact if_pos hk

/-! ### Lists -/

section lists

variable {item : Parse α} {longest : Bool} {separator close : TokenKind} {as : List α} {e : Ending}

/-- A token of the class makes no type longer. -/
def Ends (kind : TokenKind) : Prop := goesOn kind = false

theorem following_takes_nil {n : Nat} :
    Takes (following separator item n) [] [] (· ≠ separator) := by
  cases n with
  | zero => exact pure_takes
  | succ n => exact accept_false_takes pure_takes fun _ h => h

theorem following_takes {follow : Ending → TokenKind → Prop}
    (hsep : ∀ e, (longest = true → e = .closed) → follow e separator)
    (h : Members longest separator (fun a e ws => Takes item a ws (follow e)) as e ws) :
    ∀ v n, ws.length < n → Takes (following separator item n) as ((separator, v) :: ws)
      fun kind => follow e kind ∧ kind ≠ separator := by
  induction h with
  | @last a e ws h =>
    rintro v (_ | n) hn
    · omega
    refine accept_true_takes ?_
    rw [← List.append_nil ws]
    exact Takes.bind h (following_takes_nil.map.imp fun _ h => h.2) fun _ h => h.1
  | @more a e ws v' as e' us h hl _ ih =>
    rintro v (_ | n) hn
    · omega
    have hn' : us.length < n := by
      simp only [List.length_append, List.length_cons] at hn
      omega
    exact accept_true_takes (Takes.bind h (ih v' n hn').map fun _ _ => hsep e hl)

theorem separated_takes {follow : Ending → TokenKind → Prop}
    (hsep : ∀ e, (longest = true → e = .closed) → follow e separator)
    (h : Members longest separator (fun a e ws => Takes item a ws (follow e)) as e ws) :
    Takes (separated separator item) as ws fun kind => follow e kind ∧ kind ≠ separator := by
  have htokens : ∀ {bs : List α} {us : List Word} {next : TokenKind → Prop},
      (∀ n, us.length ≤ n → Takes (following separator item n) bs us next) →
      Takes (fun ts => following separator item ts.length ts) bs us next := by
    intro bs us next h ts rest hts
    refine h _ ?_ ts rest hts
    rw [← hts, List.length_map, List.length_append]
    exact Nat.le_add_right _ _
  cases h with
  | last h =>
    rw [← List.append_nil ws]
    refine Takes.bind h (Takes.map (htokens fun _ _ => following_takes_nil.imp ?_)) ?_
    · exact fun _ h => h.2
    · exact fun _ h => h.1
  | more h hl rest =>
    refine Takes.bind h (Takes.map (htokens fun n hn => ?_)) fun _ _ => hsep _ hl
    exact following_takes hsep rest _ n hn

/-- The parser takes one of the tokens `separators`, and nothing before `close`. -/
structure TakesBetween (separators : List TokenKind) (close : TokenKind) (p : Parse Unit) :
    Prop where
  separator : ∀ t ts, t.kind ∈ separators → p (t :: ts) = .ok () ts
  close : ∀ ts, nextKind ts = close → p ts = .ok () ts

theorem commaOr_takesBetween (close : TokenKind) (h : close ≠ .comma) :
    TakesBetween [.comma] close (commaOr close) where
  separator t ts ht := by
    have hk : t.kind = .comma := List.mem_singleton.1 ht
    have hne : nextKind (t :: ts) ≠ close := by
      rw [nextKind, hk]
      exact h.symm
    rw [commaOr, if_neg hne]
    exact bind_of_eq_ok (token_eq_ok.2 ⟨rfl, hk⟩)
  close ts h := if_pos h

theorem fieldEnd_takesBetween : TakesBetween [.comma, .semicolon] .rbrace fieldEnd where
  separator t ts ht := if_pos (by simpa using ht)
  close ts h := by
    cases ts with
    | nil => cases h
    | cons t ts =>
      have ht : t.kind = .rbrace := h
      simp [fieldEnd, ht]

variable {separators : List TokenKind} {between : Parse Unit}

theorem itemsUntil_stops {n : Nat} {ts : List Token} (h : nextKind ts = close) :
    itemsUntil close item between n ts = .ok [] ts := by
  cases n with
  | zero => rfl
  | succ n => simp [itemsUntil, h]

/-- An item at the front, which is not the end of the list, and what separates it from the next. -/
theorem itemsUntil_cons {n : Nat} {ts rest mid rest' : List Token} {a : α}
    (hitem : Started ws ∧ Takes item a ws Ends) (hclose : starts close = false)
    (hts : ts.map Token.word = ws) (hnext : Ends (nextKind rest)) (hmid : between rest = .ok () mid)
    (has : itemsUntil close item between n mid = .ok as rest') :
    itemsUntil close item between (n + 1) (ts ++ rest) = .ok (a :: as) rest' := by
  obtain ⟨⟨w, ws, rfl, hw⟩, htakes⟩ := hitem
  obtain ⟨t, ts, rfl, rfl, rfl⟩ := List.map_eq_cons_iff.1 hts
  have hne : t.kind ≠ close := by
    rintro rfl
    exact absurd hw (by simp [Token.word, hclose])
  simp only [itemsUntil, List.cons_append, List.isEmpty_cons, nextKind, hne]
  exact (bind_of_eq_ok (htakes (t :: ts) rest rfl hnext)).trans
    ((bind_of_eq_ok hmid).trans (bind_of_eq_ok has))

theorem itemsUntil_takes (hbetween : TakesBetween separators close between)
    (hstarts : starts close = false) (hclose : Ends close) (hsep : ∀ kind ∈ separators, Ends kind)
    (h : Listed separators (fun a _ ws => Started ws ∧ Takes item a ws Ends) as us) :
    ∀ n, us.length ≤ n → Takes (itemsUntil close item between n) as us (· = close) := by
  induction h with
  | nil =>
    intro n _ ts rest hts hrest
    obtain rfl := List.map_eq_nil_iff.1 hts
    exact itemsUntil_stops hrest
  | last h =>
    rintro (_ | n) hn ts rest hts hrest
    · exact absurd h.1.length_pos (by omega)
    have hnext : Ends (nextKind rest) := by rwa [hrest]
    exact itemsUntil_cons h hstarts hts hnext (hbetween.close rest hrest)
      (itemsUntil_stops hrest)
  | more h hk _ ih =>
    rintro (_ | n) hn ts rest hts hrest
    · simp at hn
    obtain ⟨ts, back, rfl, hfront, hback⟩ := List.map_eq_append_iff.1 hts
    obtain ⟨t, ts', rfl, ht, hts'⟩ := List.map_eq_cons_iff.1 hback
    obtain ⟨rfl, -⟩ := Prod.mk.inj ht
    rw [List.append_assoc]
    refine itemsUntil_cons h hstarts hfront (hsep _ hk) (hbetween.separator t _ hk) ?_
    refine ih n ?_ ts' rest hts' hrest
    simp only [List.length_append, List.length_cons] at hn
    omega

theorem enclosed_takes (hbetween : TakesBetween separators close between)
    (hstarts : starts close = false) (hclose : Ends close) (hsep : ∀ kind ∈ separators, Ends kind)
    (h : Listed separators (fun a _ ws => Started ws ∧ Takes item a ws Ends) as us) :
    Takes (enclosed close item between) as (us ++ [(close, v)]) follow := by
  intro ts rest hts hrest
  have hlen : us.length ≤ (ts ++ rest).length := by
    rw [List.length_append, ← List.length_map (f := Token.word), hts, List.length_append]
    omega
  have htakes : Takes (itemsUntil close item between (ts ++ rest).length >>= fun items =>
      token close >>= fun _ => pure items) as (us ++ [(close, v)]) follow :=
    (itemsUntil_takes hbetween hstarts hclose hsep h _ hlen).bind
      (token_map_takes fun _ _ => rfl) fun _ _ => rfl
  exact htakes ts rest hts hrest

end lists

/-! ### Types -/

section types

variable {type : Parse TypeExpr} {t : TypeExpr} {ts : List TypeExpr} {e : Ending}

/-- A primary type is read by what follows its first token. -/
theorem primary_takes {q : Parse TypeExpr} (hq : Takes q t us follow)
    (hkind : ∀ u ts, u.kind = kind → u.value = v → primary type (u :: ts) = q ts) :
    Takes (primary type) t ((kind, v) :: us) follow := by
  intro ts rest hts hrest
  obtain ⟨u, ts, rfl, hu, rfl⟩ := List.map_eq_cons_iff.1 hts
  obtain ⟨hk, hv⟩ := Prod.mk.inj hu
  exact (hkind u _ hk hv).trans (hq ts rest rfl hrest)

theorem primary_takes_string :
    Takes (primary type) (.value ("\"" ++ v ++ "\"")) [(.string, v)] follow :=
  primary_takes pure_takes fun u ts hk hv => by simp only [primary, hk, hv]; rfl

theorem primary_takes_number : Takes (primary type) (.value v) [(.number, v)] follow :=
  primary_takes pure_takes fun u ts hk hv => by simp only [primary, hk, hv]; rfl

theorem primary_takes_name (hq : Takes (named type v) t us follow) :
    Takes (primary type) t ((.name, v) :: us) follow :=
  primary_takes hq fun u ts hk hv => by simp [primary, hk, hv]

theorem named_takes_boolean (h : v = "true" ∨ v = "false") :
    Takes (named type v) (.value v) [] follow := by
  rw [named, if_pos h]
  exact pure_takes

theorem named_takes_literal (h : ¬(v = "true" ∨ v = "false"))
    (hf : ∀ kind, follow kind → kind ≠ .less) :
    Takes (named type v) (.literal v) [] follow := by
  rw [named, if_neg h]
  exact accept_false_takes pure_takes hf

theorem named_takes_generic {l g : String} (h : ¬(v = "true" ∨ v = "false"))
    (hts : Members false .comma (fun t _ ws => Takes type t ws Ends) ts e ws) :
    Takes (named type v) (.ofShape (.generic (.literal v) ts))
      ((.less, l) :: (ws ++ [(.greater, g)]))
      follow := by
  rw [named, if_neg h]
  have hparams : Takes (separated .comma type) ts ws fun kind => Ends kind ∧ kind ≠ .comma := by
    refine separated_takes ?_ hts
    exact fun _ _ => rfl
  exact accept_true_takes
    (hparams.bind (token_map_takes fun _ _ => rfl) fun _ _ => ⟨rfl, by simp [headKind]⟩)

theorem key_takes (h : Key v e ws) : Takes key v ws follow := by
  intro ts rest hts hrest
  cases h with
  | name hn =>
    obtain ⟨kind, hkind, rfl⟩ := hn.eq
    obtain ⟨u, ts, rfl, hu, hnil⟩ := List.map_eq_cons_iff.1 hts
    have hne : u.kind ≠ .string := by
      intro hstring
      rw [← (Prod.mk.inj hu).1, hstring] at hkind
      cases hkind
    exact (if_neg hne).trans (name_takes hn (u :: ts) rest hts hrest)
  | string =>
    obtain ⟨u, ts, rfl, hu, hnil⟩ := List.map_eq_cons_iff.1 hts
    obtain rfl := List.map_eq_nil_iff.1 hnil
    obtain ⟨hkind, rfl⟩ := Prod.mk.inj hu
    exact if_pos hkind

theorem field_takes {ks qs : List Word} {optional : Bool} {c : String} (hk : Key v e ks)
    (hq : Maybe .question optional qs) (ht : Takes type t ws Ends) :
    Takes (field type) ⟨v, optional, t⟩ (ks ++ (qs ++ (.colon, c) :: ws)) Ends := by
  have htype : Takes (token .colon >>= fun _ => type >>= fun t => pure ⟨v, optional, t⟩)
      (⟨v, optional, t⟩ : Field TypeExpr) ((.colon, c) :: ws) Ends :=
    token_bind_takes fun _ _ => ht.map
  have hkey : Takes key v ks fun _ => True := key_takes hk
  exact hkey.bind (accept_bind_takes hq htype fun _ _ => nofun) fun _ _ => trivial

theorem object_takes {fs : List (Field TypeExpr)} {l r : String}
    (hfs : Listed [.comma, .semicolon]
      (fun f _ ws => Started ws ∧ Takes (field type) f ws Ends) fs ws) :
    Takes (primary type) (.ofShape (.object () fs)) ((.lbrace, l) :: (ws ++ [(.rbrace, r)]))
      follow := by
  refine primary_takes (q := object type) ?_ fun u ts hk _ => by simp [primary, hk]
  exact (enclosed_takes fieldEnd_takesBetween rfl rfl (by simp [Ends, goesOn]) hfs).map

theorem tuple_takes {l r : String}
    (hts : Listed [.comma] (fun t _ ws => Started ws ∧ Takes type t ws Ends) ts ws) :
    Takes (primary type) (.ofShape (.tuple ts)) ((.lbracket, l) :: (ws ++ [(.rbracket, r)]))
      follow := by
  refine primary_takes (q := tuple type) ?_ fun u ts hk _ => by simp [primary, hk]
  have hbetween := commaOr_takesBetween .rbracket nofun
  exact (enclosed_takes hbetween rfl rfl (by simp [Ends, goesOn]) hts).map

/-- A type that does not start with a label is an argument. -/
theorem argument_eq_type {ts : List Token} (h : ∀ u u' us, ts = u :: u' :: us →
    u.kind.isName = true → u'.kind ≠ .colon ∧ u'.kind ≠ .question) :
    argument type ts = type ts := by
  unfold argument
  split
  · rw [if_neg fun hk => (h _ _ _ rfl hk.1).1 hk.2, if_neg fun hk => (h _ _ _ rfl hk.1).2 hk.2.1]
  · rw [if_neg fun hk => (h _ _ _ rfl hk.1).1 hk.2]
  · rfl

theorem argument_takes_type (hstart : Started ws) (hlabel : Unlabelled ws)
    (ht : Takes type t ws Ends) : Takes (argument type) t ws Ends := by
  intro ts rest hts hrest
  rw [argument_eq_type]
  · exact ht ts rest hts hrest
  intro u u' us heq hname
  obtain ⟨w, ws, rfl, -⟩ := hstart
  obtain ⟨first, others, rfl, rfl, hothers⟩ := List.map_eq_cons_iff.1 hts
  obtain ⟨rfl, htail⟩ := List.cons.inj heq
  cases others with
  | nil =>
    -- the token behind the type is the one that would make its name a label
    obtain rfl : rest = u' :: us := htail
    have hend : goesOn u'.kind = false := hrest
    exact ⟨fun h => by simp [h, goesOn] at hend, fun h => by simp [h, goesOn] at hend⟩
  | cons second others =>
    obtain ⟨rfl, -⟩ := List.cons.inj htail
    exact hlabel _ _ _ (congrArg _ hothers.symm) hname

theorem argument_takes_labelled {ns qs : List Word} {optional : Bool} {c : String}
    (hn : Name v e ns) (hq : Maybe .question optional qs) (hstart : Started ws)
    (ht : Takes type t ws Ends) :
    Takes (argument type) (t.withLabel v optional) (ns ++ (qs ++ (.colon, c) :: ws)) Ends := by
  have htype : Takes (labelled type v optional) (t.withLabel v optional) ws Ends := ht.map
  intro ts rest hts hrest
  obtain ⟨kind, hname, rfl⟩ := hn.eq
  obtain ⟨u, us, rfl, hu, hus⟩ := List.map_eq_cons_iff.1 hts
  obtain ⟨rfl, rfl⟩ := Prod.mk.inj hu
  obtain ⟨w, ws, rfl, -⟩ := hstart
  cases hq with
  | absent =>
    obtain ⟨u₂, us₂, rfl, hu₂, hus₂⟩ := List.map_eq_cons_iff.1 hus
    obtain ⟨u₃, us₃, rfl, hu₃, hus₃⟩ := List.map_eq_cons_iff.1 hus₂
    have hcolon : u₂.kind = .colon := (Prod.mk.inj hu₂).1
    exact (if_pos ⟨hname, hcolon⟩).trans (htype (u₃ :: us₃) rest hus₂ hrest)
  | present =>
    obtain ⟨u₂, us₂, rfl, hu₂, hus₂⟩ := List.map_eq_cons_iff.1 hus
    obtain ⟨u₃, us₃, rfl, hu₃, hus₃⟩ := List.map_eq_cons_iff.1 hus₂
    have hquestion : u₂.kind = .question := (Prod.mk.inj hu₂).1
    have hcolon : u₃.kind = .colon := (Prod.mk.inj hu₃).1
    have hne : ¬(u.kind.isName = true ∧ u₂.kind = .colon) := by simp [hquestion]
    exact (if_neg hne).trans
      ((if_pos ⟨hname, hquestion, hcolon⟩).trans (htype us₃ rest hus₃ hrest))

section parentheses

variable {args : List TypeExpr} {result : TypeExpr} {l r a : String}

theorem arguments_take
    (hargs : Listed [.comma] (fun t _ ws => Started ws ∧ Takes (argument type) t ws Ends) args ws) :
    Takes (enclosed .rparen (argument type) (commaOr .rparen)) args (ws ++ [(.rparen, r)])
      fun _ => True :=
  enclosed_takes (commaOr_takesBetween .rparen nofun) rfl rfl (by simp [Ends, goesOn]) hargs

theorem function_takes
    (hargs : Listed [.comma] (fun t _ ws => Started ws ∧ Takes (argument type) t ws Ends) args ws)
    (hresult : Takes type result us Ends) :
    Takes (primary type) (functionOf args result)
      ((.lparen, l) :: (ws ++ (.rparen, r) :: (.arrow, a) :: us)) Ends := by
  refine primary_takes (q := parenthesis type) ?_ fun u ts hk _ => by simp [primary, hk]
  have hafter :
      Takes (afterArguments type args) (functionOf args result) ((.arrow, a) :: us) Ends :=
    accept_true_takes hresult.map
  simpa [parenthesis] using (arguments_take hargs).bind hafter fun _ _ => trivial

theorem parenthesis_takes
    (hargs : Listed [.comma] (fun t _ ws => Started ws ∧ Takes (argument type) t ws Ends) [t] ws)
    (hlabel : t.label = none ∧ t.optional = false) (hf : ∀ kind, follow kind → kind ≠ .arrow) :
    Takes (primary type) t ((.lparen, l) :: (ws ++ [(.rparen, r)])) follow := by
  refine primary_takes (q := parenthesis type) ?_ fun u ts hk _ => by simp [primary, hk]
  have hafter : Takes (afterArguments type [t]) t [] follow := by
    refine accept_false_takes ?_ hf
    simpa [hlabel] using pure_takes
  simpa [parenthesis] using (arguments_take hargs).bind hafter fun _ _ => trivial

end parentheses

/-- A token of the class makes no primary type longer: a `|` or `&` does only behind the result of
an arrow. -/
def EndsPrimary (e : Ending) (kind : TokenKind) : Prop :=
  Ends kind ∨ e = .closed ∧ (kind = .pipe ∨ kind = .amp)

/-- A token of the class makes no intersection longer. -/
def EndsIntersection (e : Ending) (kind : TokenKind) : Prop :=
  Ends kind ∨ e = .closed ∧ kind = .pipe

theorem EndsPrimary.ne {kind : TokenKind} (h : EndsPrimary e kind) :
    kind ≠ .less ∧ kind ≠ .arrow := by
  constructor <;> rintro rfl <;> simp [EndsPrimary, Ends, goesOn] at h

theorem intersection_takes
    (h : Members true .amp (fun t e ws => Takes (primary type) t ws (EndsPrimary e)) ts e ws) :
    Takes (intersectionOf <$> separated .amp (primary type)) (intersectionOf ts) ws
      (EndsIntersection e) := by
  have hts : Takes (separated .amp (primary type)) ts ws
      fun kind => EndsPrimary e kind ∧ kind ≠ .amp := by
    refine separated_takes (fun e he => ?_) h
    exact .inr ⟨he rfl, .inr rfl⟩
  refine hts.map.imp fun kind hkind => ?_
  obtain hend | ⟨he, rfl⟩ := hkind
  · refine ⟨.inl hend, ?_⟩
    rintro rfl
    cases hend
  · exact ⟨.inr ⟨he, .inl rfl⟩, nofun⟩

theorem typeOver_takes (h : Members true .pipe (fun t e ws =>
      Takes (intersectionOf <$> separated .amp (primary type)) t ws (EndsIntersection e)) ts e ws) :
    Takes (typeOver type) (unionOf ts) ws Ends := by
  have hts : Takes (separated .pipe (intersectionOf <$> separated .amp (primary type))) ts ws
      fun kind => EndsIntersection e kind ∧ kind ≠ .pipe := by
    refine separated_takes (fun e he => ?_) h
    exact .inr ⟨he rfl, rfl⟩
  refine hts.map.imp fun kind hkind => ⟨.inl hkind, ?_⟩
  rintro rfl
  cases hkind

end types

/-- The parser of the phrase takes the words, whatever bound on its steps is not below their
number. -/
def Reads : Phrase → Ending → List Word → Prop
  | .type t, _, ws => ∀ n, ws.length ≤ n → Takes (typeWithin n) t ws Ends
  | .intersection t, e, ws => ∀ n, ws.length ≤ n + 1 →
    Takes (intersectionOf <$> separated .amp (primary (typeWithin n))) t ws (EndsIntersection e)
  | .primary t, e, ws => ∀ n, ws.length ≤ n + 1 →
    Takes (primary (typeWithin n)) t ws (EndsPrimary e)
  | .field f, _, ws => ∀ n, ws.length ≤ n → Takes (field (typeWithin n)) f ws Ends
  | .argument t, _, ws => ∀ n, ws.length ≤ n → Takes (argument (typeWithin n)) t ws Ends
  | .statement s, _, ws => Takes bareStatement s ws Ends
  | .header ss, _, ws => ∀ n ts, ts.map Token.word = ws → ws.length ≤ n →
    statements n ts = ss.map .ok

theorem Reads.type_takes {t : TypeExpr} {e : Ending} (h : Reads (.type t) e ws) :
    Takes type t ws Ends := by
  intro ts rest hts hrest
  refine h _ ?_ ts rest hts hrest
  rw [← hts, List.length_map, List.length_append]
  exact Nat.le_add_right _ _

/-! ### Statements and headers -/

section statements

variable {t : TypeExpr} {e : Ending}

/-- A keyword that no colon follows starts a statement of its own. -/
theorem bareStatement_takes {q : Parse Statement} {s : Statement} (hq : Takes q s us follow)
    (hnext : ∀ next, headKind us next ≠ .colon)
    (hkind : ∀ u ts, u.kind = kind → nextKind ts ≠ .colon → bareStatement (u :: ts) = q ts) :
    Takes bareStatement s ((kind, v) :: us) follow := by
  intro ts rest hts hrest
  obtain ⟨u, ts, rfl, hu, rfl⟩ := List.map_eq_cons_iff.1 hts
  have hne : nextKind (ts ++ rest) ≠ .colon := by
    rw [nextKind_append]
    exact hnext _
  exact (hkind u _ (Prod.mk.inj hu).1 hne).trans (hq ts rest rfl hrest)

theorem import_takes {names : List String} {k l r f d : String}
    (h : Listed [.comma] Name names ws) :
    Takes bareStatement (.imports ⟨d, names.map .literal⟩) ((.importKeyword, k) :: (.lbrace, l) ::
      (ws ++ [(.rbrace, r), (.fromKeyword, f), (.string, d)])) follow := by
  refine bareStatement_takes (q := importNames) ?_ (by simp [headKind]) fun u ts hk hne => by
    simp [bareStatement, hk, hne]
  have hnames : Takes (enclosed .rbrace name (commaOr .rbrace)) names (ws ++ [(.rbrace, r)])
      fun _ => True := by
    have hbetween := commaOr_takesBetween .rbrace (by decide)
    refine enclosed_takes hbetween rfl rfl (by simp [Ends, goesOn]) (h.imp fun v e ws h => ?_)
    exact ⟨h.started, name_takes h⟩
  have hfrom : Takes (token .fromKeyword >>= fun _ => token .string >>= fun dependency =>
      pure (.imports ⟨dependency.value, names.map .literal⟩))
      (Statement.imports ⟨d, names.map .literal⟩) [(.fromKeyword, f), (.string, d)] follow :=
    token_bind_takes fun _ _ => token_map_takes fun t ht => by rw [ht]
  refine token_bind_takes fun _ _ => ?_
  rw [List.append_cons]
  exact hnames.bind hfrom fun _ _ => trivial

theorem params_take {names : List String} (h : Params names ws) :
    Takes params (names.map .literal) ws (· = .colon) := by
  cases h with
  | absent => exact accept_false_takes pure_takes (by rintro _ rfl; exact nofun)
  | @present _ e us _ _ h =>
    have hmembers : Members false .comma (fun v _ ws => Takes name v ws Ends) names e us :=
      h.imp id fun _ _ _ h => name_takes h
    have hnames : Takes (separated .comma name) names us fun kind => Ends kind ∧ kind ≠ .comma := by
      refine separated_takes ?_ hmembers
      exact fun _ _ => rfl
    exact accept_true_takes
      (hnames.bind (token_map_takes fun _ _ => rfl) fun _ _ => ⟨rfl, nofun⟩)

theorem declaration_takes {params : List String} {ns ps : List Word} {k c : String}
    (hn : Name v e ns) (hp : Params params ps) (ht : Takes type t ws Ends) :
    Takes bareStatement (.declares ⟨v, params.map .literal, t⟩)
      ((.typeKeyword, k) :: (ns ++ (ps ++ (.colon, c) :: ws))) Ends := by
  have hhead : ∀ next, headKind (ns ++ (ps ++ (.colon, c) :: ws)) next ≠ .colon := by
    intro next
    obtain ⟨kind, hname, rfl⟩ := hn.eq
    rintro rfl
    cases hname
  refine bareStatement_takes (q := declaration) ?_ hhead fun u ts hk hne => by
    simp [bareStatement, hk, hne]
  have hname : Takes name v ns fun _ => True := name_takes hn
  have htype : Takes (token .colon >>= fun _ => type >>= fun t =>
      pure (.declares ⟨v, params.map .literal, t⟩))
      (Statement.declares ⟨v, params.map .literal, t⟩) ((.colon, c) :: ws) Ends :=
    token_bind_takes fun _ _ => ht.map
  exact hname.bind ((params_take hp).bind htype fun _ _ => rfl) fun _ _ => trivial

theorem assignment_takes {ns : List Word} {c : String} (hn : Name v e ns)
    (ht : Takes type t ws Ends) :
    Takes bareStatement (.assigns ⟨v, t⟩) (ns ++ (.colon, c) :: ws) Ends := by
  have hname : Takes name v ns fun _ => True := name_takes hn
  have htype : Takes (token .colon >>= fun _ => type >>= fun t => pure (.assigns ⟨v, t⟩))
      (Statement.assigns ⟨v, t⟩) ((.colon, c) :: ws) Ends :=
    token_bind_takes fun _ _ => ht.map
  have htakes : Takes assignment (.assigns ⟨v, t⟩) (ns ++ (.colon, c) :: ws) Ends :=
    hname.bind htype fun _ _ => trivial
  intro ts rest hts hrest
  rw [← htakes ts rest hts hrest]
  -- the colon behind the name keeps a keyword from starting another statement
  obtain ⟨kind, hkind, rfl⟩ := hn.eq
  obtain ⟨u, us, rfl, hu, hus⟩ := List.map_eq_cons_iff.1 hts
  obtain ⟨u₂, us₂, rfl, hu₂, -⟩ := List.map_eq_cons_iff.1 hus
  obtain ⟨rfl, -⟩ := Prod.mk.inj hu
  have hcolon : nextKind (u₂ :: us₂ ++ rest) = .colon := (Prod.mk.inj hu₂).1
  simp only [List.cons_append, bareStatement] at hcolon ⊢
  simp [hcolon, hkind]

theorem statement_takes {s : Statement} {b : Bool} {semicolon : List Word}
    (hs : Takes bareStatement s ws Ends) (hb : Maybe .semicolon b semicolon) :
    Takes statement s (ws ++ semicolon) fun kind => Ends kind ∧ kind ≠ .semicolon := by
  have haccept : Takes (accept .semicolon >>= fun _ => pure s) s (semicolon ++ [])
      fun kind => Ends kind ∧ kind ≠ .semicolon :=
    accept_bind_takes hb pure_takes fun _ h => h.2
  rw [List.append_nil] at haccept
  refine hs.bind haccept fun kind hkind => ?_
  cases hb with
  | absent => exact hkind.1
  | present => exact rfl

theorem statements_cons {s : Statement} {ss : List Statement} {n : Nat} {ts rest : List Token}
    (hne : ts ≠ []) (hs : statement ts = .ok s rest) (hss : statements n rest = ss.map .ok) :
    statements (n + 1) ts = (s :: ss).map .ok := by
  have hempty : ts.isEmpty = false := by simpa using hne
  simp [statements, hempty, hs, hss]

end statements

/-! ### Derivations -/

theorem unionOf_eq {ts : List TypeExpr} (h : 2 ≤ ts.length) :
    unionOf ts = .ofShape (.union ts) := by
  obtain _ | ⟨t, _ | ⟨u, us⟩⟩ := ts
  · rfl
  · simp at h
  · rfl

theorem intersectionOf_eq {ts : List TypeExpr} (h : 2 ≤ ts.length) :
    intersectionOf ts = .ofShape (.intersection ts) := by
  obtain _ | ⟨t, _ | ⟨u, us⟩⟩ := ts
  · rfl
  · simp at h
  · rfl

theorem functionOf_eq {args : List TypeExpr} {result : TypeExpr}
    (h : ∀ first ∈ args.head?, first.label ≠ some "this") :
    functionOf args result = .ofShape (.function args none result) := by
  cases args with
  | nil => rfl
  | cons first others => exact if_neg (h first rfl)

theorem Reads.type {ts : List TypeExpr} {e : Ending} (hstart : Started ws)
    (h : Members true .pipe (fun t => Reads (.intersection t)) ts e ws) :
    Reads (.type (unionOf ts)) e ws := by
  rintro (_ | n) hn
  · exact absurd hstart.length_pos (by omega)
  · exact typeOver_takes (h.bounded.imp id fun _ _ _ h => h.1 n (h.2.trans hn))

theorem Reads.intersection {ts : List TypeExpr} {e : Ending}
    (h : Members true .amp (fun t => Reads (.primary t)) ts e ws) :
    Reads (.intersection (intersectionOf ts)) e ws :=
  fun n hn => intersection_takes (h.bounded.imp id fun _ _ _ h => h.1 n (h.2.trans hn))

theorem Reads.function {args : List TypeExpr} {result : TypeExpr} {e : Ending} {l r a : String}
    (hargs : Listed [.comma] (fun t e ws => Started ws ∧ Reads (.argument t) e ws) args ws)
    (hresult : Reads (.type result) e us) :
    Reads (.primary (functionOf args result)) .arrow
      ((.lparen, l) :: (ws ++ (.rparen, r) :: (.arrow, a) :: us)) := by
  intro n hn
  simp only [List.length_cons, List.length_append] at hn
  have hfunction : Takes (primary (typeWithin n)) (functionOf args result)
      ((.lparen, l) :: (ws ++ (.rparen, r) :: (.arrow, a) :: us)) Ends := by
    refine function_takes (hargs.bounded.imp fun _ _ us h => ?_) (hresult n (by omega))
    exact ⟨h.1.1, h.1.2 n (h.2.trans (by omega))⟩
  refine hfunction.imp fun kind hkind => ?_
  obtain hend | ⟨he, -⟩ := hkind
  · exact hend
  · cases he

theorem Reads.parenthesis {t : TypeExpr} {e : Ending} {b : Bool} {comma : List Word} {l r : String}
    (h : Derives true (.type t) e ws) (ht : Reads (.type t) e ws) (hc : Maybe .comma b comma) :
    Reads (.primary t) .closed ((.lparen, l) :: (ws ++ (comma ++ [(.rparen, r)]))) := by
  intro n hn
  simp only [List.length_cons, List.length_append] at hn
  have hstart := h.started rfl
  -- the type inside is first read as the one argument of a function
  have harg : Started ws ∧ Takes (argument (typeWithin n)) t ws Ends :=
    ⟨hstart, argument_takes_type hstart (h.unlabelled rfl) (ht n (by omega))⟩
  have hargs : Listed [.comma]
      (fun t _ ws => Started ws ∧ Takes (argument (typeWithin n)) t ws Ends) [t] (ws ++ comma) := by
    cases hc with
    | absent =>
      rw [List.append_nil]
      exact .last (e := e) harg
    | present => exact .more (e := e) harg (List.mem_singleton.2 rfl) .nil
  rw [← List.append_assoc]
  exact parenthesis_takes hargs (h.label_eq_none t (.inl rfl)) fun _ hk => hk.ne.2

theorem Reads.cons {s : Statement} {ss : List Statement} {e e' : Ending} {b : Bool}
    {semicolon : List Word} (hstart : Started ws) (hs : Reads (.statement s) e ws)
    (hb : Maybe .semicolon b semicolon) (hnext : us = [] ∨ Started us)
    (hss : Reads (.header ss) e' us) :
    Reads (.header (s :: ss)) .closed (ws ++ (semicolon ++ us)) := by
  intro n ts hts hn
  obtain ⟨w, ws, rfl, -⟩ := hstart
  rw [← List.append_assoc] at hts
  obtain ⟨front, back, rfl, hfront, hback⟩ := List.map_eq_append_iff.1 hts
  -- behind the statement is the end or the start of another statement: neither makes it longer
  have hfollow : Ends (nextKind back) ∧ nextKind back ≠ .semicolon := by
    obtain rfl | ⟨w', us, rfl, hw'⟩ := hnext
    · obtain rfl := List.map_eq_nil_iff.1 hback
      exact ⟨rfl, nofun⟩
    · obtain ⟨t, back, rfl, rfl, -⟩ := List.map_eq_cons_iff.1 hback
      refine ⟨goesOn_of_starts hw', fun h => ?_⟩
      rw [show t.word.1 = .semicolon from h] at hw'
      cases hw'
  cases n with
  | zero => simp at hn
  | succ n =>
    refine statements_cons ?_ (statement_takes hs hb front back hfront hfollow) ?_
    · rintro hnil
      simp [hnil] at hts
    · refine hss n back hback ?_
      simp only [List.length_append, List.length_cons] at hn
      omega

/-- **Every derivation with the longest results is read**, and with its tree. -/
theorem reads {p : Phrase} {e : Ending} {ws : List Word} (h : Derives true p e ws) :
    Reads p e ws := by
  induction h with
  | @rule sub p e ws hsub h ih =>
    cases h with
    | type h => exact Reads.type ((hsub _ _ _ h).started rfl) (.last (ih _ _ _ h))
    | union h hlen =>
      rw [← unionOf_eq hlen]
      refine Reads.type (h.started fun t e ws h => (hsub (.intersection t) e ws h).started rfl) ?_
      exact h.imp id fun t => ih (.intersection t)
    | member h => exact Reads.intersection (.last (ih _ _ _ h))
    | intersection h hlen =>
      rw [← intersectionOf_eq hlen]
      exact Reads.intersection (h.imp id fun t => ih (.primary t))
    | boolean h => exact fun n _ => primary_takes_name (named_takes_boolean h)
    | named h => exact fun n _ => primary_takes_name (named_takes_literal h fun _ hk => hk.ne.1)
    | generic h hts =>
      intro n hn
      simp only [List.length_cons, List.length_append] at hn
      refine primary_takes_name (named_takes_generic h (hts.bounded.imp id fun t e us h => ?_))
      exact ih (.type t) e us h.1 n (h.2.trans (by omega))
    | string => exact fun n _ => primary_takes_string
    | number => exact fun n _ => primary_takes_number
    | object h =>
      intro n hn
      simp only [List.length_cons, List.length_append] at hn
      refine object_takes (h.bounded.imp fun f e us h => ?_)
      refine ⟨(hsub (.field f) e us h.1).started rfl, ?_⟩
      exact ih (.field f) e us h.1 n (h.2.trans (by omega))
    | tuple h =>
      intro n hn
      simp only [List.length_cons, List.length_append] at hn
      refine tuple_takes (h.bounded.imp fun t e us h => ⟨(hsub (.type t) e us h.1).started rfl, ?_⟩)
      exact ih (.type t) e us h.1 n (h.2.trans (by omega))
    | function hargs hthis hresult =>
      rw [← functionOf_eq hthis]
      exact Reads.function (hargs.imp fun t e us h =>
        ⟨(hsub (.argument t) e us h).started rfl, ih (.argument t) e us h⟩) (ih _ _ _ hresult)
    | @method receiver args result _ _ _ _ _ _ hargs hthis hresult =>
      rw [← show functionOf (receiver :: args) result = _ from if_pos hthis]
      exact Reads.function (hargs.imp fun t e us h =>
        ⟨(hsub (.argument t) e us h).started rfl, ih (.argument t) e us h⟩) (ih _ _ _ hresult)
    | parenthesis h hc => exact Reads.parenthesis (hsub _ _ _ h) (ih _ _ _ h) hc
    | field hk hq ht =>
      intro n hn
      simp only [List.length_cons, List.length_append] at hn
      exact field_takes hk hq (ih _ _ _ ht n (by omega))
    | argument h =>
      intro n hn
      have hd := hsub _ _ _ h
      exact argument_takes_type (hd.started rfl) (hd.unlabelled rfl) (ih _ _ _ h n hn)
    | labelled hn hq ht =>
      intro n hlen
      simp only [List.length_cons, List.length_append] at hlen
      exact argument_takes_labelled hn hq ((hsub _ _ _ ht).started rfl) (ih _ _ _ ht n (by omega))
    | imports h => exact import_takes h
    | declares hn hp ht => exact declaration_takes hn hp (Reads.type_takes (ih _ _ _ ht))
    | assigns hn ht => exact assignment_takes hn (Reads.type_takes (ih _ _ _ ht))
    | nil =>
      intro n ts hts _
      obtain rfl := List.map_eq_nil_iff.1 hts
      cases n <;> rfl
    | cons h hs rest =>
      exact Reads.cons ((hsub _ _ _ h).started rfl) (ih _ _ _ h) hs
        (hsub _ _ _ rest).header_started (ih _ _ _ rest)

end Parse

namespace Header

/-- Results of which the list of failures is empty are without a failure. -/
theorem eq_map_ok {ε α β : Type} {failure : Except ε α → Option β} {result : Except ε α → Option α}
    (hfailure : ∀ e, failure (.error e) ≠ none) (hresult : ∀ a, result (.ok a) = some a)
    {results : List (Except ε α)} (hnil : results.filterMap failure = []) :
    results = (results.filterMap result).map .ok := by
  rw [List.filterMap_eq_nil_iff] at hnil
  induction results with
  | nil => rfl
  | cons r results ih =>
    cases r with
    | error e => exact absurd (hnil _ List.mem_cons_self) (hfailure e)
    | ok a =>
      rw [List.filterMap_cons_some (hresult a), List.map_cons,
        ← ih fun r hr => hnil r (List.mem_cons_of_mem _ hr)]

theorem ofTokens_eq_ok {ts : List Token} {h : Header} : Header.ofTokens ts = .ok h ↔
    Parse.statements (beforeEof ts).length (beforeEof ts) = h.statements.map .ok := by
  constructor
  · intro heq
    simp only [Header.ofTokens] at heq
    split at heq
    · rename_i hempty
      cases heq
      refine eq_map_ok (fun f => ?_) (fun _ => rfl) (List.isEmpty_iff.1 hempty)
      exact Option.some_ne_none _
    · cases heq
  · intro heq
    simp only [Header.ofTokens, heq, List.filterMap_map]
    refine (if_pos (List.isEmpty_iff.2 (List.filterMap_eq_nil_iff.2 fun _ _ => rfl))).trans ?_
    exact congrArg (fun ss => Except.ok (Header.mk ss)) List.filterMap_some

/-- A header is read with the tree of the derivation that has the longest results. -/
theorem ofTokens_eq_ok_iff {ts : List Token} {h : Header} : Header.ofTokens ts = .ok h ↔
    Derives true (.header h.statements) .closed ((beforeEof ts).map Token.word) := by
  rw [ofTokens_eq_ok]
  constructor
  · exact Parse.statements_sound _ _ _ le_rfl
  · intro hd
    exact Parse.reads hd _ _ rfl (by rw [List.length_map])

/-- **Reading accepts exactly the grammar.**  What is read has a derivation with its tree; whatever
has a derivation is read; and the tree is that of the derivation with the longest results. -/
theorem ofTokens_exact (ts : List Token) :
    (∀ h, Header.ofTokens ts = .ok h →
      Derives false (.header h.statements) .closed ((beforeEof ts).map Token.word)) ∧
    (∀ ss e, Derives false (.header ss) e ((beforeEof ts).map Token.word) →
      ∃ h, Header.ofTokens ts = .ok h) ∧
    (∀ h, Header.ofTokens ts = .ok h ↔
      Derives true (.header h.statements) .closed ((beforeEof ts).map Token.word)) := by
  refine ⟨fun h heq => (ofTokens_eq_ok_iff.1 heq).any, fun ss e hd => ?_,
    fun h => ofTokens_eq_ok_iff⟩
  obtain ⟨ss', e', hd'⟩ := hd.exists_longest
  have hstatements := Parse.reads hd' _ (beforeEof ts) rfl (by rw [List.length_map])
  exact ⟨⟨ss'⟩, ofTokens_eq_ok.2 hstatements⟩

/-- `() => A | B` is a union by the grammar, too, but is read as a function type. -/
theorem ofTokens_exact_arrow :
    Derives false (.header [.assigns ⟨"f", .ofShape (.union
      [.ofShape (.function [] none (.literal "A")), .literal "B"])⟩]) .closed
      ((beforeEof (tokenize "f : () => A | B")).map Token.word) ∧
    Header.ofTokens (tokenize "f : () => A | B") = .ok ⟨[.assigns ⟨"f", .ofShape (.function [] none
      (.ofShape (.union [.literal "A", .literal "B"])))⟩]⟩ := by
  have hwords : (beforeEof (tokenize "f : () => A | B")).map Token.word =
      [(.name, "f"), (.colon, ":"), (.lparen, "("), (.rparen, ")"), (.arrow, "=>"), (.name, "A"),
        (.pipe, "|"), (.name, "B")] := by decide
  have hname : ∀ {longest v}, ¬(v = "true" ∨ v = "false") →
      Derives longest (.intersection (.literal v)) .closed [(.name, v)] :=
    fun h => .of (.member (.of (.named h)))
  have hheader : ∀ {longest t e ws}, Derives longest (.type t) e ws →
      Derives longest (.header [.assigns ⟨"f", t⟩]) .closed
        ([(.name, "f")] ++ (.colon, ":") :: ws ++ ([] ++ [])) :=
    fun h => .of (.cons (.of (.assigns .name h)) .absent (.of .nil))
  refine ⟨?_, ((ofTokens_exact _).2.2 _).2 ?_⟩ <;> rw [hwords]
  · have hfunction : Derives false
        (.intersection (.ofShape (.function [] none (.literal "A")))) .arrow
        [(.lparen, "("), (.rparen, ")"), (.arrow, "=>"), (.name, "A")] :=
      .of (.member (.of (.function .nil nofun (.of (.type (hname (by decide)))))))
    have hmembers : Members false .pipe (fun t => Derives false (.intersection t)) _ _ _ :=
      .more (v := "|") hfunction nofun (.last (hname (v := "B") (by decide)))
    exact hheader (.of (.union hmembers (by decide)))
  · have hmembers : Members true .pipe (fun t => Derives true (.intersection t)) _ _ _ :=
      .more (v := "|") (hname (v := "A") (by decide)) (fun _ => rfl)
        (.last (hname (v := "B") (by decide)))
    have hfunction : Derives true (.primary _) _ _ :=
      .of (.function (l := "(") (r := ")") (a := "=>") .nil nofun
        (.of (.union hmembers (by decide))))
    exact hheader (.of (.type (.of (.member hfunction))))

end Header

end SigCheck
