import SigCheck.Proofs.Parsing.Completeness

/-!
# Parsers go forward

The parsers that repeat, and the parser of types, take a number that bounds their steps.  Reading
ends by itself, though: whatever is repeated takes a token first, and so does whatever is nested, so
the bounds are never reached.

`Parse.Agree n k p q` says this of two parsers at once, which may differ in their bounds: on at most
`n` tokens they give the same reply, it leaves an end of these tokens, and a result takes at least
`k` of them.  There is one rule for each way to combine parsers, and with the rules one step for
each parser; `Parse.agree_typeOver` is the step from the types inside a type to the type itself.

With a parser and itself this says that the parser goes forward (`Parse.Forward`); with two bounds,
that each loop has the equations of the same loop without a bound (`Parse.Unbounded`).
-/

namespace SigCheck

variable {α β : Type}

/-- The tokens that a reply leaves. -/
def Reply.rest : Reply α → List Token
  | .ok _ rest | .fail _ rest => rest

/-- The reply leaves an end of the tokens `ts`; a result takes at least `k` of them. -/
structure Reply.Passes (k : Nat) (ts : List Token) (reply : Reply α) : Prop where
  rest : reply.rest <:+ ts
  taken : ∀ a rest, reply = .ok a rest → rest.length + k ≤ ts.length

namespace Parse

/-- The parser goes forward only, and a result takes at least `k` tokens. -/
def Forward (k : Nat) (p : Parse α) : Prop := ∀ ts, (p ts).Passes k ts

/-! ### Two parsers on the same tokens -/

/-- On the tokens `ts` both parsers give the same reply, which leaves an end of them; a result takes
at least `k` of them. -/
structure AgreeOn (k : Nat) (p q : Parse α) (ts : List Token) : Prop where
  same : p ts = q ts
  passes : (p ts).Passes k ts

/-- On at most `n` tokens both parsers give the same reply, which leaves an end of them; a result
takes at least `k` of them. -/
def Agree (n k : Nat) (p q : Parse α) : Prop := ∀ ts, ts.length ≤ n → AgreeOn k p q ts

section rules

variable {n n' k k' : Nat} {p p' q q' : Parse α} {f g : α → Parse β} {ts rest : List Token}

theorem agree_self_iff : (∀ n, Agree n k p p) ↔ Forward k p :=
  ⟨fun h ts => (h ts.length ts le_rfl).passes, fun h _ ts _ => ⟨rfl, h ts⟩⟩

theorem AgreeOn.of_ok {a : α} (hp : p ts = .ok a rest) (hq : q ts = .ok a rest)
    (hrest : rest <:+ ts) (hk : rest.length + k ≤ ts.length) : AgreeOn k p q ts where
  same := hp.trans hq.symm
  passes := by
    rw [hp]
    refine ⟨hrest, ?_⟩
    rintro b rest' ⟨⟩
    exact hk

theorem AgreeOn.of_fail {expected : Expected} (hp : p ts = .fail expected rest)
    (hq : q ts = .fail expected rest) (hrest : rest <:+ ts) : AgreeOn k p q ts where
  same := hp.trans hq.symm
  passes := by
    rw [hp]
    exact ⟨hrest, nofun⟩

/-- Parsers that go on as others do from a later place. -/
theorem AgreeOn.of_rest (h : AgreeOn k p' q' rest) (hp : p ts = p' rest) (hq : q ts = q' rest)
    (hrest : rest <:+ ts) (hk : k' + rest.length ≤ k + ts.length) : AgreeOn k' p q ts where
  same := by rw [hp, hq, h.same]
  passes := by
    rw [hp]
    refine ⟨h.passes.rest.trans hrest, fun a rest' hok => ?_⟩
    have := h.passes.taken a rest' hok
    omega

theorem AgreeOn.congr (h : AgreeOn k p' q' ts) (hp : p ts = p' ts) (hq : q ts = q' ts) :
    AgreeOn k p q ts :=
  h.of_rest hp hq (List.suffix_refl ts) le_rfl

/-- Passing over the first token takes one. -/
theorem AgreeOn.cons (h : AgreeOn k p' q' ts) {t : Token} (hp : p (t :: ts) = p' ts)
    (hq : q (t :: ts) = q' ts) : AgreeOn 1 p q (t :: ts) :=
  h.of_rest hp hq (List.suffix_cons t ts) (by simp only [List.length_cons]; omega)

theorem AgreeOn.weaken (h : AgreeOn k p q ts) (hk : k' ≤ k) : AgreeOn k' p q ts :=
  h.of_rest rfl rfl (List.suffix_refl ts) (by omega)

theorem Agree.mono (h : Agree n k p q) (hn : n' ≤ n) : Agree n' k p q :=
  fun ts hts => h ts (Nat.le_trans hts hn)

theorem Agree.weaken (h : Agree n k p q) (hk : k' ≤ k) : Agree n k' p q :=
  fun ts hts => (h ts hts).weaken hk

theorem agree_pure (a : α) : Agree n 0 (pure a) (pure a) :=
  fun ts _ => .of_ok rfl rfl (List.suffix_refl ts) (by omega)

theorem agree_refuse (expected : Expected) :
    Agree n k (refuse expected : Parse α) (refuse expected) :=
  fun ts _ => .of_fail rfl rfl (List.suffix_refl ts)

/-- The second parser only sees the tokens that the first one leaves. -/
theorem AgreeOn.bind (hp : AgreeOn k p q ts)
    (hf : ∀ a rest, rest.length + k ≤ ts.length → AgreeOn k' (f a) (g a) rest) :
    AgreeOn (k + k') (p >>= f) (q >>= g) ts := by
  obtain ⟨hsame, ⟨hrest, htaken⟩⟩ := hp
  cases hreply : p ts with
  | ok a rest =>
    -- both go on with the same result, at the same place
    rw [hreply] at hrest hsame
    have hlength := htaken a rest hreply
    exact (hf a rest hlength).of_rest (bind_of_eq_ok hreply) (bind_of_eq_ok hsame.symm) hrest
      (by omega)
  | fail expected rest =>
    rw [hreply] at hrest hsame
    have hfail : ∀ {p : Parse α} {f : α → Parse β}, p ts = .fail expected rest →
        (p >>= f) ts = .fail expected rest := by
      intro p f h
      simp only [Bind.bind, h]
    exact .of_fail (hfail hreply) (hfail hsame.symm) hrest

theorem Agree.andThen (hp : Agree n k p q) (hf : ∀ a, Agree n k' (f a) (g a)) :
    Agree n k (p >>= f) (q >>= g) :=
  fun ts hts => ((hp ts hts).bind fun a rest hrest => hf a rest (by omega)).weaken (by omega)

theorem Agree.after (hp : Agree n 0 p q) (hf : ∀ a, Agree n k (f a) (g a)) :
    Agree n k (p >>= f) (q >>= g) :=
  fun ts hts => ((hp ts hts).bind fun a rest hrest => hf a rest (by omega)).weaken (by omega)

/-- If the first parser takes a token, one token less is left for the second. -/
theorem Agree.step (hp : Agree (n + 1) 1 p q) (hf : ∀ a, Agree n 0 (f a) (g a)) :
    Agree (n + 1) 1 (p >>= f) (q >>= g) :=
  fun ts hts => (hp ts hts).bind fun a rest hrest => hf a rest (by omega)

end rules

/-! ### Single tokens -/

section tokens

variable (n : Nat) (kind : TokenKind)

theorem agree_token : Agree n 1 (token kind) (token kind) := by
  rintro (_ | ⟨t, ts⟩) -
  · exact .of_fail rfl rfl (List.suffix_refl [])
  · by_cases h : t.kind = kind
    · exact .of_ok (if_pos h) (if_pos h) (List.suffix_cons t ts) le_rfl
    · exact .of_fail (if_neg h) (if_neg h) (List.suffix_refl _)

theorem agree_accept : Agree n 0 (accept kind) (accept kind) := by
  rintro (_ | ⟨t, ts⟩) -
  · exact .of_ok rfl rfl (List.suffix_refl []) le_rfl
  · by_cases h : t.kind = kind
    · exact .of_ok (if_pos h) (if_pos h) (List.suffix_cons t ts) (by simp)
    · exact .of_ok (if_neg h) (if_neg h) (List.suffix_refl _) le_rfl

theorem agree_name : Agree n 1 name name := by
  rintro (_ | ⟨t, ts⟩) -
  · exact .of_fail rfl rfl (List.suffix_refl [])
  · by_cases h : t.kind.isName = true
    · exact .of_ok (if_pos h) (if_pos h) (List.suffix_cons t ts) le_rfl
    · exact .of_fail (if_neg h) (if_neg h) (List.suffix_refl _)

theorem agree_key : Agree n 1 key key := by
  rintro (_ | ⟨t, ts⟩) hts
  · exact (agree_name n [] hts).congr rfl rfl
  · by_cases h : t.kind = .string
    · exact .of_ok (if_pos h) (if_pos h) (List.suffix_cons t ts) le_rfl
    · exact (agree_name n _ hts).congr (if_neg h) (if_neg h)

theorem agree_fieldEnd : Agree n 0 fieldEnd fieldEnd := by
  rintro (_ | ⟨t, ts⟩) -
  · exact .of_fail rfl rfl (List.suffix_refl [])
  · by_cases h : t.kind = .comma ∨ t.kind = .semicolon
    · exact .of_ok (if_pos h) (if_pos h) (List.suffix_cons t ts) (by simp)
    · by_cases hbrace : t.kind = .rbrace
      · have heq : fieldEnd (t :: ts) = .ok () (t :: ts) := by simp [fieldEnd, hbrace]
        exact .of_ok heq heq (List.suffix_refl _) le_rfl
      · have heq : fieldEnd (t :: ts) = .fail .fieldEnd (t :: ts) := by simp [fieldEnd, h, hbrace]
        exact .of_fail heq heq (List.suffix_refl _)

theorem agree_commaOr : Agree n 0 (commaOr kind) (commaOr kind) := by
  intro ts hts
  by_cases h : nextKind ts = kind
  · exact .of_ok (if_pos h) (if_pos h) (List.suffix_refl ts) le_rfl
  · have hcomma : Agree n 1 (do let _ ← token .comma; return : Parse Unit)
        (do let _ ← token .comma; return) :=
      (agree_token n .comma).andThen fun _ => agree_pure ()
    exact ((hcomma ts hts).weaken (by omega)).congr (if_neg h) (if_neg h)

end tokens

/-! ### Lists -/

section lists

variable {n m m' : Nat} {close separator : TokenKind} {item item' : Parse α} {sep : Parse Unit}

theorem itemsUntil_nil : itemsUntil close item sep m [] = .ok [] [] := by
  cases m <;> rfl

theorem agree_itemsUntil (hitem : Agree n 1 item item') (hsep : ∀ n, Agree n 0 sep sep) (hm : n ≤ m)
    (hm' : n ≤ m') :
    Agree n 0 (itemsUntil close item sep m) (itemsUntil close item' sep m') := by
  induction n generalizing m m' with
  | zero =>
    intro ts hts
    obtain rfl := List.eq_nil_of_length_eq_zero (Nat.le_zero.1 hts)
    exact .of_ok itemsUntil_nil itemsUntil_nil (List.suffix_refl []) le_rfl
  | succ n ih =>
    obtain ⟨m, rfl⟩ : ∃ k, m = k + 1 := ⟨m - 1, by omega⟩
    obtain ⟨m', rfl⟩ : ∃ k, m' = k + 1 := ⟨m' - 1, by omega⟩
    intro ts hts
    by_cases h : (ts.isEmpty || nextKind ts = close) = true
    · exact .of_ok (if_pos h) (if_pos h) (List.suffix_refl ts) le_rfl
    · -- the item takes a token, so the bounds of the other items are large enough again
      have hothers : Agree n 0 (itemsUntil close item sep m) (itemsUntil close item' sep m') :=
        ih (hitem.mono (by omega)) (by omega) (by omega)
      have hitems := hitem.step fun a => (hsep n).andThen fun _ => hothers.andThen fun as =>
        agree_pure (a :: as)
      exact ((hitems ts hts).weaken (by omega)).congr (if_neg h) (if_neg h)

theorem agree_enclosed (hitem : Agree n 1 item item') (hsep : ∀ n, Agree n 0 sep sep) :
    Agree n 1 (enclosed close item sep) (enclosed close item' sep) := by
  intro ts hts
  have hitems : Agree ts.length 0 (itemsUntil close item sep ts.length)
      (itemsUntil close item' sep ts.length) :=
    agree_itemsUntil (hitem.mono hts) hsep le_rfl le_rfl
  have hclosed := hitems.after fun items => (agree_token ts.length close).andThen fun _ =>
    agree_pure items
  exact (hclosed ts le_rfl).congr rfl rfl

theorem following_nil : following separator item m [] = .ok [] [] := by
  cases m <;> rfl

theorem agree_following (hitem : Agree n 1 item item') (hm : n ≤ m) (hm' : n ≤ m') :
    Agree n 0 (following separator item m) (following separator item' m') := by
  induction n generalizing m m' with
  | zero =>
    intro ts hts
    obtain rfl := List.eq_nil_of_length_eq_zero (Nat.le_zero.1 hts)
    exact .of_ok following_nil following_nil (List.suffix_refl []) le_rfl
  | succ n ih =>
    obtain ⟨m, rfl⟩ : ∃ k, m = k + 1 := ⟨m - 1, by omega⟩
    obtain ⟨m', rfl⟩ : ∃ k, m' = k + 1 := ⟨m' - 1, by omega⟩
    -- a separator need not be there, but with one there is an item, and it takes a token
    have hothers : Agree n 0 (following separator item m) (following separator item' m') :=
      ih (hitem.mono (by omega)) (by omega) (by omega)
    refine (agree_accept (n + 1) separator).after fun found => ?_
    cases found with
    | false => exact agree_pure []
    | true =>
      exact (hitem.step fun a => hothers.andThen fun as => agree_pure (a :: as)).weaken (by omega)

theorem agree_separated (hitem : Agree n 1 item item') :
    Agree n 1 (separated separator item) (separated separator item') := by
  have hothers : Agree n 0 (fun ts => following separator item ts.length ts)
      (fun ts => following separator item' ts.length ts) :=
    fun ts hts => (agree_following (hitem.mono hts) le_rfl le_rfl ts le_rfl).congr rfl rfl
  exact hitem.andThen fun first => hothers.andThen fun others => agree_pure (first :: others)

end lists

/-! ### Types -/

section types

variable {n m m' : Nat} {type type' : Parse TypeExpr}

theorem agree_named (h : Agree n 1 type type') (v : String) :
    Agree n 0 (named type v) (named type' v) := by
  unfold named
  split
  · exact agree_pure _
  · refine (agree_accept n .less).after fun found => ?_
    cases found with
    | false => exact agree_pure _
    | true =>
      exact ((agree_separated h).andThen fun _ => (agree_token n .greater).andThen fun _ =>
        agree_pure _).weaken (by omega)

theorem agree_field (h : Agree n 1 type type') : Agree n 1 (field type) (field type') :=
  (agree_key n).andThen fun _ => (agree_accept n .question).andThen fun _ =>
    (agree_token n .colon).andThen fun _ => h.andThen fun _ => agree_pure _

theorem agree_object (h : Agree n 1 type type') : Agree n 1 (object type) (object type') :=
  (agree_enclosed (agree_field h) agree_fieldEnd).andThen fun _ => agree_pure _

theorem agree_tuple (h : Agree n 1 type type') : Agree n 1 (tuple type) (tuple type') :=
  (agree_enclosed h fun n => agree_commaOr n .rbracket).andThen fun _ => agree_pure _

theorem agree_labelled (h : Agree n 1 type type') (label : String) (optional : Bool) :
    Agree n 1 (labelled type label optional) (labelled type' label optional) :=
  h.andThen fun _ => agree_pure _

/-- The label of an argument, if it has one, does not depend on how types are read. -/
theorem argument_cases (ts : List Token) : (∀ type, argument type ts = type ts) ∨
    ∃ label optional rest, rest <:+ ts ∧
      ∀ type, argument type ts = labelled type label optional rest := by
  match ts with
  | [] | [t] => exact .inl fun _ => rfl
  | [t, u] =>
    by_cases h : t.kind.isName ∧ u.kind = .colon
    · exact .inr ⟨t.value, false, [], List.nil_suffix, fun _ => if_pos h⟩
    · exact .inl fun _ => if_neg h
  | t :: u :: v :: rest =>
    by_cases h : t.kind.isName ∧ u.kind = .colon
    · exact .inr ⟨t.value, false, v :: rest, ⟨[t, u], rfl⟩, fun _ => if_pos h⟩
    · by_cases h' : t.kind.isName ∧ u.kind = .question ∧ v.kind = .colon
      · exact .inr ⟨t.value, true, rest, ⟨[t, u, v], rfl⟩,
          fun _ => (if_neg h).trans (if_pos h')⟩
      · exact .inl fun _ => (if_neg h).trans (if_neg h')

theorem agree_argument (h : Agree n 1 type type') : Agree n 1 (argument type) (argument type') := by
  intro ts hts
  obtain heq | ⟨label, optional, rest, hrest, heq⟩ := argument_cases ts
  · exact (h ts hts).congr (heq type) (heq type')
  · have hlength := hrest.length_le
    exact (agree_labelled h label optional rest (by omega)).of_rest (heq type) (heq type') hrest
      (by omega)

theorem agree_afterArguments (h : Agree n 1 type type') (args : List TypeExpr) :
    Agree n 0 (afterArguments type args) (afterArguments type' args) := by
  refine (agree_accept n .arrow).after fun found => ?_
  cases found with
  | true => exact (h.andThen fun _ => agree_pure _).weaken (by omega)
  | false =>
    match args with
    | [] => exact agree_refuse _
    | [only] =>
      cases h : only.label.isNone && !only.optional with
      | false => simpa [h] using agree_refuse .arrow
      | true => simpa [h] using agree_pure only
    | _ :: _ :: _ => exact agree_refuse _

theorem agree_parenthesis (h : Agree n 1 type type') :
    Agree n 1 (parenthesis type) (parenthesis type') :=
  (agree_enclosed (agree_argument h) fun n => agree_commaOr n .rparen).andThen
    (agree_afterArguments h)

theorem agree_primary (h : Agree n 1 type type') :
    Agree (n + 1) 1 (primary type) (primary type') := by
  rintro (_ | ⟨⟨kind, span, v⟩, ts⟩) hts
  · exact .of_fail rfl rfl (List.suffix_refl [])
  · have hlength : ts.length ≤ n := Nat.le_of_succ_le_succ hts
    cases kind with
    | name => exact (agree_named h v ts hlength).cons rfl rfl
    | string | number => exact (agree_pure (n := n) _ ts hlength).cons rfl rfl
    | lbrace => exact (agree_object h ts hlength).cons rfl rfl
    | lbracket => exact (agree_tuple h ts hlength).cons rfl rfl
    | lparen => exact (agree_parenthesis h ts hlength).cons rfl rfl
    | _ => exact .of_fail rfl rfl (List.suffix_refl _)

/-- The types inside a type have at least one token less than the type itself. -/
theorem agree_typeOver (h : Agree n 1 type type') :
    Agree (n + 1) 1 (typeOver type) (typeOver type') :=
  (agree_separated ((agree_separated (agree_primary h)).andThen fun _ => agree_pure _)).andThen
    fun _ => agree_pure _

theorem typeWithin_nil : typeWithin m [] = .fail .type [] := by
  cases m <;> rfl

theorem agree_typeWithin (hm : n ≤ m) (hm' : n ≤ m') :
    Agree n 1 (typeWithin m) (typeWithin m') := by
  induction n generalizing m m' with
  | zero =>
    intro ts hts
    obtain rfl := List.eq_nil_of_length_eq_zero (Nat.le_zero.1 hts)
    exact .of_fail typeWithin_nil typeWithin_nil (List.suffix_refl [])
  | succ n ih =>
    obtain ⟨m, rfl⟩ : ∃ k, m = k + 1 := ⟨m - 1, by omega⟩
    obtain ⟨m', rfl⟩ : ∃ k, m' = k + 1 := ⟨m' - 1, by omega⟩
    exact agree_typeOver (ih (by omega) (by omega))

theorem agree_type (hm : n ≤ m) : Agree n 1 (typeWithin m) Parse.type :=
  fun ts hts => (agree_typeWithin (Nat.le_trans hts hm) le_rfl ts le_rfl).congr rfl rfl

end types

/-! ### Statements -/

section statements

variable (n : Nat)

theorem agree_type_self : Agree n 1 type type :=
  fun ts _ => (agree_typeWithin le_rfl le_rfl ts le_rfl).congr rfl rfl

theorem agree_primary_self : Agree n 1 (primary type) (primary type) :=
  (agree_primary (agree_type_self n)).mono (Nat.le_succ n)

theorem agree_importNames : Agree n 1 importNames importNames :=
  (agree_token n .lbrace).andThen fun _ =>
    (agree_enclosed (agree_name n) fun n => agree_commaOr n .rbrace).andThen fun _ =>
      (agree_token n .fromKeyword).andThen fun _ => (agree_token n .string).andThen fun _ =>
        agree_pure _

theorem agree_params : Agree n 0 params params := by
  refine (agree_accept n .less).after fun found => ?_
  cases found with
  | false => exact agree_pure _
  | true =>
    exact ((agree_separated (agree_name n)).andThen fun _ =>
      (agree_token n .greater).andThen fun _ => agree_pure _).weaken (by omega)

theorem agree_declaration : Agree n 1 declaration declaration :=
  (agree_name n).andThen fun _ => (agree_params n).andThen fun _ =>
    (agree_token n .colon).andThen fun _ => (agree_type_self n).andThen fun _ => agree_pure _

theorem agree_assignment : Agree n 1 assignment assignment :=
  (agree_name n).andThen fun _ => (agree_token n .colon).andThen fun _ =>
    (agree_type_self n).andThen fun _ => agree_pure _

theorem agree_bareStatement : Agree n 1 bareStatement bareStatement := by
  rintro (_ | ⟨t, ts⟩) hts
  · exact .of_fail rfl rfl (List.suffix_refl [])
  · have hlength : ts.length ≤ n := Nat.le_of_succ_le hts
    by_cases himport : t.kind = .importKeyword ∧ nextKind ts ≠ .colon
    · have heq : bareStatement (t :: ts) = importNames ts := if_pos himport
      exact (agree_importNames n ts hlength).cons heq heq
    by_cases htype : t.kind = .typeKeyword ∧ nextKind ts ≠ .colon
    · have heq : bareStatement (t :: ts) = declaration ts := (if_neg himport).trans (if_pos htype)
      exact (agree_declaration n ts hlength).cons heq heq
    by_cases hname : t.kind.isName = true
    · have heq : bareStatement (t :: ts) = assignment (t :: ts) :=
        (if_neg himport).trans ((if_neg htype).trans (if_pos hname))
      exact (agree_assignment n (t :: ts) hts).congr heq heq
    · have heq : bareStatement (t :: ts) = .fail .statement (t :: ts) :=
        (if_neg himport).trans ((if_neg htype).trans (if_neg hname))
      exact .of_fail heq heq (List.suffix_refl _)

theorem agree_statement : Agree n 1 statement statement :=
  (agree_bareStatement n).andThen fun _ => (agree_accept n .semicolon).andThen fun _ => agree_pure _

end statements

/-! ### Where reading goes on -/

theorem resumeAfter_suffix (last : TokenKind) (ts : List Token) : resumeAfter last ts <:+ ts := by
  induction ts generalizing last with
  | nil => exact List.suffix_refl []
  | cons t ts ih =>
    rw [resumeAfter]
    split
    · exact List.suffix_refl (t :: ts)
    · exact (ih t.kind).trans (List.suffix_cons t ts)

theorem resume_cons_suffix (t : Token) (ts : List Token) : resume (t :: ts) <:+ ts :=
  resumeAfter_suffix t.kind ts

theorem resume_suffix (ts : List Token) : resume ts <:+ ts := by
  cases ts with
  | nil => exact List.suffix_refl []
  | cons t ts => exact (resume_cons_suffix t ts).trans (List.suffix_cons t ts)

/-- Where reading goes on, something has been passed over, unless the end has been reached. -/
theorem length_resume_lt {ts stop : List Token} (hts : ts ≠ []) (hstop : stop <:+ ts) :
    (resume stop).length < ts.length := by
  cases stop with
  | nil => exact List.length_pos_iff.2 hts
  | cons t us =>
    have := (resume_cons_suffix t us).length_le
    have := hstop.length_le
    simp only [List.length_cons] at this
    omega

/-! ### The loops without bounds -/

instance : LawfulMonad Parse := LawfulMonad.mk' _
  (fun p => funext fun ts => by
    cases h : p ts with
    | ok a rest => exact bind_of_eq_ok h
    | fail expected rest => simp only [Functor.map, h])
  (fun _ _ => rfl)
  (fun p f g => funext fun ts => by cases h : p ts <;> simp only [Bind.bind, h])

section loops

variable {item : Parse α} {sep : Parse Unit} {ts : List Token}

theorem bind_congr_left {p q : Parse α} (h : p ts = q ts) (f : α → Parse β) :
    (p >>= f) ts = (q >>= f) ts := by
  simp only [Bind.bind, h]

theorem type_eq : type = typeOver type := by
  funext ts
  cases ts with
  | nil => rfl
  | cons t ts => exact (agree_typeOver (agree_type le_rfl) (t :: ts) le_rfl).same

theorem enclosed_of_closed {close : TokenKind} (h : ts = [] ∨ nextKind ts = close) :
    enclosed close item sep ts = (do let _ ← token close; return []) ts := by
  have hitems : itemsUntil close item sep ts.length ts = .ok [] ts := by
    cases ts with
    | nil => rfl
    | cons t ts => exact if_pos (by simpa using h)
  exact bind_of_eq_ok hitems

theorem enclosed_of_not_closed (hitem : Forward 1 item) (hsep : Forward 0 sep) (close : TokenKind)
    (h : ¬(ts = [] ∨ nextKind ts = close)) :
    enclosed close item sep ts = (do
      let a ← item
      sep
      let as ← enclosed close item sep
      return a :: as) ts := by
  rw [← agree_self_iff] at hitem hsep
  obtain ⟨t, ts, rfl⟩ := List.exists_cons_of_ne_nil fun hnil => h (.inl hnil)
  have hitems : itemsUntil close item sep (ts.length + 1) (t :: ts) = (do
      let a ← item
      sep
      let as ← itemsUntil close item sep ts.length
      return a :: as) (t :: ts) := if_neg (by simpa using h)
  -- what is left of the bound may be more than the tokens that are left
  have hothers : ∀ a, Agree ts.length 0
      (do
        let as ← itemsUntil close item sep ts.length
        let _ ← token close
        return a :: as)
      (do
        let as ← enclosed close item sep
        return a :: as) := by
    intro a us hus
    have hleft : Agree us.length 0 (itemsUntil close item sep ts.length)
        (itemsUntil close item sep us.length) :=
      agree_itemsUntil (hitem us.length) hsep hus le_rfl
    have hclosed := hleft.andThen fun as => (agree_token us.length close).andThen fun _ =>
      agree_pure (a :: as)
    have henclosed : enclosed close item sep us = (do
      let as ← itemsUntil close item sep us.length
      let _ ← token close
      return as) us := rfl
    refine (hclosed us le_rfl).congr rfl ((bind_congr_left henclosed _).trans ?_)
    simp only [bind_assoc, pure_bind]
  have hsame := (hitem _).step fun a => (hsep _).andThen fun _ => hothers a
  rw [← (hsame (t :: ts) le_rfl).same]
  refine (bind_congr_left hitems _).trans ?_
  simp only [bind_assoc, pure_bind]

theorem following_eq (hitem : Forward 1 item) (separator : TokenKind) :
    (fun ts => following separator item ts.length ts) = (do
      if ← accept separator then separated separator item else return [] : Parse (List α)) := by
  rw [← agree_self_iff] at hitem
  funext ts
  cases ts with
  | nil => rfl
  | cons t ts =>
    have hleft : Agree ts.length 0 (following separator item ts.length)
        (fun ts => following separator item ts.length ts) :=
      fun us hus => (agree_following (hitem us.length) hus le_rfl us le_rfl).congr rfl rfl
    have hfollowing : Agree (ts.length + 1) 0 (following separator item (ts.length + 1)) (do
        if ← accept separator then separated separator item else return []) := by
      refine (agree_accept _ separator).after fun found => ?_
      cases found with
      | false => exact agree_pure []
      | true =>
        exact ((hitem _).step fun a => hleft.andThen fun as => agree_pure (a :: as)).weaken
          (by omega)
    exact (hfollowing (t :: ts) le_rfl).same

theorem separated_eq (hitem : Forward 1 item) (separator : TokenKind) :
    separated separator item = (do
      let first ← item
      let others ← (do if ← accept separator then separated separator item else return [])
      return first :: others) :=
  congrArg (fun others => item >>= fun first => others >>= fun as => pure (first :: as))
    (following_eq hitem separator)

end loops

/-- The loops end by themselves.  Each has the equations of the loop without a bound, given that its
items take a token; all items of the grammar do. -/
structure Unbounded : Prop where
  nested : type = typeOver type
  enclosed_nil {α : Type} (item : Parse α) (sep : Parse Unit) (close : TokenKind)
    (ts : List Token) : ts = [] ∨ nextKind ts = close →
      enclosed close item sep ts = (do let _ ← token close; return []) ts
  enclosed_cons {α : Type} (item : Parse α) (sep : Parse Unit) (close : TokenKind)
    (ts : List Token) : Forward 1 item → Forward 0 sep → ¬(ts = [] ∨ nextKind ts = close) →
      enclosed close item sep ts = (do
        let a ← item
        sep
        let as ← enclosed close item sep
        return a :: as) ts
  separated {α : Type} (item : Parse α) (separator : TokenKind) : Forward 1 item →
    separated separator item = (do
      let first ← item
      let others ← (do if ← accept separator then separated separator item else return [])
      return first :: others)
  forward_name : Forward 1 name
  forward_type : Forward 1 type
  forward_field : Forward 1 (field type)
  forward_argument : Forward 1 (argument type)
  forward_primary : Forward 1 (primary type)
  forward_intersection : Forward 1 (intersectionOf <$> Parse.separated .amp (primary type))
  forward_fieldEnd : Forward 0 fieldEnd
  forward_commaOr (close : TokenKind) : Forward 0 (commaOr close)

theorem unbounded : Unbounded where
  nested := type_eq
  enclosed_nil _ _ _ _ := enclosed_of_closed
  enclosed_cons _ _ close _ hitem hsep := enclosed_of_not_closed hitem hsep close
  separated _ separator hitem := separated_eq hitem separator
  forward_name := agree_self_iff.1 agree_name
  forward_type := agree_self_iff.1 agree_type_self
  forward_field := agree_self_iff.1 fun n => agree_field (agree_type_self n)
  forward_argument := agree_self_iff.1 fun n => agree_argument (agree_type_self n)
  forward_primary := agree_self_iff.1 agree_primary_self
  forward_intersection := agree_self_iff.1 fun n =>
    (agree_separated (agree_primary_self n)).andThen fun _ => agree_pure _
  forward_fieldEnd := agree_self_iff.1 agree_fieldEnd
  forward_commaOr close := agree_self_iff.1 fun n => agree_commaOr n close

end Parse

end SigCheck
